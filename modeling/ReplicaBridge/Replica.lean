/-
Module: ReplicaBridge.Replica
Purpose: The replica of the state that the server holds: avatars, season and clock, which
  entity is the local player's, and the host effects that still wait for their objects.
Main exports: Replica, PendingEffects, UpdateOutcome, Replica.setLocalEntity,
  Replica.authority, Replica.applyUpdate, Replica.writeRow, Replica.despawn, Replica.clear
-/
import ReplicaBridge.EntityMap
import ReplicaBridge.Notice

namespace ReplicaBridge

/-- Host effects that could not be applied because their objects were missing. -/
structure PendingEffects where
  /-- The newest season that did not reach the host. -/
  season : Option Season := none
  /-- Clock deltas in the order in which they arrived. -/
  hours : List Int32 := []
deriving Repr, Inhabited, DecidableEq

namespace PendingEffects

def isEmpty (pending : PendingEffects) : Bool :=
  pending.season.isNone && pending.hours.isEmpty

end PendingEffects

/-- The replicated state. -/
structure Replica where
  rows : EntityMap AvatarState := .empty
  /-- The season applied last; `invalid` until there is one. -/
  season : Season := .invalid
  /-- The hours advanced so far, as a 64-bit word. -/
  clock : Int64 := 0
  /-- The entity that the local player owns. -/
  localEntity : Option EntityId := none
  pending : PendingEffects := {}
  /-- It was already reported that there are several schedulers. -/
  manySchedulersNoted : Bool := false
deriving Inhabited

/-- What became of an update for an avatar. -/
inductive UpdateOutcome where
  | applied
  /-- The local player's own avatar: local authority wins. -/
  | ignoredLocal
  /-- There is no such avatar yet. -/
  | notSpawned
  /-- Asked for off the game thread: the update was posted. -/
  | deferred
deriving Repr, Inhabited, DecidableEq

namespace UpdateOutcome

def name : UpdateOutcome → String
  | .applied => "Applied"
  | .ignoredLocal => "IgnoredLocal"
  | .notSpawned => "NotSpawned"
  | .deferred => "Deferred"

end UpdateOutcome

namespace Replica

/-- The identity that stands for "no local entity" where one is assigned. -/
def noEntity : EntityId := 0xFFFFFFFFFFFFFFFF

/-- What assigning an identity makes of the local entity. -/
def assigned (id : EntityId) : Option EntityId :=
  if id = noEntity then none else some id

/-- Assign the local entity; says whether that is a change. -/
def setLocalEntity (replica : Replica) (id : EntityId) : Replica × Bool :=
  ({ replica with localEntity := assigned id }, replica.localEntity != assigned id)

/-- Who owns an entity. -/
def authority (replica : Replica) (id : EntityId) : Authority :=
  if replica.localEntity = some id then .localPlayer else .replicated

/-- Apply an update from the server to a row that exists and is not the local player's. -/
def applyUpdate (replica : Replica) (id : EntityId) (state : AvatarState) :
    Replica × UpdateOutcome :=
  match replica.authority id with
  | .localPlayer => (replica, .ignoredLocal)
  | .replicated =>
    if replica.rows.contains id then
      ({ replica with rows := replica.rows.insert id (state.withId id) }, .applied)
    else (replica, .notSpawned)

/-- Write a row, whether there is one or not. -/
def writeRow (replica : Replica) (id : EntityId) (state : AvatarState) : Replica :=
  { replica with rows := replica.rows.insert id (state.withId id) }

/-- Remove a row; says whether there was one. -/
def despawn (replica : Replica) (id : EntityId) : Replica × Bool :=
  ({ replica with rows := replica.rows.erase id }, replica.rows.contains id)

/-- Host effects are waiting. -/
def hasPendingEffects (replica : Replica) : Bool :=
  !replica.pending.isEmpty

/-- Forget everything that was replicated. -/
def clear (replica : Replica) : Replica :=
  { manySchedulersNoted := replica.manySchedulersNoted }

end Replica

end ReplicaBridge
