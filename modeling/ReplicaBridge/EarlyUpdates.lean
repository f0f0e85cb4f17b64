/-
Module: ReplicaBridge.EarlyUpdates
Purpose: Updates that arrived before their avatar was spawned.  A full state supersedes
  an earlier one, so at most one is held for each entity, stamped with the frame it
  arrived in.
Main exports: EarlyUpdates, EarlyUpdates.buffer, EarlyUpdates.take, EarlyUpdates.expire
-/
import ReplicaBridge.EntityMap

namespace ReplicaBridge

/-- A held update. -/
structure HeldUpdate where
  /-- The frame it arrived in. -/
  tick : Nat
  state : AvatarState
deriving Repr, Inhabited, DecidableEq

/-- The newest early update of each entity. -/
structure EarlyUpdates where
  held : EntityMap HeldUpdate
deriving Inhabited

namespace EarlyUpdates

def empty : EarlyUpdates := { held := .empty }

/-- Hold an update; says whether it replaced an older one. -/
def buffer (updates : EarlyUpdates) (id : EntityId) (state : AvatarState) (tick : Nat) :
    EarlyUpdates × Bool :=
  ({ held := updates.held.insert id { tick, state } }, updates.held.contains id)

/-- Remove and give an entity's update. -/
def take (updates : EarlyUpdates) (id : EntityId) : EarlyUpdates × Option AvatarState :=
  ({ held := updates.held.erase id }, (updates.held.get? id).map (·.state))

/-- Drop an entity's update; says whether one was held. -/
def discard (updates : EarlyUpdates) (id : EntityId) : EarlyUpdates × Bool :=
  ({ held := updates.held.erase id }, updates.held.contains id)

/-- An update is still fresh when it has waited less than the given number of frames. -/
def isFresh (now maxAge : Nat) (update : HeldUpdate) : Bool :=
  now - update.tick < maxAge

/-- Drop the updates that have waited long enough; says how many. -/
def expire (updates : EarlyUpdates) (now maxAge : Nat) : EarlyUpdates × Nat :=
  let kept := updates.held.filter (isFresh now maxAge)
  ({ held := kept }, updates.held.size - kept.size)

/-- The number of entities with a held update. -/
def size (updates : EarlyUpdates) : Nat :=
  updates.held.size

end EarlyUpdates

end ReplicaBridge
