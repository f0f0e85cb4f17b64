/-
Module: ReplicaBridge.Schedule.Kind
Purpose: The kinds of work that wait for the game thread, and which work may be
  superseded by later work.
Main exports: TaskKind, TaskKind.coalesceKey?
-/

namespace ReplicaBridge.Schedule

/-- What a task does, as far as back-pressure and shutdown are concerned. -/
inductive TaskKind where
  /-- An avatar spawns. -/
  | spawn
  /-- An avatar despawns; this work still runs when the session shuts down. -/
  | despawn
  /-- The season or the clock changes. -/
  | environment
  /-- A full state for one entity, from the server. -/
  | avatarUpdate (id : UInt64)
  /-- A full state for the local entity; superseded only by other local writes. -/
  | localAvatarUpdate (id : UInt64)
  /-- Anything else. -/
  | general
deriving Repr, Inhabited, DecidableEq

namespace TaskKind

/-- Work with a key is superseded by later work with the same key: it carries a full
state. -/
def coalesceKey? : TaskKind → Option TaskKind
  | .avatarUpdate id => some (.avatarUpdate id)
  | .localAvatarUpdate id => some (.localAvatarUpdate id)
  | _ => none

/-- The name shown in messages. -/
def name : TaskKind → String
  | .spawn => "Spawn"
  | .despawn => "Despawn"
  | .environment => "Environment"
  | .avatarUpdate id => s!"AvatarUpdate({id})"
  | .localAvatarUpdate id => s!"LocalAvatarUpdate({id})"
  | .general => "General"

end TaskKind

end ReplicaBridge.Schedule
