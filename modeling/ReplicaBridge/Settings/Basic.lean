/-
Module: ReplicaBridge.Settings.Basic
Purpose: What can be configured, and the values that apply when nothing is.
Main exports: ReplicationSettings, SchedulerSettings, ReflectionSettings, Settings
-/

namespace ReplicaBridge

/-- Settings of the replication channel. -/
structure ReplicationSettings where
  /-- Frames for which an update of an avatar that was not spawned yet is kept. -/
  pendingUpdateTicks : Nat := 60
  /-- Invalid messages within the window that end the connection. -/
  invalidBurstThreshold : Nat := 8
  /-- The length of the window in milliseconds. -/
  invalidBurstWindowMs : Nat := 1000
  /-- The longest chat text accepted or sent, in bytes. -/
  maxChatLength : Nat := 512
deriving Repr, Inhabited, DecidableEq

/-- Settings of the game-thread queue. -/
structure SchedulerSettings where
  /-- The length above which avatar updates are coalesced. -/
  softCap : Nat := 1024
deriving Repr, Inhabited, DecidableEq

/-- The host's names for the classes that are called. -/
structure ReflectionSettings where
  seasonChangerClass : String := "Game.SeasonChanger"
  schedulerClass : String := "Game.Scheduler"
deriving Repr, Inhabited, DecidableEq

/-- All settings. -/
structure Settings where
  version : Nat := 1
  debug : Bool := false
  logFilter : String := "info"
  replication : ReplicationSettings := {}
  scheduler : SchedulerSettings := {}
  reflection : ReflectionSettings := {}
deriving Repr, Inhabited, DecidableEq

namespace Settings

/-- The filter to log with: the debug switch overrides the configured one. -/
def effectiveLogFilter (settings : Settings) : String :=
  if settings.debug then "debug" else settings.logFilter

end Settings

end ReplicaBridge
