/-
Module: ReplicaBridge.Notice
Purpose: What a session reports while it runs: every notice with its severity and text,
  and the report that collects them beside the status flags.
Main exports: Severity, Notice, Notice.severity, Notice.text, Report, Report.heard
-/
import ReplicaBridge.Avatar
import ReplicaBridge.Error
import ReplicaBridge.Schedule.Kind
import ReplicaBridge.Season
import ReplicaBridge.Status
import ReplicaBridge.Thread

namespace ReplicaBridge

open Host (Object)
open Schedule (TaskKind)

/-- How serious a notice is. -/
inductive Severity where
  | error
  | warn
  | info
  | debug
deriving Repr, Inhabited, DecidableEq

namespace Severity

def name : Severity → String
  | .error => "ERROR"
  | .warn => "WARN"
  | .info => "INFO"
  | .debug => "DEBUG"

end Severity

/-- Who owns an avatar: the local player, or the server. -/
inductive Authority where
  | localPlayer
  | replicated
deriving Repr, Inhabited, DecidableEq

namespace Authority

def name : Authority → String
  | .localPlayer => "Local"
  | .replicated => "Replicated"

end Authority

/-- Something a session reports. -/
inductive Notice where
  | threadViolation (operation : String)
  | hostUnsupported (reason : String)
  | furtherMismatch (reason : String)
  | disconnectRequested (reason : String)
  | objectMissing (name : String) (ready : Bool)
  | objectResolved (name : String) (object : Object)
  | functionResolved (className method : String) (params size : Nat)
  | registryDropped (objects functions : Nat)
  | propertyUnreadable (index : Nat) (function : Object)
  | callSkipped (name : String) (target function : Object)
  | hostCallsDisabled (error : InvokeError)
  | advanceInterrupted (index count : Nat) (hours : Int32)
  | coalesced (removed queued : Nat)
  | overSoftCap (queued : Nat)
  | taskPanicked (kind : TaskKind)
  | schedulerShuttingDown (queued : Nat)
  | localEntitySet (id : EntityId)
  | seasonSet (season : Season)
  | clockAdvanced (hours : Int32) (total : Int64)
  | avatarSpawned (id : EntityId) (authority : Authority) (replaced : Bool)
  | avatarDespawned (id : EntityId)
  | pendingSeasonApplied (season : Season)
  | pendingSeasonDropped (season : Season) (error : CallError)
  | pendingHoursDropped (count : Nat) (error : CallError)
  | effectDeferred (error : CallError)
  | effectFailed (error : CallError)
  | manySchedulers (count : Nat)
  | messageDropped (error : ChannelError)
  | seasonNotApplied (error : ReplicaError)
  | spawnFailed (id : EntityId) (error : ReplicaError)
  | bufferedUpdateFailed (id : EntityId) (error : ReplicaError)
  | updateFailed (id : EntityId) (error : ReplicaError)
  | bufferedUpdateDropped (id : EntityId)
  | updatesExpired (count : Nat)
  | channelClosed
  | firingChat (bytes : Nat)
  | firingSpawned (id : EntityId)
  | firingDespawned (id : EntityId)
  | shutdownDrained (count : Nat)
  | shutdownElsewhere
deriving Repr, Inhabited, DecidableEq

namespace Notice

def severity : Notice → Severity
  | .threadViolation _ | .hostUnsupported _ | .hostCallsDisabled _ | .taskPanicked _ => .error
  | .disconnectRequested _ | .propertyUnreadable _ _ | .callSkipped _ _ _
  | .advanceInterrupted _ _ _ | .overSoftCap _ | .pendingSeasonDropped _ _
  | .pendingHoursDropped _ _ | .effectFailed _ | .manySchedulers _ | .messageDropped _
  | .seasonNotApplied _ | .spawnFailed _ _ | .bufferedUpdateFailed _ _ | .updateFailed _ _
  | .shutdownElsewhere => .warn
  | .localEntitySet _ => .info
  | .furtherMismatch _ | .objectMissing _ _ | .objectResolved _ _ | .functionResolved _ _ _ _
  | .registryDropped _ _ | .coalesced _ _ | .schedulerShuttingDown _ | .seasonSet _
  | .clockAdvanced _ _ | .avatarSpawned _ _ _ | .avatarDespawned _ | .pendingSeasonApplied _
  | .effectDeferred _ | .bufferedUpdateDropped _ | .updatesExpired _ | .channelClosed
  | .firingChat _ | .firingSpawned _ | .firingDespawned _ | .shutdownDrained _ => .debug

def text : Notice → String
  | .threadViolation operation => s!"{operation} called off the game thread"
  | .hostUnsupported reason => Status.bannerText ++ ": " ++ reason
  | .furtherMismatch reason => s!"Further host mismatch: {reason}"
  | .disconnectRequested reason => s!"Disconnect requested: {reason}"
  | .objectMissing name ready => s!"Object {name} not found (ready: {ready})"
  | .objectResolved name object => s!"Resolved {name} -> {object.text}"
  | .functionResolved className method params size =>
    s!"Resolved {className}::{method} ({params} params, {size} bytes)"
  | .registryDropped objects functions =>
    s!"Registry changed: dropped {objects} objects and {functions} functions"
  | .propertyUnreadable index function =>
    s!"Property {index} of {function.entryText} unreadable, skipping"
  | .callSkipped name target function =>
    s!"Skipping {name}: null target or function ({target.handleText}, {function.handleText})"
  | .hostCallsDisabled error => s!"Disabling host calls: {error.message}"
  | .advanceInterrupted index count hours =>
    s!"AdvanceHours failed on scheduler {index} of {count}; schedulers 0..{index} already advanced by {hours}"
  | .coalesced removed queued => s!"Coalesced {removed} avatar updates ({queued} queued)"
  | .overSoftCap queued =>
    s!"Scheduler over soft cap with nothing to coalesce ({queued} queued)"
  | .taskPanicked kind => s!"{kind.name} task panicked"
  | .schedulerShuttingDown queued => s!"Scheduler shutting down with {queued} queued"
  | .localEntitySet id => s!"Local entity set to {id}"
  | .seasonSet season => s!"Season -> {season.name}"
  | .clockAdvanced hours total => s!"Clock advanced by {hours} hours (total {total})"
  | .avatarSpawned id authority replaced =>
    let suffix := if replaced then ", replaced" else ""
    s!"Spawned avatar {id} ({authority.name}{suffix})"
  | .avatarDespawned id => s!"Despawned avatar {id}"
  | .pendingSeasonApplied season => s!"Applied pending season {season.name}"
  | .pendingSeasonDropped season error =>
    s!"Dropping pending season {season.name}: {error.message}"
  | .pendingHoursDropped count error =>
    s!"Dropping {count} pending clock deltas: {error.message}"
  | .effectDeferred error => s!"Host effect deferred: {error.message}"
  | .effectFailed error => s!"Host effect failed: {error.message}"
  | .manySchedulers count => s!"{count} live schedulers found; advancing all of them"
  | .messageDropped error => s!"Dropping message: {error.message}"
  | .seasonNotApplied error => s!"Season not applied: {error.message}"
  | .spawnFailed id error => s!"Spawn of {id} failed: {error.message}"
  | .bufferedUpdateFailed id error => s!"Buffered update for {id} failed: {error.message}"
  | .updateFailed id error => s!"Update for {id} failed: {error.message}"
  | .bufferedUpdateDropped id => s!"Dropped buffered update for despawned {id}"
  | .updatesExpired count => s!"Dropped {count} updates for avatars that never spawned"
  | .channelClosed => "Replication channel closed"
  | .firingChat bytes => s!"Firing OnChat: {bytes} bytes"
  | .firingSpawned id => s!"Firing OnAvatarSpawned: entity={id}"
  | .firingDespawned id => s!"Firing OnAvatarDespawned: entity={id}"
  | .shutdownDrained count => s!"Shutdown drain ran {count} tasks"
  | .shutdownElsewhere => "Shutdown off the game thread; skipping final drain"

end Notice

/-- A notice with the thread that raised it. -/
structure Entry where
  thread : Caller
  notice : Notice
deriving Repr, Inhabited, DecidableEq

namespace Entry

/-- The entry is about a refused message. -/
def isRefusal (entry : Entry) : Bool :=
  match entry.notice with
  | .messageDropped _ => true
  | _ => false

end Entry

/-- What a session tells the outside: its status flags and the notices so far. -/
structure Report where
  status : Status := {}
  journal : List Entry := []
  /-- The thread that reports at the moment. -/
  thread : Caller := .gameThread
deriving Repr, Inhabited, DecidableEq

namespace Report

/-- Add a notice. -/
def note (report : Report) (notice : Notice) : Report :=
  { report with journal := report.journal ++ [{ thread := report.thread, notice }] }

/-- Refused messages are the business of the thread that refused the first one. -/
def refusalsHeard (report : Report) : Bool :=
  (report.journal.find? (·.isRefusal)).all (·.thread == .gameThread)

/-- The notices that are heard on the game thread: those it raised. -/
def heard (report : Report) : List Notice :=
  (report.journal.filter fun entry =>
    entry.thread == .gameThread && (!entry.isRefusal || report.refusalsHeard)).map (·.notice)

/-- The host turned out to be unsupported.  The banner is reported once. -/
def raiseUnsupported (report : Report) (reason : String) : Report :=
  { report with status := report.status.raiseUnsupported }.note
    (if report.status.bannerShown then .furtherMismatch reason else .hostUnsupported reason)

/-- Ask for the connection to be dropped; only the first request is reported. -/
def requestDisconnect (report : Report) (reason : String) : Report :=
  let asked := { report with status := report.status.requestDisconnect }
  if report.status.disconnectRequested then asked else asked.note (.disconnectRequested reason)

theorem status_requestDisconnect (report : Report) (reason : String) :
    (report.requestDisconnect reason).status = report.status.requestDisconnect := by
  unfold requestDisconnect
  dsimp only
  split
  · rfl
  · rfl

end Report

end ReplicaBridge
