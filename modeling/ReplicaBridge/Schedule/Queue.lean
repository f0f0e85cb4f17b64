/-
Module: ReplicaBridge.Schedule.Queue
Purpose: The queue of work for the game thread.  Anyone may post; a drain takes what is
  there when it starts.  When the queue grows past its soft cap, full-state updates that
  a later one supersedes are dropped.
Main exports: Task, Scheduler, coalesce, Scheduler.post, Scheduler.take,
  Scheduler.shutDown
-/
import ReplicaBridge.Fault
import ReplicaBridge.Schedule.Kind

namespace ReplicaBridge.Schedule

/-- A piece of queued work. -/
structure Task (α : Type) where
  kind : TaskKind
  work : α
deriving Repr, Inhabited, DecidableEq

namespace Task

variable {α : Type}

/-- A later task of the queue has the same key. -/
def isSupersededBy (task : Task α) (later : List (Task α)) : Bool :=
  match task.kind.coalesceKey? with
  | none => false
  | some key => later.any (·.kind.coalesceKey? == some key)

end Task

/-- Keep every task that no later one supersedes, in order. -/
def coalesce {α : Type} : List (Task α) → List (Task α)
  | [] => []
  | task :: later =>
    if task.isSupersededBy later then coalesce later else task :: coalesce later

/-- The queue and its counters. -/
structure Scheduler (α : Type) where
  /-- The length above which full-state updates are coalesced; at least one. -/
  softCap : Nat
  queue : List (Task α)
  /-- The length at which the next coalescing pass runs. -/
  coalesceAt : Nat
  shuttingDown : Bool
  /-- Tasks that were accepted. -/
  posted : Nat
  /-- Tasks that were run. -/
  executed : Nat
  /-- Tasks that a later one superseded. -/
  coalesced : Nat
  /-- Tasks that were refused, or dropped by a drain, because of the shutdown. -/
  discarded : Nat
deriving Repr, Inhabited, DecidableEq

/-- Something worth reporting about the queue. -/
inductive QueueEvent where
  /-- A pass dropped superseded updates. -/
  | coalesced (removed queued : Nat)
  /-- A pass found nothing to drop. -/
  | overSoftCap (queued : Nat)
  /-- No more work is accepted from here on. -/
  | shuttingDown (queued : Nat)
  /-- A task unwound; the next one runs all the same. -/
  | taskPanicked (kind : TaskKind)
  /-- A drain was asked for off the game thread and did nothing. -/
  | drainRefused
  /-- A task ran a drain of its own, which executed so many tasks. -/
  | nestedDrain (executed : Nat)
deriving Repr, Inhabited, DecidableEq

namespace Scheduler

variable {α : Type}

/-- An empty queue. -/
def ofSoftCap (softCap : Nat) : Scheduler α :=
  let softCap := max softCap 1
  { softCap, queue := [], coalesceAt := softCap + 1, shuttingDown := false, posted := 0,
    executed := 0, coalesced := 0, discarded := 0 }

/-- The bytes that are set aside for each task up to the soft cap. -/
def taskRoom : Nat := 32

/-- What is wrong with setting room aside for a soft cap, if anything. -/
def roomFault? (softCap : Nat) : Option Fault :=
  Fault.ofSize? (max softCap 1 * taskRoom)

/-- The number of tasks that wait for the next drain. -/
def length (scheduler : Scheduler α) : Nat :=
  scheduler.queue.length

/-- After shutdown only despawns count. -/
def accepts (scheduler : Scheduler α) (kind : TaskKind) : Bool :=
  !scheduler.shuttingDown || kind == .despawn

/-- The length at which the next pass runs when a pass left this many tasks: past the cap
the threshold doubles, so that posting stays cheap on average. -/
def nextThreshold (softCap left : Nat) : Nat :=
  if softCap < left then left * 2 else softCap + 1

/-- Run a coalescing pass. -/
def compact (scheduler : Scheduler α) : Scheduler α × QueueEvent :=
  let queue := coalesce scheduler.queue
  let removed := scheduler.queue.length - queue.length
  ({ scheduler with
      queue
      coalesced := scheduler.coalesced + removed
      coalesceAt := nextThreshold scheduler.softCap queue.length },
    if removed = 0 then .overSoftCap queue.length else .coalesced removed queue.length)

/-- Append a task, without a pass. -/
def enqueue (scheduler : Scheduler α) (task : Task α) : Scheduler α :=
  { scheduler with queue := scheduler.queue ++ [task], posted := scheduler.posted + 1 }

/-- Post a task.  After shutdown all but despawns are refused. -/
def post (scheduler : Scheduler α) (task : Task α) : Scheduler α × Option QueueEvent :=
  if scheduler.accepts task.kind then
    let grown := scheduler.enqueue task
    if grown.coalesceAt ≤ grown.length then
      let (compacted, event) := grown.compact
      (compacted, some event)
    else (grown, none)
  else ({ scheduler with discarded := scheduler.discarded + 1 }, none)

/-- Take the whole queue, as a drain does when it starts. -/
def take (scheduler : Scheduler α) : Scheduler α × List (Task α) :=
  ({ scheduler with queue := [], coalesceAt := scheduler.softCap + 1 }, scheduler.queue)

/-- Stop accepting work; only the first call is reported. -/
def shutDown (scheduler : Scheduler α) : Scheduler α × Option QueueEvent :=
  if scheduler.shuttingDown then (scheduler, none)
  else ({ scheduler with shuttingDown := true }, some (.shuttingDown scheduler.length))

/-- Count tasks that a drain dropped because of the shutdown. -/
def countDiscarded (scheduler : Scheduler α) (count : Nat) : Scheduler α :=
  { scheduler with discarded := scheduler.discarded + count }

/-- Count tasks that a drain ran. -/
def countExecuted (scheduler : Scheduler α) (count : Nat) : Scheduler α :=
  { scheduler with executed := scheduler.executed + count }

end Scheduler

end ReplicaBridge.Schedule
