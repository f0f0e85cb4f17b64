/-
Module: ReplicaBridge.Schedule.Loop
Purpose: Running queued work.  Work is a script: it acts on the world, posts more work,
  starts a drain of its own, shuts the queue down, or unwinds.  A drain runs the tasks
  that were queued when it started, in order; what they post waits for the next drain.
Main exports: Script, Workplace, GameLoop, GameLoop.post, GameLoop.drain
-/
import ReplicaBridge.Schedule.Queue
import ReplicaBridge.Thread

namespace ReplicaBridge.Schedule

/-- What a task does, step by step. -/
inductive Script (α : Type) where
  | done
  /-- Unwind. -/
  | panic
  /-- Act on the world, then go on unless the action unwinds. -/
  | act (action : α) (next : Script α)
  /-- Post a task. -/
  | post (caller : Caller) (kind : TaskKind) (body next : Script α)
  /-- Run a drain. -/
  | drain (caller : Caller) (next : Script α)
  /-- Shut the queue down. -/
  | shutDown (caller : Caller) (next : Script α)
deriving Repr, Inhabited, DecidableEq

namespace Script

variable {α : Type}

/-- The script of a single action. -/
def once (action : α) : Script α :=
  .act action .done

/-- The drains that a script and all it posts can start. -/
def drains : Script α → Nat
  | .done | .panic => 0
  | .act _ next | .shutDown _ next => next.drains
  | .post _ _ body next => body.drains + next.drains
  | .drain _ next => next.drains + 1

end Script

/-- A world on which actions can be performed and which hears of the queue's events, and on
which thread they come up. -/
class Workplace (σ : Type) (α : outParam Type) where
  /-- Perform an action; says whether it unwound. -/
  perform : α → σ → σ × Bool
  /-- Hear of an event of the queue. -/
  hear : QueueEvent → σ → σ
  /-- The thread that is at work. -/
  thread : σ → Caller
  /-- Leave the work to a thread. -/
  onThread : Caller → σ → σ

/-- A queue of scripts beside the world they act on. -/
structure GameLoop (α σ : Type) where
  scheduler : Scheduler (Script α)
  world : σ

namespace GameLoop

variable {α σ : Type} [Workplace σ α]

/-- Report an event of the queue, if there is one. -/
def hear (loop : GameLoop α σ) (event : Option QueueEvent) : GameLoop α σ :=
  match event with
  | none => loop
  | some event => { loop with world := Workplace.hear event loop.world }

/-- Post a task. -/
def post (loop : GameLoop α σ) (kind : TaskKind) (body : Script α) : GameLoop α σ :=
  let (scheduler, event) := loop.scheduler.post { kind, work := body }
  { loop with scheduler }.hear event

/-- Stop accepting work. -/
def shutDown (loop : GameLoop α σ) : GameLoop α σ :=
  let (scheduler, event) := loop.scheduler.shutDown
  { loop with scheduler }.hear event

/-- How a drain started by a script runs. -/
abbrev Nested (α σ : Type) := GameLoop α σ → GameLoop α σ × Nat

/-- Let a thread do something, and go on with the thread that was at work before. -/
def handTo (caller : Caller) (work : GameLoop α σ → GameLoop α σ) (loop : GameLoop α σ) :
    GameLoop α σ :=
  let worked := work { loop with world := Workplace.onThread caller loop.world }
  { worked with world := Workplace.onThread (Workplace.thread loop.world) worked.world }

/-- A drain asked for off the game thread does nothing. -/
def refuseDrain (loop : GameLoop α σ) : GameLoop α σ × Nat :=
  (handTo .elsewhere (·.hear (some .drainRefused)) loop, 0)

/-- Run a script; says whether it unwound. -/
def runScript (nested : Nested α σ) : Script α → GameLoop α σ → GameLoop α σ × Bool
  | .done, loop => (loop, false)
  | .panic, loop => (loop, true)
  | .act action next, loop =>
    let (world, unwound) := Workplace.perform action loop.world
    if unwound then ({ loop with world }, true) else runScript nested next { loop with world }
  | .post caller kind body next, loop =>
    runScript nested next (handTo caller (·.post kind body) loop)
  | .drain caller next, loop =>
    let (loop, count) := match caller with
      | .gameThread => nested loop
      | .elsewhere => loop.refuseDrain
    runScript nested next (loop.hear (some (.nestedDrain count)))
  | .shutDown caller next, loop => runScript nested next (handTo caller shutDown loop)

/-- Run one task and report it if it unwinds. -/
def runTask (nested : Nested α σ) (task : Task (Script α)) (loop : GameLoop α σ) :
    GameLoop α σ :=
  match runScript nested task.work loop with
  | (loop, false) => loop
  | (loop, true) => loop.hear (some (.taskPanicked task.kind))

/-- Run a batch in order; during a shutdown all but the despawns are dropped.  Gives the
number of tasks run. -/
def runBatch (nested : Nested α σ) (shuttingDown : Bool) :
    List (Task (Script α)) → GameLoop α σ → GameLoop α σ × Nat
  | [], loop => (loop, 0)
  | task :: rest, loop =>
    if shuttingDown && task.kind != .despawn then
      runBatch nested shuttingDown rest
        { loop with scheduler := loop.scheduler.countDiscarded 1 }
    else
      let (loop, count) := runBatch nested shuttingDown rest (runTask nested task loop)
      (loop, count + 1)

/-- One drain: take the queue, run it, count it. -/
def drainOnce (nested : Nested α σ) (loop : GameLoop α σ) : GameLoop α σ × Nat :=
  let (scheduler, batch) := loop.scheduler.take
  let (loop, count) := runBatch nested scheduler.shuttingDown batch { loop with scheduler }
  ({ loop with scheduler := loop.scheduler.countExecuted count }, count)

/-- A drain in which drains nest at most `depth` deep. -/
def drainTo : (depth : Nat) → Nested α σ
  | 0 => fun loop => (loop, 0)
  | depth + 1 => drainOnce (drainTo depth)

/-- The drains that queued scripts can start, which bounds how deep drains nest. -/
def queuedDrains (queue : List (Task (Script α))) : Nat :=
  queue.foldl (fun count task => count + task.work.drains) 0

/-- Run every task queued so far, in order; gives the number of tasks run.  Off the game
thread nothing is run. -/
def drain (loop : GameLoop α σ) (caller : Caller) : GameLoop α σ × Nat :=
  match caller with
  | .gameThread => drainTo (queuedDrains loop.scheduler.queue + 1) loop
  | .elsewhere => loop.refuseDrain

end GameLoop

end ReplicaBridge.Schedule
