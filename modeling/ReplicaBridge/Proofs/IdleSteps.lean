/-
Module: ReplicaBridge.Proofs.IdleSteps
Purpose: Actions that do nothing where something holds that lasts.  A loop whose scripts leave
  them out, and the scripts that these post, runs as the loop with them does: drains come to the
  same world and the same counts, and leave queues that differ by those actions only.
Main exports: Schedule.Script.without, Schedule.GameLoop.without, Schedule.GameLoop.Idles,
  Schedule.GameLoop.Idles.drain
-/
import ReplicaBridge.Proofs.SteadyLoop

namespace ReplicaBridge.Schedule

variable {α σ : Type}

/-! ### Leaving actions out -/

/-- The script without the idle actions, those of the tasks it posts included. -/
def Script.without (idle : α → Bool) : Script α → Script α
  | .done => .done
  | .panic => .panic
  | .act action next =>
    if idle action then next.without idle else .act action (next.without idle)
  | .post caller kind body next => .post caller kind (body.without idle) (next.without idle)
  | .drain caller next => .drain caller (next.without idle)
  | .shutDown caller next => .shutDown caller (next.without idle)

/-- No drain is left out. -/
theorem Script.drains_without (idle : α → Bool) (script : Script α) :
    (script.without idle).drains = script.drains := by
  induction script with
  | done => rfl
  | panic => rfl
  | act action next ih =>
      rw [without]
      split
      · exact ih
      · exact ih
  | post caller kind body next ihBody ihNext => rw [without, drains, drains, ihBody, ihNext]
  | drain caller next ih => rw [without, drains, drains, ih]
  | shutDown caller next ih => rw [without, drains, drains, ih]

namespace GameLoop

/-- The loop whose tasks leave the idle actions out. -/
def without (idle : α → Bool) (loop : GameLoop α σ) : GameLoop α σ :=
  { loop with scheduler := loop.scheduler.map (·.without idle) }

theorem queuedDrains_without (idle : α → Bool) (queue : List (Task (Script α))) :
    queuedDrains (queue.map (Task.map (·.without idle))) = queuedDrains queue := by
  unfold queuedDrains
  rw [List.foldl_map]
  simp only [Task.map, Script.drains_without]

variable [Workplace σ α] (idle : α → Bool) (loop : GameLoop α σ)

/-! ### What is only queued or reported -/

theorem hear_without (event : Option QueueEvent) :
    (loop.without idle).hear event = (loop.hear event).without idle := by
  cases event <;> rfl

theorem post_without (kind : TaskKind) (body : Script α) :
    (loop.without idle).post kind (body.without idle) = (loop.post kind body).without idle := by
  let task : Task (Script α) := { kind, work := body }
  have posted : (loop.scheduler.map (·.without idle)).post (task.map (·.without idle)) = _ :=
    Scheduler.post_map (·.without idle) loop.scheduler task
  simp only [post, without]
  rw [show (loop.scheduler.map _).post { kind, work := body.without idle } = _ from posted]
  exact hear_without idle { loop with scheduler := (loop.scheduler.post task).1 } _

theorem shutDown_without : (loop.without idle).shutDown = loop.shutDown.without idle := by
  simp only [shutDown, without]
  rw [Scheduler.shutDown_map]
  exact hear_without idle { loop with scheduler := loop.scheduler.shutDown.1 } _

/-- What commutes for one thread does so when it is handed to another. -/
theorem handTo_without (caller : Caller) {left right : GameLoop α σ → GameLoop α σ}
    (same : ∀ loop : GameLoop α σ, left (loop.without idle) = (right loop).without idle) :
    handTo caller left (loop.without idle) = (handTo caller right loop).without idle := by
  have worked := same { loop with world := Workplace.onThread caller loop.world }
  exact congrArg (fun worked => ({ worked with
    world := Workplace.onThread (Workplace.thread loop.world) worked.world } : GameLoop α σ)) worked

theorem refuseDrain_without : (loop.without idle).refuseDrain =
    (loop.refuseDrain.1.without idle, loop.refuseDrain.2) :=
  congrArg (·, 0) (handTo_without idle loop .elsewhere fun loop => hear_without idle loop _)

/-! ### Running -/

/-- Idle actions neither do anything nor unwind where something holds that lasts. -/
structure Idles (idle : α → Bool) (holds : σ → Prop) : Prop extends Keeps holds where
  rest : ∀ action world, idle action = true → holds world →
    Workplace.perform action world = (world, false)

/-- The same comes of a run without the idle actions, its answer included. -/
def Erases {β : Type} (idle : α → Bool) (run run' : GameLoop α σ → GameLoop α σ × β)
    (loop : GameLoop α σ) : Prop :=
  run' (loop.without idle) = ((run loop).1.without idle, (run loop).2)

namespace Idles

variable {idle : α → Bool} {holds : σ → Prop} (idles : Idles idle holds) {loop : GameLoop α σ}

include idles

section Nested

variable {nested : Nested α σ} (kept : ∀ loop, holds loop.world → holds (nested loop).1.world)
  (erases : ∀ loop, holds loop.world → Erases idle nested nested loop)

include kept

theorem holds_runScript (script : Script α) (holding : holds loop.world) :
    holds (runScript nested script loop).1.world :=
  (idles.whereAny.runScript (fun loop guarded => .of_world (kept loop guarded.world))
    (script.does_of_forall fun _ => trivial) (script.posts_of_forall fun _ => trivial)
    (.of_world holding)).world

theorem holds_runTask (task : Task (Script α)) (holding : holds loop.world) :
    holds (runTask nested task loop).world :=
  (idles.whereAny.runTask (fun loop guarded => .of_world (kept loop guarded.world))
    (fun task _ => task.work.does_of_forall fun _ => trivial)
    ⟨trivial, task.work.posts_of_forall fun _ => trivial⟩ (.of_world holding)).world

include erases

theorem runScript (script : Script α) (holding : holds loop.world) :
    Erases idle (runScript nested script) (GameLoop.runScript nested (script.without idle))
      loop := by
  unfold Erases
  induction script generalizing loop with
  | done => rfl
  | panic => rfl
  | act action next ih =>
      by_cases rests : idle action = true
      · simp only [Script.without, rests, if_true, GameLoop.runScript,
          idles.rest action loop.world rests holding, Bool.false_eq_true, if_false]
        exact ih holding
      · have acted : holds ({ loop with
            world := (Workplace.perform action loop.world).1 } : GameLoop α σ).world :=
          idles.perform action loop.world holding
        simp only [Script.without, rests, GameLoop.runScript]
        change (if (Workplace.perform action loop.world).2 then _ else _) = _
        split
        · rfl
        · exact ih acted
  | post caller kind body next _ ih =>
      have posted := idles.holds_runScript kept (.post caller kind body .done) holding
      simp only [Script.without, GameLoop.runScript]
      rw [handTo_without idle loop caller fun loop => post_without idle loop kind body]
      exact ih posted
  | shutDown caller next ih =>
      have stopped := idles.holds_runScript kept (.shutDown caller .done) holding
      simp only [Script.without, GameLoop.runScript]
      rw [handTo_without idle loop caller (shutDown_without idle)]
      exact ih stopped
  | drain caller next ih =>
      have drained := idles.holds_runScript kept (.drain caller .done) holding
      cases caller with
      | gameThread =>
          have inner : nested (loop.without idle) = _ := erases loop holding
          simp only [Script.without, GameLoop.runScript]
          rw [inner, hear_without]
          exact ih drained
      | elsewhere =>
          simp only [Script.without, GameLoop.runScript]
          rw [refuseDrain_without, hear_without]
          exact ih drained

theorem runTask (task : Task (Script α)) (holding : holds loop.world) :
    GameLoop.runTask nested (task.map (·.without idle)) (loop.without idle) =
      (GameLoop.runTask nested task loop).without idle := by
  have ran : GameLoop.runScript nested (task.map (·.without idle)).work (loop.without idle) = _ :=
    idles.runScript kept erases task.work holding
  unfold GameLoop.runTask
  rw [ran]
  rcases GameLoop.runScript nested task.work loop with ⟨after, unwound⟩
  cases unwound with
  | false => rfl
  | true => exact hear_without idle after _

theorem runBatch (shuttingDown : Bool) (batch : List (Task (Script α)))
    (holding : holds loop.world) :
    Erases idle (runBatch nested shuttingDown batch)
      (GameLoop.runBatch nested shuttingDown (batch.map (Task.map (·.without idle)))) loop := by
  unfold Erases
  induction batch generalizing loop with
  | nil => rfl
  | cons task rest ih =>
      have kind : (task.map (·.without idle)).kind = task.kind := rfl
      rw [List.map_cons, GameLoop.runBatch, GameLoop.runBatch, kind]
      split
      · have discarded : holds ({ loop with
            scheduler := loop.scheduler.countDiscarded 1 } : GameLoop α σ).world := holding
        exact ih discarded
      · rw [idles.runTask kept erases task holding, ih (idles.holds_runTask kept task holding)]

theorem drainOnce (holding : holds loop.world) :
    Erases idle (GameLoop.drainOnce nested) (GameLoop.drainOnce nested) loop := by
  have taken : holds ({ loop with scheduler := loop.scheduler.take.1 } : GameLoop α σ).world :=
    holding
  have ran := idles.runBatch kept erases loop.scheduler.take.1.shuttingDown loop.scheduler.queue
    taken
  exact congrArg (fun ran => (({ ran.1 with
    scheduler := ran.1.scheduler.countExecuted ran.2 } : GameLoop α σ), ran.2)) ran

end Nested

theorem drainTo (depth : Nat) (holding : holds loop.world) :
    Erases idle (GameLoop.drainTo depth) (GameLoop.drainTo depth) loop := by
  induction depth generalizing loop with
  | zero => rfl
  | succ depth ih =>
      have lasts (loop : GameLoop α σ) (holding : holds loop.world) :
          holds (GameLoop.drainTo depth loop).1.world :=
        (idles.whereAny.drainTo (fun task _ => task.work.does_of_forall fun _ => trivial) depth
          (.of_world holding)).world
      exact idles.drainOnce lasts (fun _ holding => ih holding) holding

/-- However deep drains nest. -/
theorem drain (holding : holds loop.world) (caller : Caller) :
    (loop.without idle).drain caller =
      ((loop.drain caller).1.without idle, (loop.drain caller).2) := by
  cases caller with
  | gameThread =>
      have depth : queuedDrains (loop.without idle).scheduler.queue =
          queuedDrains loop.scheduler.queue := queuedDrains_without idle _
      simp only [GameLoop.drain, depth]
      exact idles.drainTo _ holding
  | elsewhere => exact refuseDrain_without idle loop

end Idles

end GameLoop

end ReplicaBridge.Schedule
