/-
Module: ReplicaBridge.Proofs.Lockstep
Purpose: Two loops in lockstep: they have one queue, and their worlds are related.  An action
  may unwind in one of them alone only if it is the last of its task, for what unwinds then has
  nothing left to skip.  So drains run the same tasks on both sides, count the same and leave
  them in lockstep, however deep they nest.
Main exports: Schedule.Script.EndsOn, Schedule.GameLoop.Lockstep, Schedule.GameLoop.Abreast,
  Schedule.GameLoop.Lockstep.drain
-/
import ReplicaBridge.Proofs.SteadyLoop

namespace ReplicaBridge.Schedule

/-- The given actions are the last of a script where they come up. -/
def Script.EndsOn {α : Type} (last : α → Prop) : Script α → Prop
  | .done | .panic => True
  | .act action next => (last action → next = .done) ∧ next.EndsOn last
  | .post _ _ _ next | .drain _ next | .shutDown _ next => next.EndsOn last

namespace GameLoop

variable {α σ : Type} [Workplace σ α]

/-- Worlds stay related through every action, and it unwinds in both or in neither unless it is
one of the given; what one world alone hears, and on which thread, is nothing to the relation. -/
structure Lockstep (related : σ → σ → Prop) (last : α → Prop) : Prop where
  symm : ∀ {left right}, related left right → related right left
  perform : ∀ action {left right}, related left right →
    related (Workplace.perform action left).1 (Workplace.perform action right).1
  unwinds : ∀ action {left right}, ¬last action → related left right →
    (Workplace.perform action left).2 = (Workplace.perform action right).2
  hear : ∀ event {left right}, related left right → related (Workplace.hear event left) right
  onThread : ∀ caller {left right}, related left right →
    related (Workplace.onThread caller left) right

/-- The loops have one queue of tasks that end on the given actions, and related worlds. -/
structure Abreast (related : σ → σ → Prop) (last : α → Prop) (left right : GameLoop α σ) :
    Prop where
  scheduler : left.scheduler = right.scheduler
  world : related left.world right.world
  queue : ∀ task ∈ left.scheduler.queue, task.Fits (·.work.EndsOn last)

omit [Workplace σ α] in
theorem Abreast.countExecuted {related : σ → σ → Prop} {last : α → Prop}
    {left right : GameLoop α σ} (abreast : left.Abreast related last right) {count count' : Nat}
    (same : count = count') :
    ({ left with scheduler := left.scheduler.countExecuted count } : GameLoop α σ).Abreast
      related last { right with scheduler := right.scheduler.countExecuted count' } := by
  subst same
  exact ⟨by rw [abreast.scheduler], abreast.world, abreast.queue⟩

namespace Lockstep

variable {related : σ → σ → Prop} {last : α → Prop} (lockstep : Lockstep related last)
  {left right : GameLoop α σ}

include lockstep

theorem symm_abreast (abreast : left.Abreast related last right) :
    right.Abreast related last left where
  scheduler := abreast.scheduler.symm
  world := lockstep.symm abreast.world
  queue := abreast.scheduler ▸ abreast.queue

/-- What one loop hears alone is nothing to the other. -/
theorem hear_left (abreast : left.Abreast related last right) (event : Option QueueEvent) :
    (left.hear event).Abreast related last right := by
  cases event with
  | none => exact abreast
  | some event => exact ⟨abreast.scheduler, lockstep.hear event abreast.world, abreast.queue⟩

theorem hear_both (abreast : left.Abreast related last right)
    (leftEvent rightEvent : Option QueueEvent) :
    (left.hear leftEvent).Abreast related last (right.hear rightEvent) :=
  lockstep.symm_abreast (lockstep.hear_left
    (lockstep.symm_abreast (lockstep.hear_left abreast leftEvent)) rightEvent)

theorem onThread_both (leftCaller rightCaller : Caller) {left right : σ}
    (same : related left right) :
    related (Workplace.onThread leftCaller left) (Workplace.onThread rightCaller right) :=
  lockstep.symm (lockstep.onThread rightCaller (lockstep.symm (lockstep.onThread leftCaller same)))

theorem post (abreast : left.Abreast related last right) {kind : TaskKind} {body : Script α}
    (fit : Task.Fits (·.work.EndsOn last) { kind, work := body }) :
    (left.post kind body).Abreast related last (right.post kind body) := by
  have posted : ({ left with scheduler := (left.scheduler.post { kind, work := body }).1 } :
      GameLoop α σ).Abreast related last
        { right with scheduler := (right.scheduler.post { kind, work := body }).1 } := by
    refine ⟨by rw [abreast.scheduler], abreast.world, fun task waits => ?_⟩
    rcases Scheduler.mem_queue_post waits with before | rfl
    · exact abreast.queue task before
    · exact fit
  exact lockstep.hear_both posted _ _

theorem shutDown (abreast : left.Abreast related last right) :
    left.shutDown.Abreast related last right.shutDown := by
  have stopped : ({ left with scheduler := left.scheduler.shutDown.1 } : GameLoop α σ).Abreast
      related last { right with scheduler := right.scheduler.shutDown.1 } := by
    refine ⟨by rw [abreast.scheduler], abreast.world, fun task waits => abreast.queue task ?_⟩
    unfold Scheduler.shutDown at waits
    split at waits <;> exact waits
  exact lockstep.hear_both stopped _ _

theorem handTo (caller : Caller) {work : GameLoop α σ → GameLoop α σ}
    (kept : ∀ left right, left.Abreast related last right →
      (work left).Abreast related last (work right))
    (abreast : left.Abreast related last right) :
    (handTo caller work left).Abreast related last (handTo caller work right) := by
  have worked := kept { left with world := Workplace.onThread caller left.world }
    { right with world := Workplace.onThread caller right.world }
    ⟨abreast.scheduler, lockstep.onThread_both caller caller abreast.world, abreast.queue⟩
  exact ⟨worked.scheduler, lockstep.onThread_both _ _ worked.world, worked.queue⟩

theorem refuseDrain (abreast : left.Abreast related last right) :
    left.refuseDrain.1.Abreast related last right.refuseDrain.1 :=
  lockstep.handTo .elsewhere (fun _ _ abreast => lockstep.hear_both abreast _ _) abreast

section Nested

variable {nested : Nested α σ}
  (kept : ∀ left right, left.Abreast related last right →
    (nested left).1.Abreast related last (nested right).1 ∧ (nested left).2 = (nested right).2)

include kept

theorem runScript {script : Script α} (ends : script.EndsOn last)
    (posts : script.Posts (·.work.EndsOn last)) (abreast : left.Abreast related last right) :
    (runScript nested script left).1.Abreast related last (runScript nested script right).1 := by
  induction script generalizing left right with
  | done => exact abreast
  | panic => exact abreast
  | act action next ih =>
      have acted : ({ left with world := (Workplace.perform action left.world).1 } :
          GameLoop α σ).Abreast related last
            { right with world := (Workplace.perform action right.world).1 } :=
        ⟨abreast.scheduler, lockstep.perform action abreast.world, abreast.queue⟩
      simp only [GameLoop.runScript]
      by_cases final : last action
      · -- Nothing follows, so it does not matter on which side the action unwinds.
        rw [ends.1 final]
        split <;> split <;> exact acted
      · rw [lockstep.unwinds action final abreast.world]
        split
        · exact acted
        · exact ih ends.2 posts acted
  | post caller kind body next _ ih =>
      obtain ⟨fit, deep, later⟩ := posts
      exact ih ends later
        (lockstep.handTo caller (fun _ _ abreast => lockstep.post abreast ⟨fit, deep⟩) abreast)
  | shutDown caller next ih =>
      exact ih ends posts
        (lockstep.handTo caller (fun _ _ abreast => lockstep.shutDown abreast) abreast)
  | drain caller next ih =>
      refine ih ends posts (lockstep.hear_both ?_ _ _)
      cases caller with
      | gameThread => exact (kept left right abreast).1
      | elsewhere => exact lockstep.refuseDrain abreast

theorem runTask {task : Task (Script α)} (fit : task.Fits (·.work.EndsOn last))
    (abreast : left.Abreast related last right) :
    (runTask nested task left).Abreast related last (runTask nested task right) := by
  have ran := lockstep.runScript kept fit.1 fit.2 abreast
  -- One side alone may report the task.
  have reported (loop : GameLoop α σ) : ∃ event, GameLoop.runTask nested task loop =
      (GameLoop.runScript nested task.work loop).1.hear event := by
    unfold GameLoop.runTask
    split <;> rename_i done <;> rw [done]
    · exact ⟨none, rfl⟩
    · exact ⟨_, rfl⟩
  obtain ⟨leftEvent, leftRan⟩ := reported left
  obtain ⟨rightEvent, rightRan⟩ := reported right
  rw [leftRan, rightRan]
  exact lockstep.hear_both ran leftEvent rightEvent

theorem runBatch (shuttingDown : Bool) {batch : List (Task (Script α))}
    (fit : ∀ task ∈ batch, task.Fits (·.work.EndsOn last))
    (abreast : left.Abreast related last right) :
    (runBatch nested shuttingDown batch left).1.Abreast related last
        (runBatch nested shuttingDown batch right).1 ∧
      (runBatch nested shuttingDown batch left).2 =
        (runBatch nested shuttingDown batch right).2 := by
  induction batch generalizing left right with
  | nil => exact ⟨abreast, rfl⟩
  | cons task rest ih =>
      obtain ⟨first, later⟩ := List.forall_mem_cons.mp fit
      simp only [GameLoop.runBatch]
      split
      · have discarded : ({ left with scheduler := left.scheduler.countDiscarded 1 } :
            GameLoop α σ).Abreast related last
              { right with scheduler := right.scheduler.countDiscarded 1 } :=
          ⟨by rw [abreast.scheduler], abreast.world, abreast.queue⟩
        exact ih later discarded
      · obtain ⟨ran, counts⟩ := ih later (lockstep.runTask kept first abreast)
        exact ⟨ran, congrArg (· + 1) counts⟩

theorem drainOnce (abreast : left.Abreast related last right) :
    (drainOnce nested left).1.Abreast related last (drainOnce nested right).1 ∧
      (drainOnce nested left).2 = (drainOnce nested right).2 := by
  obtain ⟨scheduler, leftWorld⟩ := left
  obtain ⟨_, rightWorld⟩ := right
  obtain ⟨rfl, world, queue⟩ := abreast
  have taken : (⟨scheduler.take.1, leftWorld⟩ : GameLoop α σ).Abreast related last
      ⟨scheduler.take.1, rightWorld⟩ := ⟨rfl, world, nofun⟩
  obtain ⟨ran, counts⟩ := lockstep.runBatch kept scheduler.take.1.shuttingDown queue taken
  exact ⟨ran.countExecuted counts, counts⟩

end Nested

theorem drainTo (depth : Nat) (abreast : left.Abreast related last right) :
    (drainTo depth left).1.Abreast related last (drainTo depth right).1 ∧
      (drainTo depth left).2 = (drainTo depth right).2 := by
  induction depth generalizing left right with
  | zero => exact ⟨abreast, rfl⟩
  | succ depth ih => exact lockstep.drainOnce (fun _ _ abreast => ih abreast) abreast

/-- Both loops run the same tasks, and as many. -/
theorem drain (abreast : left.Abreast related last right) (caller : Caller) :
    (left.drain caller).1.Abreast related last (right.drain caller).1 ∧
      (left.drain caller).2 = (right.drain caller).2 := by
  cases caller with
  | gameThread =>
      simp only [GameLoop.drain]
      rw [← abreast.scheduler]
      exact lockstep.drainTo _ abreast
  | elsewhere => exact ⟨lockstep.refuseDrain abreast, rfl⟩

end Lockstep

end GameLoop

end ReplicaBridge.Schedule
