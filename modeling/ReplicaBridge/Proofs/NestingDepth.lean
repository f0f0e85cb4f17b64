/-
Module: ReplicaBridge.Proofs.NestingDepth
Purpose: How deep drains nest.  A drain inside of a drain is started by a step of a task, and each
  such step is taken once; so the steps that wait bound the depth, and no drain is cut short.
Main exports: Schedule.GameLoop.queuedDrains_eq_sum, Schedule.GameLoop.Settled,
  Schedule.GameLoop.Settled.drainOnce, Schedule.GameLoop.drainTo_of_enough
-/
import ReplicaBridge.Proofs.SchedulerLedger
import ReplicaBridge.Schedule.Loop

namespace ReplicaBridge.Schedule.GameLoop

variable {α σ : Type}

/-! ### The drains that can still be started -/

theorem queuedDrains_eq_sum (queue : List (Task (Script α))) :
    queuedDrains queue = (queue.map (·.work.drains)).sum := by
  rw [queuedDrains, List.sum_eq_foldl, List.foldl_map]

/-- The drains that the waiting tasks of a loop can start. -/
def drainsAhead (loop : GameLoop α σ) : Nat :=
  queuedDrains loop.scheduler.queue

/-- A posted script brings its own drains along. -/
theorem queuedDrains_post (scheduler : Scheduler (Script α)) (task : Task (Script α)) :
    queuedDrains (scheduler.post task).1.queue ≤
      queuedDrains scheduler.queue + task.work.drains := by
  rw [Scheduler.post_fst]
  split
  · have divided := scheduler.perm_queue_accept task
    have same := (divided.map (·.work.drains)).sum_eq
    rw [List.map_append, List.map_append, List.sum_append, List.sum_append] at same
    simp only [queuedDrains_eq_sum, List.map_singleton, List.sum_singleton] at same ⊢
    omega
  · exact Nat.le_add_right _ _

variable [Workplace σ α]

@[simp] theorem scheduler_hear (loop : GameLoop α σ) (event : Option QueueEvent) :
    (loop.hear event).scheduler = loop.scheduler := by
  cases event <;> rfl

theorem drainsAhead_post (loop : GameLoop α σ) (caller : Caller) (kind : TaskKind)
    (body : Script α) :
    (handTo caller (·.post kind body) loop).drainsAhead ≤ loop.drainsAhead + body.drains := by
  have posted : (handTo caller (·.post kind body) loop).scheduler =
      (loop.scheduler.post { kind, work := body }).1 := scheduler_hear _ _
  rw [drainsAhead, posted]
  exact queuedDrains_post _ _

theorem drainsAhead_shutDown (loop : GameLoop α σ) (caller : Caller) :
    (handTo caller shutDown loop).drainsAhead = loop.drainsAhead := by
  have closed : (handTo caller shutDown loop).scheduler = loop.scheduler.shutDown.1 :=
    scheduler_hear _ _
  rw [drainsAhead, closed, Scheduler.shutDown_fst]
  rfl

/-! ### Enough depth -/

/-- On loops with fewer drains ahead than the depth the two ways to drain come to the same, and
leave no more drains ahead. -/
def Settled (depth : Nat) (nested nested' : Nested α σ) : Prop :=
  ∀ loop : GameLoop α σ, loop.drainsAhead < depth →
    nested loop = nested' loop ∧ (nested' loop).1.drainsAhead ≤ loop.drainsAhead

namespace Settled

variable {depth : Nat} {nested nested' : Nested α σ}

theorem runScript (settled : Settled depth nested nested') (script : Script α)
    (loop : GameLoop α σ) (enough : script.drains + loop.drainsAhead ≤ depth) :
    GameLoop.runScript nested script loop = GameLoop.runScript nested' script loop ∧
      (GameLoop.runScript nested' script loop).1.drainsAhead ≤
        script.drains + loop.drainsAhead := by
  induction script generalizing loop with
  | done => exact ⟨rfl, Nat.le_add_left _ _⟩
  | panic => exact ⟨rfl, Nat.le_add_left _ _⟩
  | act action next ih =>
      simp only [GameLoop.runScript]
      split
      · exact ⟨rfl, Nat.le_add_left _ _⟩
      · exact ih _ enough
  | post caller kind body next _ ih =>
      have posted := drainsAhead_post loop caller kind body
      simp only [Script.drains] at enough ⊢
      obtain ⟨same, bound⟩ := ih (handTo caller (·.post kind body) loop) (by omega)
      exact ⟨same, by
        simp only [GameLoop.runScript]
        omega⟩
  | drain caller next ih =>
      simp only [Script.drains] at enough ⊢
      cases caller with
      | gameThread =>
          -- The step that starts the drain is taken, so one drain fewer is left for it.
          obtain ⟨same, bound⟩ := settled loop (by omega)
          have heard : ((nested' loop).1.hear (some (.nestedDrain (nested' loop).2))).drainsAhead =
              (nested' loop).1.drainsAhead := rfl
          simp only [GameLoop.runScript, same]
          obtain ⟨later, bound'⟩ := ih
            ((nested' loop).1.hear (some (.nestedDrain (nested' loop).2))) (by omega)
          exact ⟨later, by omega⟩
      | elsewhere =>
          have refused : (loop.refuseDrain.1.hear
              (some (.nestedDrain loop.refuseDrain.2))).drainsAhead = loop.drainsAhead := rfl
          simp only [GameLoop.runScript]
          obtain ⟨later, bound'⟩ := ih
            (loop.refuseDrain.1.hear (some (.nestedDrain loop.refuseDrain.2))) (by omega)
          exact ⟨later, by omega⟩
  | shutDown caller next ih =>
      have closed := drainsAhead_shutDown loop caller
      simp only [Script.drains] at enough ⊢
      obtain ⟨same, bound⟩ := ih (handTo caller GameLoop.shutDown loop) (by omega)
      exact ⟨same, by
        simp only [GameLoop.runScript]
        omega⟩

theorem runTask (settled : Settled depth nested nested') (task : Task (Script α))
    (loop : GameLoop α σ) (enough : task.work.drains + loop.drainsAhead ≤ depth) :
    GameLoop.runTask nested task loop = GameLoop.runTask nested' task loop ∧
      (GameLoop.runTask nested' task loop).drainsAhead ≤
        task.work.drains + loop.drainsAhead := by
  obtain ⟨same, bound⟩ := settled.runScript task.work loop enough
  rw [GameLoop.runTask, GameLoop.runTask, same]
  revert bound
  rcases GameLoop.runScript nested' task.work loop with ⟨after, unwound⟩
  intro bound
  cases unwound with
  | false => exact ⟨rfl, bound⟩
  | true => exact ⟨rfl, bound⟩

theorem runBatch (settled : Settled depth nested nested') (closed : Bool)
    (batch : List (Task (Script α))) (loop : GameLoop α σ)
    (enough : queuedDrains batch + loop.drainsAhead ≤ depth) :
    GameLoop.runBatch nested closed batch loop = GameLoop.runBatch nested' closed batch loop ∧
      (GameLoop.runBatch nested' closed batch loop).1.drainsAhead ≤
        queuedDrains batch + loop.drainsAhead := by
  induction batch generalizing loop with
  | nil => exact ⟨rfl, Nat.le_add_left _ _⟩
  | cons task rest ih =>
      have sum : queuedDrains (task :: rest) = task.work.drains + queuedDrains rest := by
        simp [queuedDrains_eq_sum]
      rw [sum] at enough ⊢
      rw [GameLoop.runBatch, GameLoop.runBatch]
      split
      · have kept : drainsAhead { loop with
            scheduler := loop.scheduler.countDiscarded 1 } = loop.drainsAhead := rfl
        obtain ⟨same, bound⟩ := ih { loop with
          scheduler := loop.scheduler.countDiscarded 1 } (by omega)
        exact ⟨same, Nat.le_trans bound (by omega)⟩
      · obtain ⟨same, bound⟩ := settled.runTask task loop (by omega)
        obtain ⟨later, bound'⟩ := ih (GameLoop.runTask nested' task loop) (by omega)
        rw [same, later]
        exact ⟨rfl, Nat.le_trans bound' (by omega)⟩

/-- A drain takes away the drains ahead, so its tasks can have one level less. -/
theorem drainOnce (settled : Settled depth nested nested') :
    Settled (depth + 1) (GameLoop.drainOnce nested) (GameLoop.drainOnce nested') := by
  intro loop enough
  obtain ⟨same, bound⟩ := settled.runBatch loop.scheduler.shuttingDown loop.scheduler.queue
    { loop with scheduler := loop.scheduler.take.1 } (Nat.le_of_lt_succ enough)
  rw [GameLoop.drainOnce, GameLoop.drainOnce]
  exact ⟨congrArg (fun ran => ({ ran.1 with scheduler := ran.1.scheduler.countExecuted ran.2 },
    ran.2)) same, bound⟩

theorem drainTo (depth extra : Nat) :
    Settled depth (drainTo (depth + extra) : Nested α σ) (GameLoop.drainTo depth) := by
  induction depth with
  | zero => exact fun loop enough => absurd enough (Nat.not_lt_zero _)
  | succ depth ih =>
      rw [Nat.succ_add]
      exact ih.drainOnce

end Settled

/-- Drains may nest as deep as they like: more depth changes nothing. -/
theorem drainTo_of_enough (loop : GameLoop α σ) (extra : Nat) :
    drainTo (queuedDrains loop.scheduler.queue + 1 + extra) loop = loop.drain .gameThread :=
  (Settled.drainTo (queuedDrains loop.scheduler.queue + 1) extra loop (Nat.lt_succ_self _)).1

end ReplicaBridge.Schedule.GameLoop
