/-
Module: ReplicaBridge.Proofs.SteadyLoop
Purpose: What holds of a world and is kept by its work and by what it hears of the queue holds
  after every drain, whatever the scripts in the queue do: they may unwind, post, shut the
  queue down and start drains of their own.  The tasks in the queue stay of one form if all
  that is posted is; if that form admits only some actions, only those need to keep what holds.
  What is observed of a world and never changes is the same after every drain.
Main exports: Schedule.Script.Does, Schedule.Script.Posts, Schedule.GameLoop.KeepsWhere,
  Schedule.GameLoop.KeepsWhere.drain, Schedule.GameLoop.Keeps, Schedule.GameLoop.Keeps.drain,
  Schedule.GameLoop.Steady, Schedule.GameLoop.Steady.observe_drain
-/
import ReplicaBridge.Proofs.Coalescing
import ReplicaBridge.Schedule.Loop

namespace ReplicaBridge.Schedule

/-! ### What scripts do and post -/

/-- Every action that a script itself takes is fine; those of the tasks it posts are theirs. -/
def Script.Does {α : Type} (fine : α → Prop) : Script α → Prop
  | .done | .panic => True
  | .act action next => fine action ∧ next.Does fine
  | .drain _ next | .shutDown _ next | .post _ _ _ next => next.Does fine

/-- Every task that a script posts fits, and every task that those tasks post. -/
def Script.Posts {α : Type} (fits : Task (Script α) → Prop) : Script α → Prop
  | .done | .panic => True
  | .act _ next | .drain _ next | .shutDown _ next => next.Posts fits
  | .post _ kind body next => fits { kind, work := body } ∧ body.Posts fits ∧ next.Posts fits

/-- A task fits, and every task that it posts. -/
def Task.Fits {α : Type} (fits : Task (Script α) → Prop) (task : Task (Script α)) : Prop :=
  fits task ∧ task.work.Posts fits

theorem Script.does_of_forall {α : Type} {fine : α → Prop} (all : ∀ action, fine action)
    (script : Script α) : script.Does fine := by
  induction script with
  | done => trivial
  | panic => trivial
  | act action next ih => exact ⟨all action, ih⟩
  | drain caller next ih => exact ih
  | shutDown caller next ih => exact ih
  | post caller kind body next _ ih => exact ih

theorem Script.posts_of_forall {α : Type} {fits : Task (Script α) → Prop}
    (all : ∀ task, fits task) (script : Script α) : script.Posts fits := by
  induction script with
  | done => trivial
  | panic => trivial
  | act action next ih => exact ih
  | drain caller next ih => exact ih
  | shutDown caller next ih => exact ih
  | post caller kind body next ihBody ihNext => exact ⟨all _, ihBody, ihNext⟩

/-- What waits after a post waited before, or was posted just now. -/
theorem Scheduler.mem_queue_post {α : Type} {scheduler : Scheduler α} {task other : Task α}
    (waits : other ∈ (scheduler.post task).1.queue) :
    other ∈ scheduler.queue ∨ other = task := by
  unfold post at waits
  split at waits
  · have among : other ∈ scheduler.queue ++ [task] := by
      dsimp only at waits
      split at waits
      · exact (coalesce_sublist _).subset waits
      · exact waits
    simpa using among
  · exact .inl waits

namespace GameLoop

variable {α σ β : Type} [Workplace σ α]

/-! ### What is kept -/

/-- Neither a fine action nor the queue makes an end of what holds of the world. -/
structure KeepsWhere (fine : α → Prop) (holds : σ → Prop) : Prop where
  perform : ∀ action world, fine action → holds world → holds (Workplace.perform action world).1
  hear : ∀ event world, holds world → holds (Workplace.hear event world)
  onThread : ∀ caller world, holds world → holds (Workplace.onThread caller world)

/-- Neither an action nor the queue makes an end of what holds of the world. -/
structure Keeps (holds : σ → Prop) : Prop where
  perform : ∀ action world, holds world → holds (Workplace.perform action world).1
  hear : ∀ event world, holds world → holds (Workplace.hear event world)
  onThread : ∀ caller world, holds world → holds (Workplace.onThread caller world)

/-- Something holds of the world, and all that waits fits. -/
structure Guarded (holds : σ → Prop) (fits : Task (Script α) → Prop) (loop : GameLoop α σ) :
    Prop where
  world : holds loop.world
  queue : ∀ task ∈ loop.scheduler.queue, task.Fits fits

omit [Workplace σ α] in
/-- Any task fits where nothing is asked of it. -/
theorem Guarded.of_world {holds : σ → Prop} {loop : GameLoop α σ} (holding : holds loop.world) :
    loop.Guarded holds fun _ => True :=
  ⟨holding, fun task _ => ⟨trivial, task.work.posts_of_forall fun _ => trivial⟩⟩

namespace KeepsWhere

variable {fine : α → Prop} {holds : σ → Prop} (keeps : KeepsWhere fine holds)
  {fits : Task (Script α) → Prop} {loop : GameLoop α σ}

include keeps

theorem hear_event (guarded : loop.Guarded holds fits) (event : Option QueueEvent) :
    (loop.hear event).Guarded holds fits := by
  cases event with
  | none => exact guarded
  | some event => exact ⟨keeps.hear event loop.world guarded.world, guarded.queue⟩

theorem post (guarded : loop.Guarded holds fits) {kind : TaskKind} {body : Script α}
    (fit : Task.Fits fits { kind, work := body }) : (loop.post kind body).Guarded holds fits := by
  have posted : ({ loop with scheduler := (loop.scheduler.post { kind, work := body }).1 } :
      GameLoop α σ).Guarded holds fits := by
    refine ⟨guarded.world, fun task waits => ?_⟩
    rcases Scheduler.mem_queue_post waits with before | rfl
    · exact guarded.queue task before
    · exact fit
  exact keeps.hear_event posted _

theorem shutDown (guarded : loop.Guarded holds fits) : loop.shutDown.Guarded holds fits := by
  have stopped : ({ loop with scheduler := loop.scheduler.shutDown.1 } :
      GameLoop α σ).Guarded holds fits := by
    refine ⟨guarded.world, fun task waits => guarded.queue task ?_⟩
    unfold Scheduler.shutDown at waits
    split at waits <;> exact waits
  exact keeps.hear_event stopped _

theorem handTo (caller : Caller) {work : GameLoop α σ → GameLoop α σ}
    (kept : ∀ loop, loop.Guarded holds fits → (work loop).Guarded holds fits)
    (guarded : loop.Guarded holds fits) : (handTo caller work loop).Guarded holds fits :=
  have worked := kept { loop with world := Workplace.onThread caller loop.world }
    ⟨keeps.onThread caller loop.world guarded.world, guarded.queue⟩
  ⟨keeps.onThread _ _ worked.world, worked.queue⟩

theorem refuseDrain (guarded : loop.Guarded holds fits) :
    loop.refuseDrain.1.Guarded holds fits :=
  keeps.handTo .elsewhere (fun _ guarded => keeps.hear_event guarded _) guarded

section Nested

variable {nested : Nested α σ}
  (kept : ∀ loop, loop.Guarded holds fits → (nested loop).1.Guarded holds fits)

include kept

theorem runScript {script : Script α} (does : script.Does fine) (posts : script.Posts fits)
    (guarded : loop.Guarded holds fits) :
    (runScript nested script loop).1.Guarded holds fits := by
  -- What a script posts is only queued, so the induction is on the script's own steps.
  induction script generalizing loop with
  | done => exact guarded
  | panic => exact guarded
  | act action next ih =>
      obtain ⟨first, rest⟩ := does
      have acted : ({ loop with world := (Workplace.perform action loop.world).1 } :
          GameLoop α σ).Guarded holds fits :=
        ⟨keeps.perform action loop.world first guarded.world, guarded.queue⟩
      simp only [GameLoop.runScript]
      split
      · exact acted
      · exact ih rest posts acted
  | post caller kind body next _ ih =>
      obtain ⟨fit, deep, later⟩ := posts
      exact ih does later
        (keeps.handTo caller (fun _ guarded => keeps.post guarded ⟨fit, deep⟩) guarded)
  | shutDown caller next ih =>
      exact ih does posts (keeps.handTo caller (fun _ guarded => keeps.shutDown guarded) guarded)
  | drain caller next ih =>
      refine ih does posts (keeps.hear_event ?_ _)
      cases caller with
      | gameThread => exact kept loop guarded
      | elsewhere => exact keeps.refuseDrain guarded

variable (does : ∀ task, fits task → task.work.Does fine)

include does

theorem runTask {task : Task (Script α)} (fit : task.Fits fits)
    (guarded : loop.Guarded holds fits) : (runTask nested task loop).Guarded holds fits := by
  have ran := keeps.runScript kept (does task fit.1) fit.2 guarded
  unfold GameLoop.runTask
  split <;> (rename_i done; rw [done] at ran)
  · exact ran
  · exact keeps.hear_event ran _

theorem runBatch (shuttingDown : Bool) {batch : List (Task (Script α))}
    (fit : ∀ task ∈ batch, task.Fits fits) (guarded : loop.Guarded holds fits) :
    (runBatch nested shuttingDown batch loop).1.Guarded holds fits := by
  induction batch generalizing loop with
  | nil => exact guarded
  | cons task rest ih =>
      obtain ⟨first, later⟩ := List.forall_mem_cons.mp fit
      simp only [GameLoop.runBatch]
      split
      · exact ih later ⟨guarded.world, guarded.queue⟩
      · exact ih later (keeps.runTask kept does first guarded)

end Nested

section Drains

variable (does : ∀ task, fits task → task.work.Does fine)

include does

/-- However deep drains nest. -/
theorem drainTo (depth : Nat) (guarded : loop.Guarded holds fits) :
    (drainTo depth loop).1.Guarded holds fits := by
  induction depth generalizing loop with
  | zero => exact guarded
  | succ depth ih =>
      have taken : ({ loop with scheduler := loop.scheduler.take.1 } :
          GameLoop α σ).Guarded holds fits := ⟨guarded.world, nofun⟩
      have ran := keeps.runBatch (fun _ guarded => ih guarded) does
        loop.scheduler.take.1.shuttingDown guarded.queue taken
      exact ⟨ran.world, ran.queue⟩

/-- Whatever the queued scripts do, as long as all that fits takes fine actions only. -/
theorem drain (guarded : loop.Guarded holds fits) (caller : Caller) :
    (loop.drain caller).1.Guarded holds fits := by
  cases caller with
  | gameThread => exact keeps.drainTo does _ guarded
  | elsewhere => exact keeps.refuseDrain guarded

end Drains

end KeepsWhere

namespace Keeps

variable {holds : σ → Prop} (keeps : Keeps holds) {fits : Task (Script α) → Prop}
  {loop : GameLoop α σ}

include keeps

theorem whereAny : KeepsWhere (fun _ : α => True) holds where
  perform action world _ holding := keeps.perform action world holding
  hear := keeps.hear
  onThread := keeps.onThread

theorem post (guarded : loop.Guarded holds fits) {kind : TaskKind} {body : Script α}
    (fit : Task.Fits fits { kind, work := body }) : (loop.post kind body).Guarded holds fits :=
  keeps.whereAny.post guarded fit

theorem shutDown (guarded : loop.Guarded holds fits) : loop.shutDown.Guarded holds fits :=
  keeps.whereAny.shutDown guarded

theorem handTo (caller : Caller) {work : GameLoop α σ → GameLoop α σ}
    (kept : ∀ loop, loop.Guarded holds fits → (work loop).Guarded holds fits)
    (guarded : loop.Guarded holds fits) : (handTo caller work loop).Guarded holds fits :=
  keeps.whereAny.handTo caller kept guarded

/-- Whatever the queued scripts do, as long as what they post fits. -/
theorem drain (guarded : loop.Guarded holds fits) (caller : Caller) :
    (loop.drain caller).1.Guarded holds fits :=
  keeps.whereAny.drain (fun task _ => task.work.does_of_forall fun _ => trivial) guarded caller

/-- Whatever waits. -/
theorem world_drain (loop : GameLoop α σ) (holding : holds loop.world) (caller : Caller) :
    holds (loop.drain caller).1.world :=
  (keeps.drain (.of_world holding) caller).world

end Keeps

/-! ### What is steady -/

/-- Neither an action nor the queue changes what is observed of the world. -/
structure Steady (observe : σ → β) : Prop where
  perform : ∀ action world, observe (Workplace.perform action world).1 = observe world
  hear : ∀ event world, observe (Workplace.hear event world) = observe world
  onThread : ∀ caller world, observe (Workplace.onThread caller world) = observe world

namespace Steady

variable {observe : σ → β} (steady : Steady observe)

include steady

theorem keeps (value : β) : Keeps fun world => observe world = value where
  perform action world same := (steady.perform action world).trans same
  hear event world same := (steady.hear event world).trans same
  onThread caller world same := (steady.onThread caller world).trans same

theorem observe_post (loop : GameLoop α σ) (kind : TaskKind) (body : Script α) :
    observe (loop.post kind body).world = observe loop.world := by
  simp only [GameLoop.post, GameLoop.hear]
  split
  · rfl
  · exact steady.hear _ _

theorem observe_shutDown (loop : GameLoop α σ) :
    observe loop.shutDown.world = observe loop.world := by
  simp only [GameLoop.shutDown, GameLoop.hear]
  split
  · rfl
  · exact steady.hear _ _

theorem observe_handTo (caller : Caller) {work : GameLoop α σ → GameLoop α σ}
    (keeps : ∀ loop, observe (work loop).world = observe loop.world) (loop : GameLoop α σ) :
    observe (handTo caller work loop).world = observe loop.world := by
  calc observe (handTo caller work loop).world
      = observe (work { loop with world := Workplace.onThread caller loop.world }).world :=
        steady.onThread _ _
    _ = observe (Workplace.onThread caller loop.world) := keeps _
    _ = observe loop.world := steady.onThread _ _

/-- Whatever the queued scripts do. -/
theorem observe_drain (loop : GameLoop α σ) (caller : Caller) :
    observe (loop.drain caller).1.world = observe loop.world :=
  (steady.keeps (observe loop.world)).world_drain loop rfl caller

end Steady

end GameLoop

end ReplicaBridge.Schedule
