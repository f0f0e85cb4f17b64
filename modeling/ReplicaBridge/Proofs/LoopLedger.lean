/-
Module: ReplicaBridge.Proofs.LoopLedger
Purpose: The game loop keeps books.  Whatever is asked of a watched loop, the scheduler goes
  through the steps of a ledger: each post call, each task that is begun or dropped and each
  drain, nested ones too, is entered where it happens.
Main exports: Schedule.Watch.numbered, Schedule.Watch.InBooks, Schedule.Watch.Booked,
  Schedule.Watch.InBooks.drain, Schedule.Watch.exists_ledger
-/
import ReplicaBridge.Proofs.SchedulerLedger
import ReplicaBridge.Proofs.WatchedLoop

namespace ReplicaBridge.Schedule

namespace Ledger

variable {α : Type}

/-- A post call that acts at once on what it saw does what posting does. -/
theorem scheduler_settle (ledger : Ledger α) (task : Task α) :
    (ledger.settle task ledger.scheduler.shuttingDown).scheduler =
      (ledger.scheduler.post task).1 := by
  have opposite : ledger.scheduler.accepts task.kind =
      !(ledger.scheduler.shuttingDown && task.kind != .despawn) := by
    rw [Scheduler.accepts, Bool.not_and, bne, Bool.not_not]
  rw [settle, Scheduler.post_fst, opposite]
  cases ledger.scheduler.shuttingDown && task.kind != .despawn <;> rfl

/-- A post call is entered, and leaves the entries of drains and begun tasks alone. -/
theorem entries_settle (ledger : Ledger α) (task : Task α) (closed : Bool) :
    (ledger.settle task closed).calls = ledger.calls ++ [task] ∧
      (ledger.settle task closed).begun = ledger.begun ∧
      (ledger.settle task closed).inFlight = ledger.inFlight ∧
      (ledger.settle task closed).drains = ledger.drains := by
  rw [settle]
  split <;> exact ⟨rfl, rfl, rfl, rfl⟩

/-- A drain may start: none is under way, or a task of the innermost one is running. -/
def Free (drains : List (DrainRecord α)) : Prop :=
  ∀ drain ∈ drains.head?, drain.busy = true

theorem free_of_busy {drain : DrainRecord α} {outer : List (DrainRecord α)}
    (busy : drain.busy = true) : Free (drain :: outer) := by
  intro innermost head
  cases head
  exact busy

end Ledger

namespace Watch

open Ledger (Free Steps)

variable {α σ : Type}

/-- Tasks under the numbers of their post calls. -/
def numbered (posts : List (Task (Script α))) : List (Numbered α) :=
  posts.mapIdx fun number task => { kind := task.kind, work := (number, task.work) }

/-- A ledger tells of the watched loop at a moment at which no other thread is posting. -/
structure InBooks (watch : Watch α σ) (ledger : Ledger (Nat × Script α)) : Prop where
  scheduler : ledger.scheduler = watch.scheduler
  calls : ledger.calls = numbered watch.posts
  begun : ledger.begun = watch.begun
  inFlight : ledger.inFlight = []

/-- The books go on to tell of the loop, with these drains under way. -/
def Booked (ledger : Ledger (Nat × Script α)) (watch : Watch α σ)
    (drains : List (DrainRecord (Nat × Script α))) : Prop :=
  ∃ after, Steps ledger after ∧ InBooks watch after ∧ after.drains = drains

namespace Booked

variable {ledger : Ledger (Nat × Script α)} {watch watch' : Watch α σ}
  {drains drains' : List (DrainRecord (Nat × Script α))}

theorem after_steps {between : Ledger (Nat × Script α)} (booked : Booked between watch drains)
    (steps : Steps ledger between) : Booked ledger watch drains := by
  obtain ⟨after, later, books, same⟩ := booked
  exact ⟨after, steps.trans later, books, same⟩

theorem andThen (booked : Booked ledger watch drains)
    (next : ∀ {ledger}, InBooks watch ledger → ledger.drains = drains →
      Booked ledger watch' drains') : Booked ledger watch' drains' := by
  obtain ⟨between, steps, books, same⟩ := booked
  exact (next books same).after_steps steps

theorem step {after : Ledger (Nat × Script α)} (step : Ledger.Step ledger after)
    (books : InBooks watch after) (same : after.drains = drains) : Booked ledger watch drains :=
  ⟨after, .single step, books, same⟩

end Booked

namespace InBooks

variable {watch : Watch α σ} {ledger : Ledger (Nat × Script α)}

theorem start (softCap : Nat) (world : σ) (meanwhile : List (List (Task (Script α)))) :
    InBooks (Watch.start softCap world meanwhile) (Ledger.start softCap) :=
  ⟨rfl, rfl, rfl, rfl⟩

theorem still (books : InBooks watch ledger) : Booked ledger watch ledger.drains :=
  ⟨ledger, .refl, books, rfl⟩

/-- What happens to the world is not entered. -/
theorem onWorld (books : InBooks watch ledger) (world : σ) :
    InBooks { watch with world } ledger :=
  ⟨books.scheduler, books.calls, books.begun, books.inFlight⟩

variable [Workplace σ α]

theorem hear (books : InBooks watch ledger) (event : Option QueueEvent) :
    InBooks (watch.hear event) ledger := by
  cases event with
  | none => exact books
  | some event => exact books.onWorld _

theorem post (books : InBooks watch ledger) (task : Task (Script α)) :
    Booked ledger (watch.post task) ledger.drains := by
  let task' : Numbered α := { kind := task.kind, work := (watch.posts.length, task.work) }
  let flag := ledger.scheduler.shuttingDown
  let asked := { ledger with inFlight := ledger.inFlight ++ [(task', flag)] }
  have called : Ledger.Step ledger asked := .call ledger task'
  have alone : asked.inFlight = [] ++ (task', flag) :: [] := by
    simp only [asked, books.inFlight]
  have settled : Ledger.Step asked (Ledger.settle { ledger with inFlight := [] } task' flag) :=
    .post alone
  obtain ⟨calls, begun, inFlight, drains⟩ :=
    Ledger.entries_settle { ledger with inFlight := [] } task' flag
  have scheduler := Ledger.scheduler_settle { ledger with inFlight := [] } task'
  refine ⟨_, (Relation.ReflTransGen.single called).tail settled, ?_, drains⟩
  have posted : InBooks { watch with
      scheduler := (watch.scheduler.post task').1, posts := watch.posts ++ [task] }
      (Ledger.settle { ledger with inFlight := [] } task' flag) := by
    refine ⟨?_, ?_, begun.trans books.begun, inFlight⟩
    · rw [← books.scheduler]
      exact scheduler
    · rw [calls, books.calls, numbered, numbered, List.mapIdx_concat]
  exact posted.hear _

theorem shutDown (books : InBooks watch ledger) :
    Booked ledger watch.shutDown ledger.drains := by
  have closed : InBooks { watch with scheduler := watch.scheduler.shutDown.1 }
      { ledger with scheduler := ledger.scheduler.shutDown.1 } :=
    ⟨congrArg (·.shutDown.1) books.scheduler, books.calls, books.begun, books.inFlight⟩
  exact .step (.shutDown ledger) (closed.hear _) rfl

theorem handTo (books : InBooks watch ledger) (caller : Caller) {work : Watch α σ → Watch α σ}
    (worked : ∀ {watch}, InBooks watch ledger → Booked ledger (work watch) ledger.drains) :
    Booked ledger (watch.handTo caller work) ledger.drains := by
  apply (worked (books.onWorld (Workplace.onThread caller watch.world))).andThen
  intro ledger' books' same
  rw [← same]
  exact (books'.onWorld _).still

theorem postAll (tasks : List (Task (Script α))) (books : InBooks watch ledger) :
    Booked ledger
      (tasks.foldl (fun watch task => Watch.handTo .elsewhere (·.post task) watch) watch)
      ledger.drains := by
  induction tasks generalizing watch ledger with
  | nil => exact books.still
  | cons task later ih =>
      apply (books.handTo .elsewhere fun books => books.post task).andThen
      intro ledger' books' same
      rw [← same]
      exact ih books'

theorem interrupt (books : InBooks watch ledger) :
    Booked ledger watch.interrupt ledger.drains := by
  rw [Watch.interrupt]
  split
  · exact books.still
  · rename_i tasks later _
    have moved : InBooks { watch with meanwhile := later } ledger :=
      ⟨books.scheduler, books.calls, books.begun, books.inFlight⟩
    exact moved.postAll tasks

theorem refuseDrain (books : InBooks watch ledger) :
    Booked ledger watch.refuseDrain.1 ledger.drains :=
  books.handTo .elsewhere fun books => (books.hear _).still

section Nested

variable {nested : Nested α σ}
  (drains : ∀ {watch ledger}, InBooks watch ledger → Free ledger.drains →
    Booked ledger (nested watch).1 ledger.drains)

include drains

theorem runScript (script : Script α) (free : Free ledger.drains)
    (books : InBooks watch ledger) :
    Booked ledger (Watch.runScript nested script watch).1 ledger.drains := by
  induction script generalizing watch ledger with
  | done => exact books.interrupt
  | panic => exact books.interrupt
  | act action next ih =>
      apply books.interrupt.andThen
      intro ledger' books' same
      rw [← same] at free ⊢
      have acted := books'.onWorld (Workplace.perform action watch.interrupt.world).1
      simp only [Watch.runScript]
      split
      · exact acted.still
      · exact ih free acted
  | post caller kind body next _ ih =>
      have posted := books.interrupt.andThen fun books' same =>
        same ▸ books'.handTo caller fun books => books.post { kind, work := body }
      apply posted.andThen
      intro ledger' books' same
      rw [← same] at free ⊢
      exact ih free books'
  | drain caller next ih =>
      have goesOn (drained : Watch α σ × Nat) (booked : Booked ledger drained.1 ledger.drains) :
          Booked ledger (Watch.runScript nested next
            (drained.1.hear (some (.nestedDrain drained.2)))).1 ledger.drains := by
        apply booked.andThen
        intro ledger' books' same
        rw [← same] at free ⊢
        exact ih free (books'.hear _)
      cases caller with
      | gameThread =>
          apply goesOn (nested watch.interrupt)
          apply books.interrupt.andThen
          intro ledger' books' same
          rw [← same] at free ⊢
          exact drains books' free
      | elsewhere =>
          apply goesOn watch.interrupt.refuseDrain
          apply books.interrupt.andThen
          intro ledger' books' same
          rw [← same]
          exact books'.refuseDrain
  | shutDown caller next ih =>
      have closed := books.interrupt.andThen fun books' same =>
        same ▸ books'.handTo caller fun books => books.shutDown
      apply closed.andThen
      intro ledger' books' same
      rw [← same] at free ⊢
      exact ih free books'

variable {drain : DrainRecord (Nat × Script α)} {outer : List (DrainRecord (Nat × Script α))}

/-- A task is begun, and whether it returns or unwinds the drain has nothing more to do with
it. -/
theorem runTask {task : Numbered α} {rest : List (Numbered α)} {closed : Bool}
    (innermost : ledger.drains = drain :: outer) (idle : drain.busy = false)
    (waits : drain.waiting = task :: rest) (seen : drain.flag? = some closed)
    (kind : closed = true → task.kind = .despawn) (books : InBooks watch ledger) :
    Booked ledger (Watch.runTask nested task watch)
      ({ drain with waiting := rest, begun := drain.begun ++ [task] } :: outer) := by
  let busy : DrainRecord (Nat × Script α) :=
    { drain with waiting := rest, begun := drain.begun ++ [task], busy := true }
  have begun : Booked ledger { watch with begun := watch.begun ++ [task] } (busy :: outer) :=
    .step (.begin innermost idle waits seen kind)
      ⟨books.scheduler, books.calls, congrArg (· ++ [task]) books.begun, books.inFlight⟩ rfl
  have ran : Booked ledger (Watch.runScript nested task.work.2
      { watch with begun := watch.begun ++ [task] }).1 (busy :: outer) := by
    apply begun.andThen
    intro ledger' books' same
    rw [← same]
    exact runScript drains task.work.2 (same ▸ Ledger.free_of_busy rfl) books'
  have reported : Booked ledger (Watch.runTask nested task watch) (busy :: outer) := by
    rw [Watch.runTask]
    revert ran
    rcases Watch.runScript nested task.work.2 _ with ⟨after, unwound⟩
    intro ran
    cases unwound with
    | false => exact ran
    | true => exact ran.andThen fun books' same => same ▸ (books'.hear _).still
  apply reported.andThen
  intro ledger' books' same
  have unchanged : { busy with busy := false } =
      { drain with waiting := rest, begun := drain.begun ++ [task] } := by
    rw [← idle]
  exact .step (.complete same rfl)
    ⟨books'.scheduler, books'.calls, books'.begun, books'.inFlight⟩ (by rw [unchanged])

/-- A drain that has looked at the flag goes through its batch to the end, and has begun as many
tasks as it says. -/
theorem runBatch {batch : List (Numbered α)} {closed : Bool}
    (innermost : ledger.drains = drain :: outer) (idle : drain.busy = false)
    (waits : drain.waiting = batch) (seen : drain.flag? = some closed)
    (books : InBooks watch ledger) :
    ∃ after, Booked ledger (Watch.runBatch nested closed batch watch).1 (after :: outer) ∧
      after.busy = false ∧ after.waiting = [] ∧
      after.batch = drain.batch ∧ after.late = drain.late ∧
      after.begun.length =
        drain.begun.length + (Watch.runBatch nested closed batch watch).2 := by
  induction batch generalizing watch ledger drain with
  | nil => exact ⟨drain, innermost ▸ books.interrupt, idle, waits, rfl, rfl, rfl⟩
  | cons task rest ih =>
      rw [Watch.runBatch]
      split
      · rename_i passed
        obtain ⟨flag, kind⟩ := Bool.and_eq_true_iff.mp passed
        subst flag
        let left : DrainRecord (Nat × Script α) :=
          { drain with waiting := rest, dropped := drain.dropped ++ [task] }
        have dropped : Booked ledger
            { watch with scheduler := watch.scheduler.countDiscarded 1 } (left :: outer) :=
          .step (.drop innermost idle waits seen (bne_iff_ne.mp kind))
            ⟨congrArg (·.countDiscarded 1) books.scheduler, books.calls, books.begun,
              books.inFlight⟩ rfl
        obtain ⟨between, steps, books', same⟩ := dropped
        obtain ⟨after, booked, ends⟩ := ih same idle rfl seen books'
        exact ⟨after, booked.after_steps steps, ends⟩
      · rename_i runs
        have kind : closed = true → task.kind = .despawn := by
          rintro rfl
          simpa using runs
        let left : DrainRecord (Nat × Script α) :=
          { drain with waiting := rest, begun := drain.begun ++ [task] }
        have ran : Booked ledger (Watch.runTask nested task watch.interrupt) (left :: outer) :=
          books.interrupt.andThen fun books' same =>
            runTask drains (same.trans innermost) idle waits seen kind books'
        obtain ⟨between, steps, books', same⟩ := ran
        obtain ⟨after, booked, idle', done, batch, late, count⟩ := ih same idle rfl seen books'
        have more : left.begun.length = drain.begun.length + 1 := List.length_append
        refine ⟨after, booked.after_steps steps, idle', done, batch, late, ?_⟩
        rw [count, more, Nat.add_assoc, Nat.add_comm 1]

/-- A drain takes the queue, looks at the flag, goes through its batch and ends, and its record
is kept. -/
theorem drainOnce_record (free : Free ledger.drains) (books : InBooks watch ledger) :
    ∃ after record, Steps ledger after ∧ InBooks (Watch.drainOnce nested watch).1 after ∧
      after.drains = ledger.drains ∧ record ∈ after.ended ∧
      record.batch = watch.scheduler.queue ∧ record.late = watch.scheduler.shuttingDown ∧
      record.begun.length = (Watch.drainOnce nested watch).2 := by
  let drain := DrainRecord.start ledger.scheduler
  let closed := watch.scheduler.shuttingDown
  let looked : DrainRecord (Nat × Script α) :=
    { drain with flag? := some ledger.scheduler.shuttingDown }
  have taken : Ledger.Step ledger { ledger with
      scheduler := ledger.scheduler.take.1, drains := drain :: ledger.drains } := .take free
  have seen : Ledger.Step
      { ledger with scheduler := ledger.scheduler.take.1, drains := drain :: ledger.drains }
      { ledger with scheduler := ledger.scheduler.take.1, drains := looked :: ledger.drains } :=
    .look rfl rfl
  have books' : InBooks { watch with scheduler := watch.scheduler.take.1 }
      { ledger with scheduler := ledger.scheduler.take.1, drains := looked :: ledger.drains } :=
    ⟨congrArg (·.take.1) books.scheduler, books.calls, books.begun, books.inFlight⟩
  have waits : looked.waiting = watch.scheduler.queue := congrArg (·.queue) books.scheduler
  have flag : looked.flag? = some closed := congrArg (some ·.shuttingDown) books.scheduler
  obtain ⟨record, ⟨between, ran, books', same⟩, idle, done, batch, late, count⟩ :=
    runBatch drains rfl rfl waits flag books'
  have counted : record.begun.length = (Watch.drainOnce nested watch).2 := by
    rw [count]
    exact Nat.zero_add _
  have steps := ((Relation.ReflTransGen.single taken).tail seen).trans ran
  have finished := Ledger.Step.finish same idle done
  refine ⟨_, record, steps.tail finished, ?_, rfl, ?_, ?_, ?_, counted⟩
  · refine ⟨?_, books'.calls, books'.begun, books'.inFlight⟩
    rw [counted, books'.scheduler]
    rfl
  · exact List.mem_append_right _ (.head _)
  · rw [batch, ← books.scheduler]
    rfl
  · rw [late, ← books.scheduler]
    rfl

theorem drainOnce (free : Free ledger.drains) (books : InBooks watch ledger) :
    Booked ledger (Watch.drainOnce nested watch).1 ledger.drains := by
  obtain ⟨after, record, steps, books', same, _⟩ := drainOnce_record drains free books
  exact ⟨after, steps, books', same⟩

end Nested

theorem drainTo (depth : Nat) (free : Free ledger.drains) (books : InBooks watch ledger) :
    Booked ledger (Watch.drainTo depth watch).1 ledger.drains := by
  induction depth generalizing watch ledger with
  | zero => exact books.still
  | succ depth ih => exact drainOnce (fun books free => ih free books) free books

/-- A drain on the game thread goes into the books with the queue that it found, and with as many
begun tasks as it says. -/
theorem drain_record (free : Free ledger.drains) (books : InBooks watch ledger) :
    ∃ after record, Steps ledger after ∧ InBooks (watch.drain .gameThread).1 after ∧
      after.drains = ledger.drains ∧ record ∈ after.ended ∧
      record.batch = watch.scheduler.queue ∧ record.late = watch.scheduler.shuttingDown ∧
      record.begun.length = (watch.drain .gameThread).2 :=
  drainOnce_record (fun books free => books.drainTo _ free) free books

theorem drain (caller : Caller) (free : Free ledger.drains) (books : InBooks watch ledger) :
    Booked ledger (watch.drain caller).1 ledger.drains := by
  cases caller with
  | gameThread => exact books.drainTo _ free
  | elsewhere => exact books.refuseDrain

theorem handle (event : Event α) (free : Free ledger.drains) (books : InBooks watch ledger) :
    Booked ledger (watch.handle event) ledger.drains := by
  cases event with
  | post caller task => exact books.handTo caller fun books => books.post task
  | drain caller => exact books.drain caller free
  | shutDown caller => exact books.handTo caller fun books => books.shutDown

theorem run (events : List (Event α)) (free : Free ledger.drains)
    (books : InBooks watch ledger) : Booked ledger (watch.run events) ledger.drains := by
  induction events generalizing watch ledger with
  | nil => exact books.still
  | cons event later ih =>
      apply (books.handle event free).andThen
      intro ledger' books' same
      rw [← same] at free ⊢
      exact ih free books'

end InBooks

variable [Workplace σ α]

/-- Every run of the loop has its books, with no drain under way. -/
theorem exists_ledger (softCap : Nat) (world : σ) (meanwhile : List (List (Task (Script α))))
    (events : List (Event α)) :
    ∃ ledger, Ledger.Reachable softCap ledger ∧
      InBooks ((start softCap world meanwhile).run events) ledger ∧ ledger.drains = [] :=
  (InBooks.start softCap world meanwhile).run events nofun

end Watch

end ReplicaBridge.Schedule
