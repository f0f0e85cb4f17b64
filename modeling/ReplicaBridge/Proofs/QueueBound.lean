/-
Module: ReplicaBridge.Proofs.QueueBound
Purpose: How long the queue can become.  A pass leaves the tasks that nothing supersedes and one
  for each key; between passes the queue can grow to twice that, or to the soft cap.
Main exports: Schedule.lasting, Schedule.length_coalesce, Schedule.Scheduler.Paced,
  Schedule.Scheduler.Bounded, Schedule.Ledger.Reachable.bounded, Schedule.Watch.queue_bounded
-/
import ReplicaBridge.Proofs.LoopLedger
import ReplicaBridge.Proofs.PostOrder

namespace ReplicaBridge.Schedule

variable {α β : Type}

/-! ### What passes leave -/

/-- The keys of the updates in a queue. -/
def keys (queue : List (Task α)) : List TaskKind :=
  queue.filterMap (·.kind.coalesceKey?)

/-- The tasks of a queue that are no updates, and of the updates one for each key. -/
def lasting (queue : List (Task α)) : Nat :=
  (queue.filter (·.kind.coalesceKey?.isNone)).length + (keys queue).toFinset.card

theorem isSupersededBy_iff_mem_keys {task : Task α} {key : TaskKind} {later : List (Task α)}
    (keyed : task.kind.coalesceKey? = some key) :
    task.isSupersededBy later = true ↔ key ∈ keys later := by
  rw [Task.isSupersededBy, keyed]
  simp [keys]

theorem length_coalesce (queue : List (Task α)) : (coalesce queue).length = lasting queue := by
  induction queue with
  | nil => rfl
  | cons task later ih =>
      cases keyed : task.kind.coalesceKey? with
      | none =>
          have stays : task.isSupersededBy later = false := by
            rw [Task.isSupersededBy, keyed]
          rw [coalesce, stays, lasting, keys]
          simp only [Bool.false_eq_true, if_false, List.length_cons, ih, lasting, keys, keyed,
            List.filter_cons, Option.isNone_none, if_true, List.filterMap_cons]
          omega
      | some key =>
          have own : keys (task :: later) = key :: keys later := by
            rw [keys, List.filterMap_cons, keyed]
            rfl
          have others : (task :: later).filter (·.kind.coalesceKey?.isNone) =
              later.filter (·.kind.coalesceKey?.isNone) := by
            simp [keyed]
          rw [coalesce, lasting, own, others, List.toFinset_cons]
          by_cases again : key ∈ keys later
          · rw [if_pos ((isSupersededBy_iff_mem_keys keyed).mpr again), ih, lasting,
              Finset.insert_eq_of_mem (List.mem_toFinset.mpr again)]
          · have stays := mt (isSupersededBy_iff_mem_keys keyed).mp again
            rw [if_neg stays, List.length_cons, ih, lasting,
              Finset.card_insert_of_notMem (mt List.mem_toFinset.mp again), Nat.add_assoc]

theorem lasting_coalesce (queue : List (Task α)) : lasting (coalesce queue) = lasting queue := by
  rw [← length_coalesce, coalesce_idem, length_coalesce]

theorem lasting_map (change : α → β) (queue : List (Task α)) :
    lasting (queue.map (Task.map change)) = lasting queue := by
  rw [← length_coalesce, coalesce_map, List.length_map, length_coalesce]

theorem lasting_le_append (earlier later : List (Task α)) :
    lasting earlier ≤ lasting (earlier ++ later) := by
  have fewer : (keys earlier).toFinset ⊆ (keys (earlier ++ later)).toFinset := by
    rw [keys, keys, List.filterMap_append, List.toFinset_append]
    exact Finset.subset_union_left
  rw [lasting, lasting, List.filter_append, List.length_append]
  have cards := Finset.card_le_card fewer
  omega

/-! ### The threshold -/

namespace Scheduler

/-- The queue is shorter than the length at which the next pass runs, and that is at most twice
what lasts, or just past the soft cap. -/
structure Paced (scheduler : Scheduler α) : Prop where
  below : scheduler.length < scheduler.coalesceAt
  threshold : scheduler.coalesceAt ≤ max (scheduler.softCap + 1) (2 * lasting scheduler.queue)

/-- The queue has not outgrown the soft cap and twice what lasts of it, and the next pass is
ahead. -/
structure Bounded (softCap : Nat) (scheduler : Scheduler α) : Prop where
  length_le : scheduler.length ≤ max (max softCap 1) (2 * lasting scheduler.queue - 1)
  below : scheduler.length < scheduler.coalesceAt

theorem Paced.bounded {softCap : Nat} {scheduler : Scheduler α} (paced : scheduler.Paced)
    (cap : scheduler.softCap = max softCap 1) : Bounded softCap scheduler := by
  obtain ⟨below, threshold⟩ := paced
  rw [cap] at threshold
  exact ⟨by omega, below⟩

theorem Bounded.map {softCap : Nat} {scheduler : Scheduler α} (bounded : Bounded softCap scheduler)
    (change : α → β) : Bounded softCap (scheduler.map change) := by
  have length : (scheduler.map change).length = scheduler.length := List.length_map _
  obtain ⟨within, below⟩ := bounded
  constructor
  · rw [length, Scheduler.map, lasting_map]
    exact within
  · rw [length]
    exact below

/-- A pass leaves exactly what lasts. -/
theorem length_compact (scheduler : Scheduler α) :
    scheduler.compact.1.length = lasting scheduler.queue :=
  length_coalesce scheduler.queue

theorem lasting_compact (scheduler : Scheduler α) :
    lasting scheduler.compact.1.queue = lasting scheduler.queue :=
  lasting_coalesce scheduler.queue

namespace Paced

variable {scheduler : Scheduler α}

theorem ofSoftCap (softCap : Nat) : (Scheduler.ofSoftCap softCap : Scheduler α).Paced :=
  ⟨Nat.succ_pos _, Nat.le_max_left _ _⟩

/-- Taking the queue away sets the threshold back to the soft cap. -/
theorem take (scheduler : Scheduler α) : scheduler.take.1.Paced :=
  ⟨Nat.succ_pos _, Nat.le_max_left _ _⟩

/-- After a pass the threshold is past what the pass left, whatever it was before. -/
theorem compact (scheduler : Scheduler α) : scheduler.compact.1.Paced := by
  have next : scheduler.compact.1.coalesceAt =
      nextThreshold scheduler.softCap (lasting scheduler.queue) := by
    rw [← length_coalesce]
    rfl
  have cap : scheduler.compact.1.softCap = scheduler.softCap := rfl
  constructor
  · rw [length_compact, next, nextThreshold]
    split <;> omega
  · rw [lasting_compact, next, cap, nextThreshold]
    split <;> omega

theorem accept (paced : scheduler.Paced) (task : Task α) : (scheduler.accept task).Paced := by
  rcases scheduler.accept_cases task with ⟨room, _, accepted⟩ | ⟨_, _, accepted⟩
  · have more := lasting_le_append scheduler.queue [task]
    have threshold := paced.threshold
    rw [accepted]
    refine ⟨(length_enqueue scheduler task).trans_lt room, ?_⟩
    simp only [enqueue]
    omega
  · rw [accepted]
    exact compact _

end Paced

theorem softCap_accept (scheduler : Scheduler α) (task : Task α) :
    (scheduler.accept task).softCap = scheduler.softCap := by
  rcases scheduler.accept_cases task with ⟨_, _, accepted⟩ | ⟨_, _, accepted⟩
  · rw [accepted]
    rfl
  · rw [accepted]
    rfl

end Scheduler

/-! ### Every moment -/

namespace Ledger

/-- A step keeps the soft cap, and keeps the queue below its threshold. -/
theorem paced_step {softCap : Nat} {before after : Ledger α} (step : Step before after)
    (kept : before.scheduler.softCap = softCap ∧ before.scheduler.Paced) :
    after.scheduler.softCap = softCap ∧ after.scheduler.Paced := by
  obtain ⟨cap, paced⟩ := kept
  cases step with
  | post called =>
      rw [settle]
      split
      · exact ⟨cap, paced.below, paced.threshold⟩
      · exact ⟨(Scheduler.softCap_accept _ _).trans cap, paced.accept _⟩
  | shutDown =>
      rw [Scheduler.shutDown_fst]
      exact ⟨cap, paced.below, paced.threshold⟩
  | take free => exact ⟨cap, .take _⟩
  | _ => exact ⟨cap, paced.below, paced.threshold⟩

theorem Reachable.bounded {softCap : Nat} {ledger : Ledger α}
    (reachable : Reachable softCap ledger) : ledger.scheduler.Bounded softCap := by
  have kept : ledger.scheduler.softCap = max softCap 1 ∧ ledger.scheduler.Paced := by
    apply reachable.induction
    · exact ⟨rfl, .ofSoftCap softCap⟩
    · exact paced_step
  exact kept.2.bounded kept.1

end Ledger

namespace Watch

variable {σ : Type} [Workplace σ α]

theorem bounded_run (softCap : Nat) (world : σ) (meanwhile : List (List (Task (Script α))))
    (events : List (Event α)) :
    ((start softCap world meanwhile).run events).scheduler.Bounded softCap := by
  obtain ⟨ledger, reachable, books, _⟩ := exists_ledger softCap world meanwhile events
  rw [← books.scheduler]
  exact reachable.bounded

/-- Whoever posts, drains and shuts down, and at every point of a drain, the queue is bounded by
what lasts of it, and each pass leaves exactly what lasts. -/
theorem queue_bounded :
    (∀ {α : Type} {softCap : Nat} {ledger : Ledger α},
      Ledger.Reachable softCap ledger → ledger.scheduler.Bounded softCap) ∧
    (∀ {α : Type} (scheduler : Scheduler α),
      scheduler.compact.1.length = lasting scheduler.queue ∧
      lasting scheduler.compact.1.queue = lasting scheduler.queue) ∧
    (∀ {α : Type} (scheduler : Scheduler α) (task : Task α),
      scheduler.coalesceAt ≤ scheduler.length + 1 → scheduler.accepts task.kind = true →
      (scheduler.post task).1.length = lasting (scheduler.queue ++ [task]) ∧
      lasting (scheduler.post task).1.queue = lasting (scheduler.queue ++ [task])) ∧
    ∀ {α σ : Type} [Workplace σ α] (softCap : Nat) (world : σ)
      (meanwhile : List (List (Task (Script α)))) (events : List (Event α)),
      ((start softCap world meanwhile).run events).scheduler.Bounded softCap ∧
      ((GameLoop.start softCap world).run events).scheduler.Bounded softCap := by
  refine ⟨fun reachable => reachable.bounded, ?_, ?_, ?_⟩
  · intro α scheduler
    exact ⟨scheduler.length_compact, scheduler.lasting_compact⟩
  · intro α scheduler task full accepted
    rcases scheduler.accept_cases task with ⟨room, _⟩ | ⟨_, _, passed⟩
    · exact absurd full (Nat.not_le_of_lt room)
    · rw [Scheduler.post_fst, if_pos accepted, passed]
      exact ⟨Scheduler.length_compact _, Scheduler.lasting_compact _⟩
  · intro α σ _ softCap world meanwhile events
    refine ⟨bounded_run softCap world meanwhile events, ?_⟩
    rw [← forget_run softCap world events]
    exact (bounded_run softCap world [] events).map Prod.snd

/-- Updates of two entities in turn: three of them fit behind a soft cap of one, and the next one
brings them down to two. -/
theorem queue_bounded_at_bound :
    let update (id : UInt64) : Task (Script Unit) := { kind := .avatarUpdate id, work := .done }
    let reports : List QueueEvent := []
    let loop := (GameLoop.start 1 reports).run
      [.post .elsewhere (update 1), .post .gameThread (update 2), .post .elsewhere (update 1)]
    loop.scheduler.Bounded 1 ∧
      loop.scheduler.length = max (max 1 1) (2 * lasting loop.scheduler.queue - 1) ∧
      (loop.scheduler.post (update 2)).1.length = 2 := by
  intro update reports loop
  obtain ⟨_, _, passes, runs⟩ := queue_bounded
  obtain ⟨left, _⟩ := passes loop.scheduler (update 2) (by decide +kernel) (by decide +kernel)
  exact ⟨(runs 1 reports [] _).2, by decide +kernel, left.trans (by decide +kernel)⟩

end Watch

end ReplicaBridge.Schedule
