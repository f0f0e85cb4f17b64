/-
Module: ReplicaBridge.Proofs.SchedulerLedger
Purpose: A scheduler among threads, step by step, with books kept.  Between the moment at which
  a post or a drain looks at the shutdown flag and the moment at which it acts on it, and at every
  point of a drain, other threads may do what they like; tasks may drain again before they end.
  The books say of every post call what became of its task.
Main exports: Schedule.superseded, Schedule.Scheduler.accept, Schedule.DrainRecord,
  Schedule.Ledger, Schedule.Ledger.Step, Schedule.Ledger.Reachable, Schedule.Ledger.Balanced,
  Schedule.Ledger.Balanced.step, Schedule.Ledger.Recorded.step
-/
import Mathlib
import ReplicaBridge.Proofs.Coalescing

namespace ReplicaBridge.Schedule

variable {α : Type}

/-! ### What a pass drops -/

/-- The tasks that a pass drops, in order. -/
def superseded : List (Task α) → List (Task α)
  | [] => []
  | task :: later =>
    if task.isSupersededBy later then task :: superseded later else superseded later

/-- A pass divides a queue into what it keeps and what it drops. -/
theorem perm_coalesce (queue : List (Task α)) :
    queue.Perm (coalesce queue ++ superseded queue) := by
  induction queue with
  | nil => exact .nil
  | cons task later ih =>
      rw [coalesce, superseded]
      split
      · exact (ih.cons task).trans List.perm_middle.symm
      · exact ih.cons task

/-- Only tasks with a key are dropped. -/
theorem coalesceKey?_of_mem_superseded {queue : List (Task α)} {task : Task α}
    (dropped : task ∈ superseded queue) : task.kind.coalesceKey? ≠ none := by
  induction queue with
  | nil => cases dropped
  | cons first later ih =>
      rw [superseded] at dropped
      split at dropped
      · rename_i replaced
        cases dropped with
        | head =>
            intro keyless
            rw [Task.isSupersededBy, keyless] at replaced
            cases replaced
        | tail _ further => exact ih further
      · exact ih dropped

namespace Scheduler

/-! ### Posting, whatever the caller saw -/

/-- Take a task in, with a pass if the queue has grown too long. -/
def accept (scheduler : Scheduler α) (task : Task α) : Scheduler α :=
  let grown := scheduler.enqueue task
  if grown.coalesceAt ≤ grown.length then grown.compact.1 else grown

/-- Turn a task away. -/
def refuse (scheduler : Scheduler α) : Scheduler α :=
  { scheduler with discarded := scheduler.discarded + 1 }

/-- The tasks that are dropped when a task is taken in. -/
def outdatedBy (scheduler : Scheduler α) (task : Task α) : List (Task α) :=
  if scheduler.coalesceAt ≤ scheduler.length + 1 then superseded (scheduler.queue ++ [task])
  else []

theorem post_fst (scheduler : Scheduler α) (task : Task α) : (scheduler.post task).1 =
    if scheduler.accepts task.kind then scheduler.accept task else scheduler.refuse := by
  unfold post accept
  split
  · dsimp only
    split <;> rfl
  · rfl

theorem shutDown_fst (scheduler : Scheduler α) :
    scheduler.shutDown.1 = { scheduler with shuttingDown := true } := by
  unfold shutDown
  split
  · rename_i closed
    rw [← closed]
  · rfl

theorem length_enqueue (scheduler : Scheduler α) (task : Task α) :
    (scheduler.enqueue task).length = scheduler.length + 1 := by
  simp [length, enqueue]

/-- The two ways in which a task is taken in. -/
theorem accept_cases (scheduler : Scheduler α) (task : Task α) :
    (scheduler.length + 1 < scheduler.coalesceAt ∧ scheduler.outdatedBy task = [] ∧
      scheduler.accept task = scheduler.enqueue task) ∨
    (scheduler.coalesceAt ≤ scheduler.length + 1 ∧
      scheduler.outdatedBy task = superseded (scheduler.queue ++ [task]) ∧
      scheduler.accept task = (scheduler.enqueue task).compact.1) := by
  have threshold : (scheduler.enqueue task).coalesceAt = scheduler.coalesceAt := rfl
  rw [accept, outdatedBy, length_enqueue, threshold]
  by_cases full : scheduler.coalesceAt ≤ scheduler.length + 1
  · rw [if_pos full, if_pos full]
    exact .inr ⟨full, rfl, rfl⟩
  · rw [if_neg full, if_neg full]
    exact .inl ⟨Nat.lt_of_not_le full, rfl, rfl⟩

theorem perm_queue_accept (scheduler : Scheduler α) (task : Task α) :
    (scheduler.queue ++ [task]).Perm
      ((scheduler.accept task).queue ++ scheduler.outdatedBy task) := by
  rcases scheduler.accept_cases task with ⟨_, outdated, accepted⟩ | ⟨_, outdated, accepted⟩
  · rw [outdated, accepted, List.append_nil]
    exact .refl _
  · rw [outdated, accepted]
    exact perm_coalesce _

/-- What is counted when a task is taken in: the post, and the tasks that it outdates. -/
theorem counts_accept (scheduler : Scheduler α) (task : Task α) :
    (scheduler.accept task).posted = scheduler.posted + 1 ∧
      (scheduler.accept task).executed = scheduler.executed ∧
      (scheduler.accept task).coalesced =
        scheduler.coalesced + (scheduler.outdatedBy task).length ∧
      (scheduler.accept task).discarded = scheduler.discarded ∧
      (scheduler.accept task).shuttingDown = scheduler.shuttingDown := by
  rcases scheduler.accept_cases task with ⟨_, outdated, accepted⟩ | ⟨_, outdated, accepted⟩
  · rw [outdated, accepted]
    exact ⟨rfl, rfl, rfl, rfl, rfl⟩
  · have divided := (perm_coalesce (scheduler.queue ++ [task])).length_eq
    have dropped : (scheduler.queue ++ [task]).length -
        (coalesce (scheduler.queue ++ [task])).length =
          (superseded (scheduler.queue ++ [task])).length := by
      have parts := divided.trans List.length_append
      rw [parts, Nat.add_sub_cancel_left]
    rw [outdated, accepted]
    exact ⟨rfl, rfl, congrArg (scheduler.coalesced + ·) dropped, rfl, rfl⟩

theorem coalesceKey?_of_mem_outdatedBy {scheduler : Scheduler α} {task old : Task α}
    (outdated : old ∈ scheduler.outdatedBy task) : old.kind.coalesceKey? ≠ none := by
  rw [outdatedBy] at outdated
  split at outdated
  · exact coalesceKey?_of_mem_superseded outdated
  · cases outdated

end Scheduler

/-! ### The books -/

/-- A drain and how far it has come. -/
structure DrainRecord (α : Type) where
  /-- The tasks that waited when it started. -/
  batch : List (Task α)
  /-- The queue was shut down before it started. -/
  late : Bool
  /-- The shutdown flag as the drain saw it, once it has looked. -/
  flag? : Option Bool
  /-- The tasks of the batch that it has not come to. -/
  waiting : List (Task α)
  begun : List (Task α)
  dropped : List (Task α)
  /-- A task of the batch is running. -/
  busy : Bool
deriving Repr, Inhabited, DecidableEq

/-- A drain takes the whole queue. -/
def DrainRecord.start (scheduler : Scheduler α) : DrainRecord α :=
  { batch := scheduler.queue, late := scheduler.shuttingDown, flag? := none,
    waiting := scheduler.queue, begun := [], dropped := [], busy := false }

/-- A scheduler, and what happened to it. -/
structure Ledger (α : Type) where
  scheduler : Scheduler α
  /-- Post calls that have looked at the shutdown flag, with what they saw. -/
  inFlight : List (Task α × Bool)
  /-- The drains under way, the innermost first. -/
  drains : List (DrainRecord α)
  /-- The drains that have ended. -/
  ended : List (DrainRecord α)
  /-- The tasks of all post calls that came to their end, in order. -/
  calls : List (Task α)
  /-- Those of them that were refused. -/
  refused : List (Task α)
  /-- The tasks that a later one superseded. -/
  outdated : List (Task α)
  /-- The tasks that drains began, in order. -/
  begun : List (Task α)
  /-- The tasks that drains dropped because of the shutdown. -/
  dropped : List (Task α)
deriving Repr, Inhabited, DecidableEq

namespace Ledger

def start (softCap : Nat) : Ledger α :=
  { scheduler := Scheduler.ofSoftCap softCap, inFlight := [], drains := [], ended := [],
    calls := [], refused := [], outdated := [], begun := [], dropped := [] }

/-- A post call ends as the flag that it saw tells. -/
def settle (ledger : Ledger α) (task : Task α) (closed : Bool) : Ledger α :=
  if closed && task.kind != .despawn then
    { ledger with
      scheduler := ledger.scheduler.refuse
      calls := ledger.calls ++ [task]
      refused := ledger.refused ++ [task] }
  else
    { ledger with
      scheduler := ledger.scheduler.accept task
      calls := ledger.calls ++ [task]
      outdated := ledger.outdated ++ ledger.scheduler.outdatedBy task }

/-- What can happen next.  Posts and the shutdown may come from any thread at any moment; all
other steps are those of the innermost drain.  A drain that is asked for off the game thread
does nothing, so no step is needed for it. -/
inductive Step : Ledger α → Ledger α → Prop where
  /-- A post call looks at the shutdown flag. -/
  | call (ledger : Ledger α) (task : Task α) :
      Step ledger
        { ledger with inFlight := ledger.inFlight ++ [(task, ledger.scheduler.shuttingDown)] }
  /-- A post call acts on what it saw. -/
  | post {ledger : Ledger α} {front back : List (Task α × Bool)} {task : Task α} {closed : Bool}
      (called : ledger.inFlight = front ++ (task, closed) :: back) :
      Step ledger ({ ledger with inFlight := front ++ back }.settle task closed)
  | shutDown (ledger : Ledger α) :
      Step ledger { ledger with scheduler := ledger.scheduler.shutDown.1 }
  /-- A drain starts; while another one is under way, a task of that one starts it. -/
  | take {ledger : Ledger α} (free : ∀ drain ∈ ledger.drains.head?, drain.busy = true) :
      Step ledger
        { ledger with
          scheduler := ledger.scheduler.take.1
          drains := DrainRecord.start ledger.scheduler :: ledger.drains }
  /-- The drain looks at the shutdown flag. -/
  | look {ledger : Ledger α} {drain : DrainRecord α} {outer : List (DrainRecord α)}
      (innermost : ledger.drains = drain :: outer) (unseen : drain.flag? = none) :
      Step ledger
        { ledger with
          drains := { drain with flag? := some ledger.scheduler.shuttingDown } :: outer }
  /-- The drain drops a task because of the shutdown. -/
  | drop {ledger : Ledger α} {drain : DrainRecord α} {outer : List (DrainRecord α)}
      {task : Task α} {rest : List (Task α)} (innermost : ledger.drains = drain :: outer)
      (idle : drain.busy = false) (waits : drain.waiting = task :: rest)
      (closed : drain.flag? = some true) (kind : task.kind ≠ .despawn) :
      Step ledger
        { ledger with
          scheduler := ledger.scheduler.countDiscarded 1
          drains := { drain with waiting := rest, dropped := drain.dropped ++ [task] } :: outer
          dropped := ledger.dropped ++ [task] }
  /-- The drain begins a task. -/
  | begin {ledger : Ledger α} {drain : DrainRecord α} {outer : List (DrainRecord α)}
      {task : Task α} {rest : List (Task α)} {closed : Bool}
      (innermost : ledger.drains = drain :: outer) (idle : drain.busy = false)
      (waits : drain.waiting = task :: rest) (seen : drain.flag? = some closed)
      (kind : closed = true → task.kind = .despawn) :
      Step ledger
        { ledger with
          drains := { drain with
            waiting := rest
            begun := drain.begun ++ [task]
            busy := true } :: outer
          begun := ledger.begun ++ [task] }
  /-- The running task returns, or unwinds. -/
  | complete {ledger : Ledger α} {drain : DrainRecord α} {outer : List (DrainRecord α)}
      (innermost : ledger.drains = drain :: outer) (busy : drain.busy = true) :
      Step ledger { ledger with drains := { drain with busy := false } :: outer }
  /-- The drain ends and counts what it began. -/
  | finish {ledger : Ledger α} {drain : DrainRecord α} {outer : List (DrainRecord α)}
      (innermost : ledger.drains = drain :: outer) (idle : drain.busy = false)
      (done : drain.waiting = []) :
      Step ledger
        { ledger with
          scheduler := ledger.scheduler.countExecuted drain.begun.length
          drains := outer
          ended := ledger.ended ++ [drain] }

/-- Any number of steps. -/
abbrev Steps : Ledger α → Ledger α → Prop :=
  Relation.ReflTransGen Step

/-- What a scheduler with the soft cap can come to. -/
def Reachable (softCap : Nat) (ledger : Ledger α) : Prop :=
  Steps (start softCap) ledger

/-- What each step keeps, every reachable ledger has. -/
theorem Reachable.induction {holds : Ledger α → Prop} {softCap : Nat} {ledger : Ledger α}
    (reachable : Reachable softCap ledger) (first : holds (start softCap))
    (step : ∀ {before after : Ledger α}, Step before after → holds before → holds after) :
    holds ledger := by
  induction reachable with
  | refl => exact first
  | tail _ next ih => exact step next ih

/-! ### The balance -/

/-- The books balance: every task that was posted waits, was begun, was superseded or was
discarded, the counters count these, and no despawn is among the tasks that went lost. -/
structure Balanced (ledger : Ledger α) : Prop where
  conserved : (ledger.calls : Multiset (Task α)) =
    ledger.scheduler.queue + ledger.begun + ledger.outdated + (ledger.refused + ledger.dropped) +
      (ledger.drains.map fun drain => (drain.waiting : Multiset (Task α))).sum
  posted : ledger.scheduler.posted + ledger.refused.length = ledger.calls.length
  executed : ledger.scheduler.executed + (ledger.drains.map (·.begun.length)).sum =
    ledger.begun.length
  coalesced : ledger.scheduler.coalesced = ledger.outdated.length
  discarded : ledger.scheduler.discarded = ledger.refused.length + ledger.dropped.length
  spared : ∀ task ∈ ledger.outdated ++ (ledger.refused ++ ledger.dropped),
    task.kind ≠ .despawn

namespace Balanced

variable {ledger : Ledger α}

theorem start (softCap : Nat) : Balanced (Ledger.start softCap : Ledger α) where
  conserved := rfl
  posted := rfl
  executed := rfl
  coalesced := rfl
  discarded := rfl
  spared := nofun

theorem settle (balanced : Balanced ledger) (task : Task α) (closed : Bool) :
    Balanced (ledger.settle task closed) := by
  obtain ⟨conserved, posted, executed, coalesced, discarded, spared⟩ := balanced
  rw [Ledger.settle]
  split
  · rename_i refused
    obtain ⟨_, kind⟩ := Bool.and_eq_true_iff.mp refused
    constructor
    · simp only [← Multiset.coe_add, conserved, Scheduler.refuse]
      abel
    · have same : ledger.scheduler.refuse.posted = ledger.scheduler.posted := rfl
      rw [same, List.length_append, List.length_append, ← posted, Nat.add_assoc]
    · exact executed
    · exact coalesced
    · simp only [Scheduler.refuse, discarded, List.length_append, List.length_singleton]
      omega
    · intro other lost
      simp only [List.mem_append, List.mem_singleton] at lost spared
      rcases lost with outdated | (refused | rfl) | dropped
      · exact spared other (.inl outdated)
      · exact spared other (.inr (.inl refused))
      · exact bne_iff_ne.mp kind
      · exact spared other (.inr (.inr dropped))
  · have divided : ((ledger.scheduler.queue ++ [task] : List (Task α)) : Multiset (Task α)) =
        _ := Multiset.coe_eq_coe.mpr (ledger.scheduler.perm_queue_accept task)
    obtain ⟨countPosted, countExecuted, countCoalesced, countDiscarded, _⟩ :=
      ledger.scheduler.counts_accept task
    constructor
    · rw [← Multiset.coe_add, ← Multiset.coe_add] at divided
      rw [← Multiset.coe_add, ← Multiset.coe_add, conserved]
      calc
        _ = (ledger.scheduler.queue + [task] : Multiset (Task α)) + ledger.begun +
            ledger.outdated + (ledger.refused + ledger.dropped) +
            (ledger.drains.map fun drain => (drain.waiting : Multiset (Task α))).sum := by abel
        _ = _ := by
          rw [divided]
          abel
    · simp only [countPosted, List.length_append, List.length_singleton]
      omega
    · exact countExecuted ▸ executed
    · rw [countCoalesced, coalesced, List.length_append]
    · exact countDiscarded ▸ discarded
    · intro other lost
      simp only [List.mem_append] at lost spared
      rcases lost with (before | now) | thrown
      · exact spared other (.inl before)
      · intro despawn
        exact Scheduler.coalesceKey?_of_mem_outdatedBy now (by rw [despawn]; rfl)
      · exact spared other (.inr thrown)

/-- Whatever happens next, the books stay balanced. -/
theorem step {after : Ledger α} (step : Step ledger after) (balanced : Balanced ledger) :
    Balanced after := by
  cases step with
  | call task => exact ⟨balanced.conserved, balanced.posted, balanced.executed,
      balanced.coalesced, balanced.discarded, balanced.spared⟩
  | post called =>
      apply settle
      exact ⟨balanced.conserved, balanced.posted, balanced.executed, balanced.coalesced,
        balanced.discarded, balanced.spared⟩
  | shutDown =>
      rw [Scheduler.shutDown_fst]
      exact ⟨balanced.conserved, balanced.posted, balanced.executed, balanced.coalesced,
        balanced.discarded, balanced.spared⟩
  | take free =>
      refine ⟨?_, balanced.posted, ?_, balanced.coalesced, balanced.discarded, balanced.spared⟩
      · rw [balanced.conserved, List.map_cons, List.sum_cons]
        simp only [Scheduler.take, DrainRecord.start, Multiset.coe_nil]
        abel
      · simpa [Scheduler.take, DrainRecord.start] using balanced.executed
  | look innermost unseen =>
      obtain ⟨conserved, posted, executed, coalesced, discarded, spared⟩ := balanced
      rw [innermost] at conserved executed
      exact ⟨conserved, posted, executed, coalesced, discarded, spared⟩
  | drop innermost idle waits closed kind =>
      obtain ⟨conserved, posted, executed, coalesced, discarded, spared⟩ := balanced
      rw [innermost, List.map_cons] at conserved executed
      refine ⟨?_, posted, executed, coalesced, ?_, ?_⟩
      · rw [conserved, List.map_cons, List.sum_cons, List.sum_cons, waits, ← Multiset.cons_coe,
          ← Multiset.singleton_add, ← Multiset.coe_add, Multiset.coe_singleton]
        simp only [Scheduler.countDiscarded]
        abel
      · simp only [Scheduler.countDiscarded, discarded, List.length_append,
          List.length_singleton]
        omega
      · intro other lost
        simp only [List.mem_append, List.mem_singleton] at lost spared
        rcases lost with outdated | refused | dropped | rfl
        · exact spared other (.inl outdated)
        · exact spared other (.inr (.inl refused))
        · exact spared other (.inr (.inr dropped))
        · exact kind
  | begin innermost idle waits seen kind =>
      obtain ⟨conserved, posted, executed, coalesced, discarded, spared⟩ := balanced
      rw [innermost, List.map_cons] at conserved executed
      refine ⟨?_, posted, ?_, coalesced, discarded, spared⟩
      · rw [conserved, List.map_cons, List.sum_cons, List.sum_cons, waits, ← Multiset.cons_coe,
          ← Multiset.singleton_add, ← Multiset.coe_add, Multiset.coe_singleton]
        abel
      · simp only [List.map_cons, List.sum_cons, List.length_append,
          List.length_singleton] at executed ⊢
        omega
  | complete innermost busy =>
      obtain ⟨conserved, posted, executed, coalesced, discarded, spared⟩ := balanced
      rw [innermost] at conserved executed
      exact ⟨conserved, posted, executed, coalesced, discarded, spared⟩
  | finish innermost idle done =>
      obtain ⟨conserved, posted, executed, coalesced, discarded, spared⟩ := balanced
      rw [innermost, List.map_cons] at conserved executed
      refine ⟨?_, posted, ?_, coalesced, discarded, spared⟩
      · rw [conserved, List.sum_cons, done, Multiset.coe_nil, zero_add]
        rfl
      · simp only [List.sum_cons] at executed
        simp only [Scheduler.countExecuted]
        omega

end Balanced

/-! ### The shutdown flag -/

/-- The flag is never taken back. -/
theorem shuttingDown_step {before after : Ledger α} (step : Step before after)
    (closed : before.scheduler.shuttingDown = true) : after.scheduler.shuttingDown = true := by
  cases step with
  | post called =>
      rw [settle]
      split
      · exact closed
      · exact (Scheduler.counts_accept _ _).2.2.2.2.trans closed
  | shutDown => rw [Scheduler.shutDown_fst]
  | _ => exact closed

/-- Whoever saw the queue shut down saw right: calls in flight, calls that were refused, and
drains that started late. -/
structure Closing (ledger : Ledger α) : Prop where
  inFlight : ∀ call ∈ ledger.inFlight, call.2 = true → ledger.scheduler.shuttingDown = true
  refused : ledger.refused ≠ [] → ledger.scheduler.shuttingDown = true
  late : ∀ drain ∈ ledger.drains, drain.late = true → ledger.scheduler.shuttingDown = true

theorem Closing.start (softCap : Nat) : Closing (Ledger.start softCap : Ledger α) :=
  ⟨nofun, nofun, nofun⟩

theorem Closing.step {before after : Ledger α} (step : Step before after)
    (closing : Closing before) : Closing after := by
  obtain ⟨inFlight, refused, late⟩ := closing
  have stays := shuttingDown_step step
  cases step with
  | call task =>
      refine ⟨?_, refused, late⟩
      intro call among seen
      rcases List.mem_append.mp among with earlier | last
      · exact inFlight call earlier seen
      · rw [List.mem_singleton.mp last] at seen
        exact seen
  | @post front back task closed called =>
      rw [called] at inFlight
      have others : ∀ call ∈ front ++ back, call.2 = true →
          before.scheduler.shuttingDown = true := by
        intro call among
        apply inFlight call
        rcases List.mem_append.mp among with ahead | behind
        · exact List.mem_append_left _ ahead
        · exact List.mem_append_right _ (.tail _ behind)
      have own : closed = true → before.scheduler.shuttingDown = true :=
        inFlight (task, closed) (List.mem_append_right _ (.head _))
      revert stays
      rw [settle]
      split
      · rename_i turned
        intro _
        exact ⟨others, fun _ => own (Bool.and_eq_true_iff.mp turned).1, late⟩
      · intro stays
        exact ⟨fun call among seen => stays (others call among seen),
          fun turned => stays (refused turned), fun drain among was => stays (late drain among was)⟩
  | shutDown =>
      exact ⟨fun call among seen => stays (inFlight call among seen),
        fun turned => stays (refused turned), fun drain among was => stays (late drain among was)⟩
  | take free =>
      refine ⟨inFlight, refused, ?_⟩
      intro drain among was
      cases among with
      | head => exact was
      | tail _ outer => exact late drain outer was
  | look innermost | drop innermost | begin innermost | complete innermost =>
      rw [innermost] at late
      refine ⟨inFlight, refused, ?_⟩
      intro drain among was
      cases among with
      | head => exact late _ (.head _) was
      | tail _ outer => exact late drain (.tail _ outer) was
  | finish innermost =>
      rw [innermost] at late
      exact ⟨inFlight, refused, fun drain outer was => late drain (.tail _ outer) was⟩

end Ledger

/-! ### What a drain does to its batch -/

namespace DrainRecord

/-- The drain runs the task rather than dropping it. -/
def runs (drain : DrainRecord α) (task : Task α) : Bool :=
  drain.flag? != some true || task.kind == .despawn

/-- A drain goes through its batch from the first task on: it begins the tasks that it runs, in
order, and drops the others. -/
structure Faithful (drain : DrainRecord α) : Prop where
  progress : ∃ done, drain.batch = done ++ drain.waiting ∧
    drain.begun = done.filter drain.runs ∧ drain.dropped = done.filter (!drain.runs ·) ∧
    (drain.flag? = none → done = [])
  late : drain.late = true → drain.flag? ≠ some false

namespace Faithful

variable {drain : DrainRecord α} {task : Task α} {rest : List (Task α)}

theorem start (scheduler : Scheduler α) : (DrainRecord.start scheduler).Faithful where
  progress := ⟨[], rfl, rfl, rfl, fun _ => rfl⟩
  late := nofun

theorem look (faithful : drain.Faithful) (unseen : drain.flag? = none) {closed : Bool}
    (seen : drain.late = true → closed = true) :
    Faithful { drain with flag? := some closed } := by
  obtain ⟨done, batch, begun, dropped, first⟩ := faithful.progress
  -- A drain looks before it comes to any task, so what it sees holds for the whole batch.
  rw [first unseen] at batch begun dropped
  refine ⟨⟨[], batch, begun, dropped, fun _ => rfl⟩, ?_⟩
  intro late
  rw [seen late]
  nofun

theorem complete (faithful : drain.Faithful) : Faithful { drain with busy := false } :=
  ⟨faithful.progress, faithful.late⟩

theorem drop (faithful : drain.Faithful) (waits : drain.waiting = task :: rest)
    (closed : drain.flag? = some true) (kind : task.kind ≠ .despawn) :
    Faithful { drain with waiting := rest, dropped := drain.dropped ++ [task] } := by
  obtain ⟨done, batch, begun, dropped, first⟩ := faithful.progress
  have passed : drain.runs task = false := by simp [runs, closed, kind]
  refine ⟨⟨done ++ [task], ?_, ?_, ?_, ?_⟩, faithful.late⟩
  · rw [batch, waits, List.append_assoc]
    rfl
  · show drain.begun = (done ++ [task]).filter drain.runs
    simp [begun, passed]
  · show drain.dropped ++ [task] = (done ++ [task]).filter (!drain.runs ·)
    simp [dropped, passed]
  · intro unseen
    rw [closed] at unseen
    cases unseen

theorem begin (faithful : drain.Faithful) (waits : drain.waiting = task :: rest) {closed : Bool}
    (seen : drain.flag? = some closed) (kind : closed = true → task.kind = .despawn) :
    Faithful { drain with waiting := rest, begun := drain.begun ++ [task], busy := true } := by
  obtain ⟨done, batch, begun, dropped, first⟩ := faithful.progress
  have taken : drain.runs task = true := by
    cases closed with
    | false => simp [runs, seen]
    | true => simp [runs, kind rfl]
  refine ⟨⟨done ++ [task], ?_, ?_, ?_, ?_⟩, faithful.late⟩
  · rw [batch, waits, List.append_assoc]
    rfl
  · show drain.begun ++ [task] = (done ++ [task]).filter drain.runs
    simp [begun, taken]
  · show drain.dropped = (done ++ [task]).filter (!drain.runs ·)
    simp [dropped, taken]
  · intro unseen
    rw [seen] at unseen
    cases unseen

/-- A late drain has run exactly the despawns of its batch when it ends, in order, and dropped
the rest. -/
theorem of_late (faithful : drain.Faithful) (late : drain.late = true)
    (done : drain.waiting = []) :
    drain.begun = drain.batch.filter (·.kind == .despawn) ∧
      drain.dropped = drain.batch.filter (·.kind != .despawn) := by
  obtain ⟨tasks, batch, begun, dropped, first⟩ := faithful.progress
  rw [done, List.append_nil] at batch
  cases seen : drain.flag? with
  | none => simp [begun, dropped, batch, first seen]
  | some closed =>
      cases closed with
      | false => exact absurd seen (faithful.late late)
      | true =>
          have same : drain.runs = (·.kind == .despawn) := by
            funext task
            simp [runs, seen]
          rw [begun, dropped, batch, same]
          exact ⟨rfl, rfl⟩

end Faithful

end DrainRecord

namespace Ledger

/-- What a drain has done stands in the books, in the same order. -/
structure Entered (begun dropped : List (Task α)) (drain : DrainRecord α) : Prop where
  faithful : drain.Faithful
  begun : drain.begun.Sublist begun
  dropped : drain.dropped.Sublist dropped

theorem Entered.more {begun begun' dropped dropped' : List (Task α)} {drain : DrainRecord α}
    (entered : Entered begun dropped drain) (moreBegun : begun.Sublist begun')
    (moreDropped : dropped.Sublist dropped') : Entered begun' dropped' drain :=
  ⟨entered.faithful, entered.begun.trans moreBegun, entered.dropped.trans moreDropped⟩

/-- All drains stand in the books, and those that ended have come to every task. -/
structure Recorded (ledger : Ledger α) : Prop where
  entered : ∀ drain ∈ ledger.drains ++ ledger.ended, Entered ledger.begun ledger.dropped drain
  done : ∀ drain ∈ ledger.ended, drain.waiting = []

namespace Recorded

variable {ledger : Ledger α}

theorem start (softCap : Nat) : Recorded (Ledger.start softCap : Ledger α) :=
  ⟨nofun, nofun⟩

/-- Where only the innermost drain does something. -/
theorem innermost {drain drain' : DrainRecord α} {outer : List (DrainRecord α)}
    (recorded : Recorded ledger) (top : ledger.drains = drain :: outer)
    {scheduler : Scheduler α} {begun dropped : List (Task α)}
    (moreBegun : ledger.begun.Sublist begun) (moreDropped : ledger.dropped.Sublist dropped)
    (own : Entered ledger.begun ledger.dropped drain → Entered begun dropped drain') :
    Recorded { ledger with scheduler, drains := drain' :: outer, begun, dropped } := by
  obtain ⟨entered, done⟩ := recorded
  rw [top] at entered
  refine ⟨?_, done⟩
  intro other among
  cases among with
  | head => exact own (entered drain (.head _))
  | tail _ rest => exact (entered other (.tail _ rest)).more moreBegun moreDropped

theorem step {after : Ledger α} (step : Step ledger after) (closing : Closing ledger)
    (recorded : Recorded ledger) : Recorded after := by
  cases step with
  | call task => exact ⟨recorded.entered, recorded.done⟩
  | post called =>
      rw [settle]
      split <;> exact ⟨recorded.entered, recorded.done⟩
  | shutDown => exact ⟨recorded.entered, recorded.done⟩
  | take free =>
      refine ⟨?_, recorded.done⟩
      intro drain among
      cases among with
      | head => exact ⟨.start _, List.nil_sublist _, List.nil_sublist _⟩
      | tail _ rest => exact recorded.entered drain rest
  | look top unseen =>
      have late := closing.late
      rw [top] at late
      apply recorded.innermost top (.refl _) (.refl _)
      rintro ⟨faithful, begun, dropped⟩
      exact ⟨faithful.look unseen (late _ (.head _)), begun, dropped⟩
  | drop top idle waits closed kind =>
      apply recorded.innermost top (.refl _) (List.sublist_append_left _ _)
      rintro ⟨faithful, begun, dropped⟩
      exact ⟨faithful.drop waits closed kind, begun, dropped.append_right _⟩
  | begin top idle waits seen kind =>
      apply recorded.innermost top (List.sublist_append_left _ _) (.refl _)
      rintro ⟨faithful, begun, dropped⟩
      exact ⟨faithful.begin waits seen kind, begun.append_right _, dropped⟩
  | complete top busy =>
      apply recorded.innermost top (.refl _) (.refl _)
      rintro ⟨faithful, begun, dropped⟩
      exact ⟨faithful.complete, begun, dropped⟩
  | @finish drain outer top idle done =>
      obtain ⟨entered, allDone⟩ := recorded
      rw [top] at entered
      constructor
      · -- The same drains as before, in another order.
        intro other among
        apply entered other
        rcases List.mem_append.mp among with outside | past
        · exact .tail _ (List.mem_append_left _ outside)
        · rcases List.mem_append.mp past with earlier | last
          · exact .tail _ (List.mem_append_right _ earlier)
          · rw [List.mem_singleton.mp last]
            exact .head _
      · intro other among
        rcases List.mem_append.mp among with earlier | last
        · exact allDone other earlier
        · rw [List.mem_singleton.mp last]
          exact done

end Recorded

/-- What every reachable ledger has. -/
theorem Reachable.kept {softCap : Nat} {ledger : Ledger α} (reachable : Reachable softCap ledger) :
    Balanced ledger ∧ Closing ledger ∧ Recorded ledger := by
  apply reachable.induction
  · exact ⟨.start softCap, .start softCap, .start softCap⟩
  · rintro before after step ⟨balanced, closing, recorded⟩
    exact ⟨balanced.step step, closing.step step, recorded.step step closing⟩

end Ledger

end ReplicaBridge.Schedule
