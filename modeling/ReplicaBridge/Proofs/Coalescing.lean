/-
Module: ReplicaBridge.Proofs.Coalescing
Purpose: What a coalescing pass does to a queue, whatever the tasks carry, and why the
  moments at which passes run do not matter: the queue after any number of passes and
  posts coalesces to what the posted tasks coalesce to.  Where the last task of a key makes up
  for the earlier ones, a pass cannot be seen in the state that the tasks lead to.
Main exports: Schedule.coalesce_append, Schedule.coalesce_sublist,
  Schedule.filterMap_coalesce, Schedule.Absorbs, Schedule.Absorbs.observe_foldl_coalesce,
  Schedule.Scheduler.map, Schedule.Scheduler.coalesce_queue_post
-/
import ReplicaBridge.Schedule.Queue

namespace ReplicaBridge.Schedule

variable {α β : Type}

/-! ### Passes -/

/-- Some task of the queue has the key. -/
def hasKey (key : TaskKind) (queue : List (Task α)) : Bool :=
  queue.any (·.kind.coalesceKey? == some key)

theorem hasKey_append (key : TaskKind) (earlier later : List (Task α)) :
    hasKey key (earlier ++ later) = (hasKey key earlier || hasKey key later) := by
  simp [hasKey]

/-- The last task of a key is never dropped. -/
theorem hasKey_coalesce (key : TaskKind) (queue : List (Task α)) :
    hasKey key (coalesce queue) = hasKey key queue := by
  induction queue with
  | nil => rfl
  | cons task later ih =>
      by_cases superseded : task.isSupersededBy later = true
      · rw [coalesce, if_pos superseded, ih]
        have head : (task.kind.coalesceKey? == some key) = true →
            hasKey key later = true := by
          intro same
          rw [Task.isSupersededBy, eq_of_beq same] at superseded
          exact superseded
        cases same : task.kind.coalesceKey? == some key with
        | false => simp [hasKey, same]
        | true => simpa [hasKey, same] using head same
      · rw [coalesce, if_neg superseded]
        simpa [hasKey] using congrArg
          ((task.kind.coalesceKey? == some key) || ·) ih

/-- Being superseded depends only on the keys that come later. -/
theorem isSupersededBy_congr {task : Task α} {left right : List (Task α)}
    (same : ∀ key, hasKey key left = hasKey key right) :
    task.isSupersededBy left = task.isSupersededBy right := by
  simp only [Task.isSupersededBy]
  cases task.kind.coalesceKey? with
  | none => rfl
  | some key => exact same key

theorem isSupersededBy_append_of_left {task : Task α} {earlier : List (Task α)}
    (later : List (Task α)) (superseded : task.isSupersededBy earlier = true) :
    task.isSupersededBy (earlier ++ later) = true := by
  unfold Task.isSupersededBy at superseded ⊢
  cases keyed : task.kind.coalesceKey? with
  | none => simp [keyed] at superseded
  | some key =>
      rw [keyed] at superseded
      simp only [List.any_append, Bool.or_eq_true]
      exact Or.inl superseded

/-- A pass over the earlier part of a queue changes nothing for a later pass over the
whole. -/
theorem coalesce_append (earlier later : List (Task α)) :
    coalesce (coalesce earlier ++ later) = coalesce (earlier ++ later) := by
  induction earlier with
  | nil => rfl
  | cons task rest ih =>
      have keys : task.isSupersededBy (coalesce rest ++ later) =
          task.isSupersededBy (rest ++ later) :=
        isSupersededBy_congr fun key => by
          rw [hasKey_append, hasKey_append, hasKey_coalesce]
      by_cases superseded : task.isSupersededBy rest = true
      · have dropped := isSupersededBy_append_of_left later superseded
        rw [coalesce, if_pos superseded, ih, List.cons_append, coalesce, if_pos dropped]
      · rw [coalesce, if_neg superseded, List.cons_append, List.cons_append, coalesce,
          coalesce, keys, ih]

theorem coalesce_idem (queue : List (Task α)) :
    coalesce (coalesce queue) = coalesce queue := by
  simpa using coalesce_append queue []

/-- A pass drops tasks and keeps the others in order. -/
theorem coalesce_sublist (queue : List (Task α)) : (coalesce queue).Sublist queue := by
  induction queue with
  | nil => exact .slnil
  | cons task later ih =>
      simp only [coalesce]
      split
      · exact ih.cons task
      · exact ih.cons_cons task

/-- A pass never empties a queue. -/
theorem coalesce_eq_nil_iff {queue : List (Task α)} : coalesce queue = [] ↔ queue = [] := by
  constructor
  · intro empty
    induction queue with
    | nil => rfl
    | cons task later ih =>
        by_cases superseded : task.isSupersededBy later = true
        · rw [coalesce, if_pos superseded] at empty
          rw [ih empty] at superseded
          unfold Task.isSupersededBy at superseded
          split at superseded <;> simp at superseded
        · rw [coalesce, if_neg superseded] at empty
          cases empty
  · intro empty
    rw [empty]
    rfl

/-- The task that was posted last is never dropped, and stays the last one. -/
theorem getLast?_coalesce (queue : List (Task α)) (task : Task α) :
    (coalesce (queue ++ [task])).getLast? = some task := by
  induction queue with
  | nil =>
      have newest : task.isSupersededBy [] = false := by
        unfold Task.isSupersededBy
        cases task.kind.coalesceKey? <;> rfl
      rw [List.nil_append, coalesce, newest]
      rfl
  | cons head later ih =>
      simp only [List.cons_append, coalesce]
      split
      · exact ih
      · rw [List.getLast?_cons, ih]
        rfl

/-- What is selected from tasks without a key survives every pass. -/
theorem filterMap_coalesce (select : Task α → Option β) {queue : List (Task α)}
    (keyless : ∀ task ∈ queue, task.kind.coalesceKey? ≠ none → select task = none) :
    (coalesce queue).filterMap select = queue.filterMap select := by
  induction queue with
  | nil => rfl
  | cons task later ih =>
      have rest := ih fun other waits => keyless other (List.mem_cons_of_mem task waits)
      by_cases superseded : task.isSupersededBy later = true
      · have keyed : task.kind.coalesceKey? ≠ none := by
          intro unkeyed
          rw [Task.isSupersededBy, unkeyed] at superseded
          cases superseded
        have unselected := keyless task List.mem_cons_self keyed
        rw [coalesce, if_pos superseded, rest, List.filterMap_cons_none unselected]
      · rw [coalesce, if_neg superseded, List.filterMap_cons, List.filterMap_cons, rest]

/-! ### Passes that nobody notices -/

section Acting

variable {σ : Type} {allowed : Task α → Prop} {act : σ → Task α → σ} {observe : σ → β}
  {near : TaskKind → σ → σ → Prop}

/-- The last task of a key makes up for those of the key that came before: `near key` says how
far apart the states with and without such a task may be until then.  Of a state only what is
observed counts. -/
structure Absorbs (allowed : Task α → Prop) (act : σ → Task α → σ) (observe : σ → β)
    (near : TaskKind → σ → σ → Prop) : Prop where
  acts : ∀ {task left right}, allowed task → observe left = observe right →
    observe (act left task) = observe (act right task)
  drops : ∀ {task key} (state : σ), allowed task → task.kind.coalesceKey? = some key →
    near key state (act state task)
  keeps : ∀ {task key left right}, allowed task → near key left right →
    near key (act left task) (act right task)
  meets : ∀ {task key left right}, allowed task → task.kind.coalesceKey? = some key →
    near key left right → observe (act left task) = observe (act right task)

namespace Absorbs

variable (absorbs : Absorbs allowed act observe near)

include absorbs

theorem observe_foldl {queue : List (Task α)} (all : ∀ task ∈ queue, allowed task)
    {left right : σ} (same : observe left = observe right) :
    observe (queue.foldl act left) = observe (queue.foldl act right) := by
  induction queue generalizing left right with
  | nil => exact same
  | cons task later ih =>
      apply ih fun other waits => all other (List.mem_cons_of_mem task waits)
      exact absorbs.acts (all task List.mem_cons_self) same

/-- States that are that far apart look the same once a task with the key has come. -/
theorem observe_foldl_of_near {queue : List (Task α)} (all : ∀ task ∈ queue, allowed task)
    {key : TaskKind} (keyed : hasKey key queue = true) {left right : σ}
    (apart : near key left right) :
    observe (queue.foldl act left) = observe (queue.foldl act right) := by
  induction queue generalizing left right with
  | nil => cases keyed
  | cons task later ih =>
      have first := all task List.mem_cons_self
      have rest : ∀ other ∈ later, allowed other :=
        fun other waits => all other (List.mem_cons_of_mem task waits)
      by_cases head : task.kind.coalesceKey? = some key
      · exact absorbs.observe_foldl rest (absorbs.meets first head apart)
      · apply ih rest
        · simpa [hasKey, head] using keyed
        · exact absorbs.keeps first apart

/-- Then a pass over the queue cannot be seen in the state. -/
theorem observe_foldl_coalesce {queue : List (Task α)} (all : ∀ task ∈ queue, allowed task)
    (state : σ) : observe ((coalesce queue).foldl act state) = observe (queue.foldl act state) := by
  induction queue generalizing state with
  | nil => rfl
  | cons task later ih =>
      have first := all task List.mem_cons_self
      have rest : ∀ other ∈ later, allowed other :=
        fun other waits => all other (List.mem_cons_of_mem task waits)
      by_cases superseded : task.isSupersededBy later = true
      · rw [coalesce, if_pos superseded, ih rest, List.foldl_cons]
        unfold Task.isSupersededBy at superseded
        cases keyed : task.kind.coalesceKey? with
        | none => simp [keyed] at superseded
        | some key =>
            rw [keyed] at superseded
            exact absorbs.observe_foldl_of_near rest superseded (absorbs.drops state first keyed)
      · rw [coalesce, if_neg superseded]
        exact ih rest (act state task)

end Absorbs

end Acting

/-! ### Changing what the tasks carry -/

/-- The same task with other work. -/
def Task.map (change : α → β) (task : Task α) : Task β :=
  { kind := task.kind, work := change task.work }

theorem hasKey_map (change : α → β) (key : TaskKind) (queue : List (Task α)) :
    hasKey key (queue.map (Task.map change)) = hasKey key queue := by
  simp [hasKey, Task.map, Function.comp_def]

/-- Passes look at kinds only. -/
theorem coalesce_map (change : α → β) (queue : List (Task α)) :
    coalesce (queue.map (Task.map change)) = (coalesce queue).map (Task.map change) := by
  induction queue with
  | nil => rfl
  | cons task later ih =>
      have keys : (task.map change).isSupersededBy (later.map (Task.map change)) =
          task.isSupersededBy later := by
        have kind : (task.map change).kind = task.kind := rfl
        simp only [Task.isSupersededBy]
        rw [kind]
        cases task.kind.coalesceKey? with
        | none => rfl
        | some key => exact hasKey_map change key later
      rw [List.map_cons, coalesce, coalesce, keys, ih]
      split
      · rfl
      · rfl

namespace Scheduler

/-- The same queue with other work in its tasks. -/
def map (change : α → β) (scheduler : Scheduler α) : Scheduler β :=
  { softCap := scheduler.softCap
    queue := scheduler.queue.map (Task.map change)
    coalesceAt := scheduler.coalesceAt
    shuttingDown := scheduler.shuttingDown
    posted := scheduler.posted
    executed := scheduler.executed
    coalesced := scheduler.coalesced
    discarded := scheduler.discarded }

/-- Posting looks at kinds and lengths only. -/
theorem post_map (change : α → β) (scheduler : Scheduler α) (task : Task α) :
    (scheduler.map change).post (task.map change) =
      ((scheduler.post task).1.map change, (scheduler.post task).2) := by
  have grown : (scheduler.map change).enqueue (task.map change) =
      (scheduler.enqueue task).map change := by
    simp [enqueue, map]
  have compacted : ((scheduler.enqueue task).map change).compact =
      ((scheduler.enqueue task).compact.1.map change, (scheduler.enqueue task).compact.2) := by
    simp [compact, map, coalesce_map]
  have lengths : ((scheduler.enqueue task).map change).length =
      (scheduler.enqueue task).length := by
    simp [length, map]
  unfold post
  dsimp only
  rw [grown, compacted, lengths]
  change (if scheduler.accepts task.kind then if (scheduler.enqueue task).coalesceAt ≤ _
    then _ else _ else _) = _
  split
  · split <;> rfl
  · rfl

theorem shutDown_map (change : α → β) (scheduler : Scheduler α) :
    (scheduler.map change).shutDown =
      (scheduler.shutDown.1.map change, scheduler.shutDown.2) := by
  have length : (scheduler.map change).length = scheduler.length := by
    simp [Scheduler.length, map]
  unfold shutDown
  rw [length]
  change (if scheduler.shuttingDown then _ else _) = _
  split
  · rfl
  · rfl

/-! ### Posting while work is accepted -/

section Open

variable {scheduler : Scheduler α} (accepting : scheduler.shuttingDown = false) (task : Task α)

include accepting

/-- A posted task is appended, and then a pass may run. -/
theorem queue_post : (scheduler.post task).1.queue = scheduler.queue ++ [task] ∨
    (scheduler.post task).1.queue = coalesce (scheduler.queue ++ [task]) := by
  have accepted : scheduler.accepts task.kind = true := by
    simp [accepts, accepting]
  unfold post
  rw [if_pos accepted]
  dsimp only
  split
  · exact Or.inr rfl
  · exact Or.inl rfl

/-- Whether or not a pass runs, the posted task waits at the end of the queue. -/
theorem getLast?_queue_post : (scheduler.post task).1.queue.getLast? = some task := by
  rcases queue_post accepting task with appended | passed
  · rw [appended, List.getLast?_concat]
  · rw [passed, getLast?_coalesce]

theorem posted_post : (scheduler.post task).1.posted = scheduler.posted + 1 := by
  have accepted : scheduler.accepts task.kind = true := by
    simp [accepts, accepting]
  unfold post
  rw [if_pos accepted]
  dsimp only
  split <;> rfl

/-- Whether or not a pass runs, a full pass over the result is one over all the tasks. -/
theorem coalesce_queue_post : coalesce (scheduler.post task).1.queue =
    coalesce (scheduler.queue ++ [task]) := by
  rcases queue_post accepting task with appended | passed
  · rw [appended]
  · rw [passed, coalesce_idem]

theorem queue_post_sublist :
    ((scheduler.post task).1.queue).Sublist (scheduler.queue ++ [task]) := by
  rcases queue_post accepting task with appended | passed
  · simp [appended]
  · rw [passed]
    exact coalesce_sublist _

/-- Below the threshold no pass runs. -/
theorem post_below (below : scheduler.queue.length + 1 < scheduler.coalesceAt) :
    (scheduler.post task).1 = scheduler.enqueue task := by
  have accepted : scheduler.accepts task.kind = true := by
    simp [accepts, accepting]
  have grown : (scheduler.enqueue task).length = scheduler.queue.length + 1 := by
    simp [length, enqueue]
  unfold post
  rw [if_pos accepted]
  dsimp only
  rw [if_neg]
  rw [grown]
  exact Nat.not_le_of_lt below

/-- At the threshold a pass runs. -/
theorem queue_post_full (full : scheduler.coalesceAt ≤ scheduler.queue.length + 1) :
    (scheduler.post task).1.queue = coalesce (scheduler.queue ++ [task]) := by
  have accepted : scheduler.accepts task.kind = true := by
    simp [accepts, accepting]
  have grown : (scheduler.enqueue task).length = scheduler.queue.length + 1 := by
    simp [length, enqueue]
  unfold post
  rw [if_pos accepted]
  dsimp only
  rw [if_pos]
  · rfl
  · rw [grown]
    exact full

theorem softCap_post : (scheduler.post task).1.softCap = scheduler.softCap := by
  have accepted : scheduler.accepts task.kind = true := by
    simp [accepts, accepting]
  unfold post
  rw [if_pos accepted]
  dsimp only
  split <;> rfl

theorem shuttingDown_post : (scheduler.post task).1.shuttingDown = false := by
  have accepted : scheduler.accepts task.kind = true := by
    simp [accepts, accepting]
  unfold post
  rw [if_pos accepted]
  dsimp only
  split <;> exact accepting

end Open

/-- What a post reports is about passes. -/
theorem event_post (scheduler : Scheduler α) (task : Task α) (count : Nat) :
    (scheduler.post task).2 ≠ some (.nestedDrain count) := by
  unfold post
  split
  · dsimp only
    split
    · unfold compact
      dsimp only
      split <;> nofun
    · nofun
  · nofun

end Scheduler

end ReplicaBridge.Schedule
