/-
Module: ReplicaBridge.Proofs.ToldSignals
Purpose: What listeners are told while a queue is worked off, and what of it a coalescing
  pass can change.  Only a despawn asks for a row, and only local writes, of all the work
  that may be superseded, make one.  So a pass changes what is told exactly if it takes a
  despawn the row that nothing but local writes had made.
Main exports: World.toldAll, Job.leaves, toldBy, World.toldAll_eq_toldBy, masksDespawn,
  Thins, Thins.toldBy_sublist, toldBy_coalesce_iff
-/
import ReplicaBridge.Proofs.Hearing
import ReplicaBridge.Proofs.SupersededDeeds

namespace ReplicaBridge

open Host (ReflectionHost)
open Schedule (coalesce hasKey)

/-! ### Rows along a queue -/

/-- Whether an entity has a row after a deed, if `row` says whether it had one. -/
def Deed.leavesRow : Deed → (row : Bool) → Bool
  | .spawn _, _ => true
  | .despawn, _ => false
  | .update _, row => row
  | .write _, _ => true

namespace Job

/-- Which entities have a row after a job, if `rows` says which had one. -/
def leaves (job : Job) (rows : EntityId → Bool) (id : EntityId) : Bool :=
  match job.deedOn? id with
  | some deed => deed.leavesRow (rows id)
  | none => rows id

/-- The job writes a local player's avatar. -/
def isWrite (job : Job) : Bool :=
  match job.kind with
  | .localAvatarUpdate _ => true
  | _ => false

/-- Which entities have a row after a job, if local writes make none. -/
def leavesBare (job : Job) (rows : EntityId → Bool) : EntityId → Bool :=
  if job.isWrite then rows else job.leaves rows

/-- The row that a job takes away from an entity if local writes made it: with the writes
the entity has one, without them it has none, and another write of it waits. -/
def masked (job : Job) (rest : List Job) (bare full : EntityId → Bool) : Bool :=
  match job.work with
  | .receiveDespawn id => full id && !bare id && hasKey (.localAvatarUpdate id) rest
  | _ => false

end Job

/-- What listeners are told along a queue, if `rows` says which entities have a row first. -/
def toldBy : List Job → (rows : EntityId → Bool) → List Signal
  | [], _ => []
  | job :: rest, rows => (job.work.signal? rows).toList ++ toldBy rest (job.leaves rows)

/-- Some despawn along a queue meets a row that only local writes of the queue had made, while
another local write of the entity waits behind it.  The rows are followed twice, `bare` as if
local writes made none. -/
def masksDespawn : List Job → (bare full : EntityId → Bool) → Bool
  | [], _, _ => false
  | job :: rest, bare, full =>
    job.masked rest bare full || masksDespawn rest (job.leavesBare bare) (job.leaves full)

namespace World

variable {H : Type} [ReflectionHost H]

/-- What listeners are told while jobs are performed. -/
def toldAll : List Job → World H → List Signal
  | [], _ => []
  | job :: rest, world =>
    (job.work.signal? world.hasRow).toList ++ toldAll rest (world.performJob job)

end World

/-- What is superseded has a key. -/
theorem Schedule.Task.keyed_of_superseded {α : Type} {task : Schedule.Task α}
    {later : List (Schedule.Task α)} (superseded : task.isSupersededBy later = true) :
    task.kind.coalesceKey? ≠ none := by
  intro keyless
  rw [isSupersededBy, keyless] at superseded
  cases superseded

/-! ### Jobs that inputs post -/

theorem Track.isSome_row_after (id : EntityId) (owned : Bool) (tick : Nat) {deed : Deed}
    (valid : ∀ state, deed = .spawn state → state.isValid = true) (track : Track) :
    (track.after id owned tick deed).row.isSome = deed.leavesRow track.row.isSome := by
  cases deed with
  | spawn state =>
      unfold after
      dsimp only
      rw [if_pos (valid state rfl)]
      rfl
  | despawn => rfl
  | write state => rfl
  | update state =>
      unfold after
      dsimp only
      split
      · split
        · rename_i present
          exact present.symm
        · rfl
      · rfl

namespace Job.Posted

variable {job : Job} (posted : Job.Posted job)

include posted

theorem valid_spawn {id : EntityId} {state : AvatarState}
    (about : job.deed? = some (id, .spawn state)) : state.isValid = true := by
  cases posted with
  | message valid =>
      rename_i message
      cases message with
      | humanSpawn other =>
          cases about
          exact valid
      | _ => cases about
  | localWrite entity valid => cases about

/-- A local write is a job of its own kind. -/
theorem kind_of_write {id : EntityId} {state : AvatarState}
    (about : job.deed? = some (id, .write state)) : job.kind = .localAvatarUpdate id := by
  cases posted with
  | message valid =>
      rename_i message
      cases message <;> cases about
  | localWrite entity valid =>
      cases about
      rfl

theorem exists_write_of_isWrite (write : job.isWrite = true) :
    ∃ id state, job.deed? = some (id, .write state) := by
  cases posted with
  | message valid =>
      rename_i message
      cases message <;> cases write
  | localWrite id valid => exact ⟨id, _, rfl⟩

theorem kind_of_despawn {id : EntityId} (despawns : job.work = .receiveDespawn id) :
    job.kind = .despawn := by
  cases posted with
  | message valid =>
      rename_i message
      cases message with
      | humanDespawn other => rfl
      | _ => cases despawns
  | localWrite entity valid => cases despawns

theorem isWrite_of_despawn {id : EntityId} (despawns : job.work = .receiveDespawn id) :
    job.isWrite = false := by
  rw [isWrite, posted.kind_of_despawn despawns]

/-- Work with a key fires no signal. -/
theorem signal?_of_key (keyed : job.kind.coalesceKey? ≠ none) (rows : EntityId → Bool) :
    job.work.signal? rows = none := by
  cases posted with
  | message valid =>
      rename_i message
      cases message with
      | humanUpdate state => rfl
      | _ => exact absurd rfl keyed
  | localWrite id valid => rfl

/-- Work with a key takes no row away. -/
theorem leaves_of_key (keyed : job.kind.coalesceKey? ≠ none) {rows : EntityId → Bool}
    {id : EntityId} (row : rows id = true) : job.leaves rows id = true := by
  cases key : job.kind.coalesceKey? with
  | none => exact absurd key keyed
  | some kind =>
      unfold leaves
      cases about : job.deedOn? id with
      | none => exact row
      | some deed =>
          have claimed := Job.deed?_of_deedOn? about
          rcases posted.deed_of_key key with ⟨state, _, _, other⟩ | ⟨entity, state, _, other⟩
          · cases claimed.symm.trans other
            exact row
          · cases claimed.symm.trans other
            rfl

end Job.Posted

namespace World

variable {H : Type} [ReflectionHost H]

theorem hasRow_performJob {job : Job} (posted : Job.Posted job) (world : World H) :
    (world.performJob job).hasRow = job.leaves world.hasRow := by
  funext id
  change ((world.performJob job).track id).row.isSome = _
  unfold Job.leaves
  cases about : job.deedOn? id with
  | none => exact congrArg (·.row.isSome) (track_performJob_of_none posted about world)
  | some deed =>
      have claimed := Job.deed?_of_deedOn? about
      rw [(retracks_performJob claimed world).own]
      apply Track.isSome_row_after
      rintro state rfl
      exact posted.valid_spawn claimed

/-- What listeners are told depends on the rows alone. -/
theorem toldAll_eq_toldBy {jobs : List Job} (posted : ∀ job ∈ jobs, Job.Posted job)
    (world : World H) : toldAll jobs world = toldBy jobs world.hasRow := by
  induction jobs generalizing world with
  | nil => rfl
  | cons job rest ih =>
      have later := ih fun other waits => posted other (List.mem_cons_of_mem job waits)
      rw [toldAll, toldBy, later, hasRow_performJob (posted job List.mem_cons_self)]

end World

/-! ### Queues with work left out -/

/-- A queue is another one without some of the work that may be superseded. -/
inductive Thins : List Job → List Job → Prop where
  | nil : Thins [] []
  | keep (job : Job) {few many : List Job} (rest : Thins few many) :
      Thins (job :: few) (job :: many)
  | drop {job : Job} (posted : Job.Posted job) (keyed : job.kind.coalesceKey? ≠ none)
      {few many : List Job} (rest : Thins few many) : Thins few (job :: many)

namespace Thins

theorem refl (jobs : List Job) : Thins jobs jobs := by
  induction jobs with
  | nil => exact .nil
  | cons job rest ih => exact .keep job ih

theorem trans {few more many : List Job} (first : Thins few more) (second : Thins more many) :
    Thins few many := by
  induction second generalizing few with
  | nil => exact first
  | keep job _ ih =>
      cases first with
      | keep _ rest => exact .keep job (ih rest)
      | drop posted keyed rest => exact .drop posted keyed (ih rest)
  | drop posted keyed _ ih => exact .drop posted keyed (ih first)

theorem concat {few many : List Job} (thins : Thins few many) (job : Job) :
    Thins (few ++ [job]) (many ++ [job]) := by
  induction thins with
  | nil => exact .refl [job]
  | keep other _ ih => exact .keep other ih
  | drop posted keyed _ ih => exact .drop posted keyed ih

/-- So is a queue after a coalescing pass. -/
theorem coalesce {jobs : List Job} (posted : ∀ job ∈ jobs, Job.Posted job) :
    Thins (coalesce jobs) jobs := by
  induction jobs with
  | nil => exact .nil
  | cons job later ih =>
      have rest := ih fun other waits => posted other (List.mem_cons_of_mem job waits)
      by_cases superseded : job.isSupersededBy later = true
      · rw [Schedule.coalesce, if_pos superseded]
        have keyed := Schedule.Task.keyed_of_superseded superseded
        exact .drop (posted job List.mem_cons_self) keyed rest
      · rw [Schedule.coalesce, if_neg superseded]
        exact .keep job rest

end Thins

/-! ### What a thinner queue tells -/

/-- Where there are fewer rows, a task tells what it tells anyway or nothing. -/
theorem Work.signal?_sublist (work : Work) {fewer rows : EntityId → Bool}
    (le : ∀ id, fewer id = true → rows id = true) :
    (work.signal? fewer).toList.Sublist (work.signal? rows).toList := by
  cases work with
  | receiveDespawn id =>
      cases row : fewer id with
      | false => simp [Work.signal?, row]
      | true => simp [Work.signal?, row, le id row]
  | _ => exact List.Sublist.refl _

theorem Job.leaves_mono (job : Job) {fewer rows : EntityId → Bool}
    (le : ∀ id, fewer id = true → rows id = true) {id : EntityId}
    (row : job.leaves fewer id = true) : job.leaves rows id = true := by
  unfold leaves at row ⊢
  cases about : job.deedOn? id with
  | none =>
      rw [about] at row
      exact le id row
  | some deed =>
      rw [about] at row
      cases deed with
      | update state => exact le id row
      | despawn => cases row
      | spawn state => rfl
      | write state => rfl

/-- Listeners hear from a thinner queue, over fewer rows, some of what they hear from the
whole one, in the same order. -/
theorem Thins.toldBy_sublist {few many : List Job} (thins : Thins few many)
    {fewer rows : EntityId → Bool} (le : ∀ id, fewer id = true → rows id = true) :
    (toldBy few fewer).Sublist (toldBy many rows) := by
  induction thins generalizing fewer rows with
  | nil => exact List.Sublist.refl _
  | keep job _ ih =>
      exact (job.work.signal?_sublist le).append (ih fun id => job.leaves_mono le)
  | drop posted keyed _ ih =>
      rw [toldBy, posted.signal?_of_key keyed]
      exact ih fun id row => posted.leaves_of_key keyed (le id row)

/-- The rows do not matter for what is told of chat lines and spawns. -/
theorem Work.filter_signal? (work : Work) (left right : EntityId → Bool) :
    (work.signal? left).toList.filter (·.kind != .despawned) =
      (work.signal? right).toList.filter (·.kind != .despawned) := by
  cases work with
  | receiveDespawn id =>
      cases leftRow : left id <;> cases rightRow : right id <;>
        simp [Work.signal?, leftRow, rightRow, Signal.kind]
  | _ => rfl

/-- Chat lines and spawns are told by a thinner queue all the same, whatever the rows. -/
theorem Thins.filter_toldBy {few many : List Job} (thins : Thins few many)
    (left right : EntityId → Bool) :
    (toldBy few left).filter (·.kind != .despawned) =
      (toldBy many right).filter (·.kind != .despawned) := by
  induction thins generalizing left right with
  | nil => rfl
  | keep job _ ih =>
      rw [toldBy, toldBy, List.filter_append, List.filter_append,
        job.work.filter_signal? left right, ih]
  | drop posted keyed _ ih =>
      rw [toldBy, posted.signal?_of_key keyed]
      exact ih left _

/-- The rows that are there when the superseded writes were dropped: a write of which another
one waits was dropped, all others were not. -/
def keptRows (jobs : List Job) (bare full : EntityId → Bool) (id : EntityId) : Bool :=
  if hasKey (.localAvatarUpdate id) jobs then bare id else full id

theorem keptRows_le (jobs : List Job) {bare full : EntityId → Bool}
    (le : ∀ id, bare id = true → full id = true) (id : EntityId)
    (row : keptRows jobs bare full id = true) : full id = true := by
  unfold keptRows at row
  split at row
  · exact le id row
  · exact row

/-! ### What a pass changes -/

namespace Job

variable {job : Job} {rest : List Job} {rows : EntityId → Bool} {id entity : EntityId}
  {state : AvatarState}

theorem leaves_congr (job : Job) {left right : EntityId → Bool} (same : left id = right id) :
    job.leaves left id = job.leaves right id := by
  unfold leaves
  rw [same]

theorem leaves_update (about : job.deed? = some (entity, .update state)) :
    job.leaves rows = rows := by
  funext id
  unfold leaves deedOn?
  rw [about]
  by_cases same : entity = id <;> simp [same, Deed.leavesRow]

theorem leaves_write (about : job.deed? = some (entity, .write state)) :
    job.leaves rows entity = true := by
  simp [leaves, deedOn?, about, Deed.leavesRow]

theorem leaves_write_of_ne (about : job.deed? = some (entity, .write state))
    (ne : entity ≠ id) : job.leaves rows id = rows id := by
  simp [leaves, deedOn?, about, ne]

/-- Only local writes have the key of one. -/
theorem hasKey_cons_of_not_write (other : job.isWrite = false) :
    hasKey (.localAvatarUpdate id) (job :: rest) = hasKey (.localAvatarUpdate id) rest := by
  obtain ⟨kind, work⟩ := job
  cases kind with
  | localAvatarUpdate entity => cases other
  | _ => rfl

theorem hasKey_cons_write (kind : job.kind = .localAvatarUpdate entity) :
    hasKey (.localAvatarUpdate id) (job :: rest) =
      (entity == id || hasKey (.localAvatarUpdate id) rest) := by
  by_cases same : entity = id
  · simp [hasKey, kind, Schedule.TaskKind.coalesceKey?, same]
  · have ne : (Schedule.TaskKind.localAvatarUpdate entity == .localAvatarUpdate id) = false :=
      beq_false_of_ne fun claim => same (Schedule.TaskKind.localAvatarUpdate.inj claim)
    simp [hasKey, kind, Schedule.TaskKind.coalesceKey?, ne, same]

theorem isSupersededBy_write (kind : job.kind = .localAvatarUpdate entity) :
    job.isSupersededBy rest = hasKey (.localAvatarUpdate entity) rest := by
  unfold Schedule.Task.isSupersededBy
  rw [kind]
  rfl

end Job

section Head

variable {job : Job} (posted : Job.Posted job) {rest : List Job} (bare full : EntityId → Bool)

include posted

/-- A job that a pass keeps leaves the rows that the rest of the queue is to find. -/
theorem leaves_keptRows (kept : job.isSupersededBy rest = false) :
    job.leaves (keptRows (job :: rest) bare full) =
      keptRows rest (job.leavesBare bare) (job.leaves full) := by
  funext id
  unfold Job.leavesBare
  cases write : job.isWrite with
  | false =>
      rw [if_neg Bool.false_ne_true]
      unfold keptRows
      cases later : hasKey (.localAvatarUpdate id) rest with
      | false =>
          rw [if_neg Bool.false_ne_true]
          apply job.leaves_congr
          rw [Job.hasKey_cons_of_not_write write, later, if_neg Bool.false_ne_true]
      | true =>
          rw [if_pos rfl]
          apply job.leaves_congr
          rw [Job.hasKey_cons_of_not_write write, later, if_pos rfl]
  | true =>
      rw [if_pos rfl]
      obtain ⟨entity, state, about⟩ := posted.exists_write_of_isWrite write
      have kind := posted.kind_of_write about
      rw [Job.isSupersededBy_write kind] at kept
      by_cases same : entity = id
      · subst same
        rw [Job.leaves_write about, keptRows, kept, if_neg Bool.false_ne_true,
          Job.leaves_write about]
      · rw [Job.leaves_write_of_ne about same, keptRows, keptRows,
          Job.hasKey_cons_write kind, beq_false_of_ne same, Bool.false_or,
          Job.leaves_write_of_ne about same]

/-- A job that a pass drops leaves the rows that the rest of the queue is to find as they
are. -/
theorem keptRows_dropped (dropped : job.isSupersededBy rest = true) :
    keptRows (job :: rest) bare full =
      keptRows rest (job.leavesBare bare) (job.leaves full) := by
  unfold Job.leavesBare
  cases write : job.isWrite with
  | false =>
      have update : ∃ entity state, job.deed? = some (entity, .update state) := by
        cases key : job.kind.coalesceKey? with
        | none =>
            rw [Schedule.Task.isSupersededBy, key] at dropped
            cases dropped
        | some slot =>
            rcases posted.deed_of_key key with ⟨state, _, _, about⟩ | ⟨entity, state, same, about⟩
            · exact ⟨_, _, about⟩
            · have kind := posted.kind_of_write about
              rw [Job.isWrite, kind] at write
              cases write
      obtain ⟨entity, state, about⟩ := update
      rw [if_neg Bool.false_ne_true, Job.leaves_update about, Job.leaves_update about]
      funext id
      rw [keptRows, Job.hasKey_cons_of_not_write write]
      rfl
  | true =>
      rw [if_pos rfl]
      obtain ⟨entity, state, about⟩ := posted.exists_write_of_isWrite write
      have kind := posted.kind_of_write about
      rw [Job.isSupersededBy_write kind] at dropped
      funext id
      rw [keptRows, keptRows, Job.hasKey_cons_write kind]
      by_cases same : entity = id
      · subst same
        rw [dropped, Bool.or_true, if_pos rfl, if_pos rfl]
      · rw [beq_false_of_ne same, Bool.false_or, Job.leaves_write_of_ne about same]

/-- Local writes only add rows. -/
theorem leavesBare_le {bare full : EntityId → Bool}
    (le : ∀ id, bare id = true → full id = true) (id : EntityId)
    (row : job.leavesBare bare id = true) : job.leaves full id = true := by
  unfold Job.leavesBare at row
  split at row
  · rename_i write
    obtain ⟨entity, state, about⟩ := posted.exists_write_of_isWrite write
    apply posted.leaves_of_key
    · rw [posted.kind_of_write about]
      nofun
    · exact le id row
  · exact job.leaves_mono le row

/-- Work with a key masks nothing. -/
theorem masked_of_key (keyed : job.kind.coalesceKey? ≠ none) :
    job.masked rest bare full = false := by
  unfold Job.masked
  split
  · rename_i id despawns
    rw [posted.kind_of_despawn despawns] at keyed
    exact absurd rfl keyed
  · rfl

/-- A task tells the same over the kept rows, unless it is a masked despawn. -/
theorem signal?_keptRows {bare full : EntityId → Bool}
    (le : ∀ id, bare id = true → full id = true)
    (visible : job.masked rest bare full = false) :
    job.work.signal? (keptRows (job :: rest) bare full) = job.work.signal? full := by
  unfold Job.masked at visible
  split at visible
  · rename_i id despawns
    have same : keptRows (job :: rest) bare full id = full id := by
      unfold keptRows
      rw [Job.hasKey_cons_of_not_write (posted.isWrite_of_despawn despawns)]
      have row := le id
      revert visible row
      cases hasKey (.localAvatarUpdate id) rest <;> cases bare id <;> cases full id <;> simp
    rw [despawns]
    simp only [Work.signal?, same]
  · rename_i other
    cases work : job.work with
    | receiveDespawn id => exact absurd work (other id)
    | _ => rfl

/-- A masked despawn is not told over the kept rows. -/
theorem signal?_masked {bare full : EntityId → Bool}
    (masked : job.masked rest bare full = true) :
    job.work.signal? (keptRows (job :: rest) bare full) = none ∧
      (job.work.signal? full).isSome = true := by
  unfold Job.masked at masked
  split at masked
  · rename_i id despawns
    simp only [Bool.and_eq_true, Bool.not_eq_true'] at masked
    obtain ⟨⟨row, gone⟩, later⟩ := masked
    have kept : keptRows (job :: rest) bare full id = false := by
      rw [keptRows, Job.hasKey_cons_of_not_write (posted.isWrite_of_despawn despawns), later,
        if_pos rfl, gone]
    rw [despawns]
    simp [Work.signal?, kept, row]
  · cases masked

end Head

/-- A pass over a queue leaves what is told as it is exactly if no despawn of the queue is
masked. -/
theorem toldBy_coalesce_iff {jobs : List Job} (posted : ∀ job ∈ jobs, Job.Posted job)
    {bare full : EntityId → Bool} (le : ∀ id, bare id = true → full id = true) :
    toldBy (coalesce jobs) (keptRows jobs bare full) = toldBy jobs full ↔
      masksDespawn jobs bare full = false := by
  induction jobs generalizing bare full with
  | nil => simp [coalesce, toldBy, masksDespawn]
  | cons job rest ih =>
      have posts := posted job List.mem_cons_self
      have others : ∀ other ∈ rest, Job.Posted other :=
        fun other waits => posted other (List.mem_cons_of_mem job waits)
      have after := leavesBare_le posts le
      have later := ih others after
      rw [masksDespawn, Bool.or_eq_false_iff]
      cases superseded : job.isSupersededBy rest with
      | true =>
          have keyed := Schedule.Task.keyed_of_superseded superseded
          rw [coalesce, if_pos superseded, keptRows_dropped posts bare full superseded, toldBy,
            posts.signal?_of_key keyed, masked_of_key posts bare full keyed]
          simpa using later
      | false =>
          rw [coalesce, if_neg (Bool.eq_false_iff.1 superseded), toldBy, toldBy,
            leaves_keptRows posts bare full superseded]
          cases masked : job.masked rest bare full with
          | false =>
              rw [signal?_keptRows posts le masked]
              simpa using later
          | true =>
              -- Here both sides differ: the whole queue tells of this despawn and then of all
              -- that the shorter queue can tell.
              obtain ⟨silent, heard⟩ := signal?_masked posts masked
              obtain ⟨signal, fired⟩ := Option.isSome_iff_exists.1 heard
              have fewer := ((Thins.coalesce others).toldBy_sublist
                (keptRows_le rest after)).length_le
              rw [silent, fired]
              simp only [Option.toList_none, Option.toList_some, List.nil_append,
                Bool.true_eq_false, false_and, iff_false]
              intro same
              rw [same, List.singleton_append, List.length_cons] at fewer
              exact Nat.not_succ_le_self _ fewer

/-- A pass over a queue that nothing was dropped from yet. -/
theorem toldBy_coalesce_iff_of_rows {jobs : List Job} (posted : ∀ job ∈ jobs, Job.Posted job)
    (rows : EntityId → Bool) :
    toldBy (coalesce jobs) rows = toldBy jobs rows ↔ masksDespawn jobs rows rows = false := by
  have same : keptRows jobs rows rows = rows := by
    funext id
    exact ite_self _
  have covered := toldBy_coalesce_iff posted fun id (row : rows id = true) => row
  rwa [same] at covered

/-- A masked despawn is not alone in its queue: a write waits behind it. -/
theorem two_le_length_of_masksDespawn {jobs : List Job} {bare full : EntityId → Bool}
    (masks : masksDespawn jobs bare full = true) : 2 ≤ jobs.length := by
  induction jobs generalizing bare full with
  | nil => cases masks
  | cons job rest ih =>
      rcases Bool.or_eq_true_iff.1 masks with now | later
      · cases rest with
        | nil =>
            unfold Job.masked at now
            split at now
            · simp [hasKey] at now
            · cases now
        | cons other others => simp
      · exact Nat.le_succ_of_le (ih later)

end ReplicaBridge
