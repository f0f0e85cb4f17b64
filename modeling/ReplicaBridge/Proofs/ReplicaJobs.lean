/-
Module: ReplicaBridge.Proofs.ReplicaJobs
Purpose: The jobs that a change of the replica becomes when it is asked for off the game
  thread.  Such a job is about the row of one entity, or about the season and the clock; what
  it does to the row follows from the row and from who owns the entity.  So a coalescing pass
  over such jobs cannot be seen.
Main exports: Job.Direct, Job.subject?, Job.rowAfter, World.retracks_direct,
  World.track_performDirect, World.view_performDirect
-/
import ReplicaBridge.Proofs.HostEffects

namespace ReplicaBridge

open Host (ReflectionHost)
open Schedule (Absorbs TaskKind coalesce)

/-! ### The jobs -/

namespace Job

/-- A job that does to the replica what was asked for and found valid. -/
inductive Direct : Job → Prop where
  | season (season : Season) : Direct { kind := .environment, work := .applySeason season }
  | hours (hours : Int32) : Direct { kind := .environment, work := .advanceHours hours }
  | update (id : EntityId) {state : AvatarState} (valid : state.isValid = true) :
      Direct { kind := .avatarUpdate id, work := .applyUpdate id state }
  | spawn (id : EntityId) {state : AvatarState} (valid : state.isValid = true) :
      Direct { kind := .spawn, work := .spawn id state }
  | despawn (id : EntityId) : Direct { kind := .despawn, work := .despawn id }
  | write (id : EntityId) (state : AvatarState) :
      Direct { kind := .localAvatarUpdate id, work := .writeRow id state }

/-- The entity whose row a job is about. -/
def subject? (job : Job) : Option EntityId :=
  match job.work with
  | .applyUpdate id _ | .spawn id _ | .despawn id | .writeRow id _ => some id
  | _ => none

/-- The row of a job's entity after the job; `owned` says whether the entity is the local
player's. -/
def rowAfter (owned : Bool) (job : Job) (row : Option AvatarState) : Option AvatarState :=
  match job.work with
  | .applyUpdate id state => if owned then row else row.map fun _ => state.withId id
  | .spawn id state | .writeRow id state => some (state.withId id)
  | .despawn _ => none
  | _ => row

/-- The row of an entity after a job, which may be about another one. -/
def takeRow (id : EntityId) (owned : Bool) (row : Option AvatarState) (job : Job) :
    Option AvatarState :=
  if job.subject? = some id then job.rowAfter owned row else row

/-- Work with a key is an update or a local write of the entity that the key names. -/
theorem Direct.of_key {job : Job} (direct : job.Direct) {key : TaskKind}
    (keyed : job.kind.coalesceKey? = some key) :
    (∃ id state, key = .avatarUpdate id ∧ job.work = .applyUpdate id state) ∨
      ∃ id state, key = .localAvatarUpdate id ∧ job.work = .writeRow id state := by
  cases direct with
  | update id valid =>
      cases keyed
      exact Or.inl ⟨id, _, rfl, rfl⟩
  | write id state =>
      cases keyed
      exact Or.inr ⟨id, state, rfl, rfl⟩
  | _ => cases keyed

theorem Direct.subject_of_key {job : Job} (direct : job.Direct) {key : TaskKind}
    (keyed : job.kind.coalesceKey? = some key) : ∃ id, job.subject? = some id := by
  rcases direct.of_key keyed with ⟨id, state, _, work⟩ | ⟨id, state, _, work⟩
  · exact ⟨id, by rw [subject?, work]⟩
  · exact ⟨id, by rw [subject?, work]⟩

end Job

/-! ### What they do -/

namespace World

variable {H : Type}

/-- The track of every entity, where that of one may have changed. -/
theorem Retracks.track_eq {id : EntityId} {track : Track} {before after : World H}
    (changed : Retracks id track before after) (other : EntityId) :
    after.track other = if other = id then track else before.track other := by
  by_cases same : other = id
  · rw [if_pos same, same, changed.own]
  · rw [if_neg same, changed.others other same]

variable [ReflectionHost H]

theorem retracks_direct {job : Job} (direct : job.Direct) {id : EntityId}
    (about : job.subject? = some id) (world : World H) :
    Retracks id
      { world.track id with row := job.rowAfter (world.owns id) (world.track id).row }
      world (world.performJob job) := by
  apply Retracks.of_view ?_ (view_performJob world job)
  have same : Retracks id (world.track id) world world := .quiet rfl id
  cases direct with
  | season season => cases about
  | hours hours => cases about
  | spawn id valid =>
      cases about
      rename_i state
      simp only [perform, spawn, valid, if_true]
      exact (same.writeRow state).of_view (view_note _ _)
  | despawn id =>
      cases about
      exact same.despawn
  | write id state =>
      cases about
      exact same.writeRow state
  | update id valid =>
      cases about
      rename_i state
      simp only [perform, applyUpdate_eq, valid, if_true, Job.rowAfter]
      cases world.owns id with
      | true => exact same
      | false =>
          -- Without a row the update is lost, and there is none after it.
          cases held : (world.track id).row with
          | none =>
              have unchanged : { world.track id with row := none } = world.track id := by
                rw [← held]
              simpa [unchanged] using same
          | some row => simpa using same.writeRow state

theorem undisturbed_direct {job : Job} (direct : job.Direct) (about : job.subject? = none)
    (world : World H) : Undisturbed world (world.performJob job) := by
  have acted : Undisturbed world (world.perform job.work).1 := by
    cases direct with
    | season season => exact undisturbed_applySeason world season
    | hours hours => exact undisturbed_advanceHours world hours
    | _ => cases about
  exact acted.trans (.of_view (view_performJob world job))

theorem footing_performDirect {job : Job} (direct : job.Direct) (world : World H) :
    (world.performJob job).footing = world.footing := by
  cases about : job.subject? with
  | none => exact (undisturbed_direct direct about world).footing
  | some id => exact congrArg Backdrop.footing (retracks_direct direct about world).backdrop

/-- Each track keeps its early update and takes the row where the job puts it. -/
theorem track_performDirect {job : Job} (direct : job.Direct) (world : World H)
    (id : EntityId) : (world.performJob job).track id =
      { world.track id with row := Job.takeRow id (world.owns id) (world.track id).row job } := by
  unfold Job.takeRow
  cases about : job.subject? with
  | none => exact (undisturbed_direct direct about world).tracks id
  | some subject =>
      rw [(retracks_direct direct about world).track_eq id]
      by_cases same : id = subject
      · subst same
        rw [if_pos rfl, if_pos rfl]
      · rw [if_neg same, if_neg fun claimed => same (Option.some.inj claimed).symm]

theorem SameBackdrop.performDirect {job : Job} (direct : job.Direct) {left right : World H}
    (same : left.SameBackdrop right) :
    (left.performJob job).SameBackdrop (right.performJob job) := by
  cases about : job.subject? with
  | some subject =>
      exact ((retracks_direct direct about left).backdrop.trans same).trans
        (retracks_direct direct about right).backdrop.symm
  | none =>
      have acted : (left.perform job.work).1.SameBackdrop (right.perform job.work).1 := by
        cases direct with
        | season season =>
            obtain ⟨left', right', answer, leftApplied, rightApplied, same'⟩ :=
              applySeason_agree same season
            simp only [perform]
            rw [leftApplied, rightApplied]
            exact same'
        | hours hours =>
            obtain ⟨left', right', answer, leftAdvanced, rightAdvanced, same'⟩ :=
              advanceHours_agree same hours
            simp only [perform]
            rw [leftAdvanced, rightAdvanced]
            exact same'
        | _ => cases about
      have left' := congrArg View.backdrop (view_performJob left job)
      have right' := congrArg View.backdrop (view_performJob right job)
      exact (left'.trans acted).trans right'.symm

/-! ### Passes over them -/

/-- Work with a key never reaches the backdrop. -/
theorem absorbs_directBackdrop : Absorbs Job.Direct performJob backdrop
    fun _ (left right : World H) => left.SameBackdrop right where
  acts direct same := SameBackdrop.performDirect direct same
  drops world direct keyed := by
    obtain ⟨id, about⟩ := direct.subject_of_key keyed
    exact (retracks_direct direct about world).backdrop.symm
  keeps direct same := SameBackdrop.performDirect direct same
  meets direct _ same := SameBackdrop.performDirect direct same

end World

/-- How far apart the rows of an entity without and with work of a key may be for later work of
the key to make them equal.  A local write sets the row whatever it was; an update does so where
there is a row and it is not the local player's. -/
inductive Job.RowNear (id : EntityId) (owned : Bool) :
    TaskKind → Option AvatarState → Option AvatarState → Prop where
  | same (key : TaskKind) (row : Option AvatarState) : RowNear id owned key row row
  | update {left right : Option AvatarState} (exist : left.isSome = right.isSome)
      (remote : owned = false) : RowNear id owned (.avatarUpdate id) left right
  | write (left right : Option AvatarState) : RowNear id owned (.localAvatarUpdate id) left right

namespace Job

variable {id : EntityId} {owned : Bool}

/-- Whether there is a row after a job follows from whether there was one. -/
theorem isSome_takeRow_congr (job : Job) {left right : Option AvatarState}
    (exist : left.isSome = right.isSome) :
    (takeRow id owned left job).isSome = (takeRow id owned right job).isSome := by
  unfold takeRow
  split
  · unfold rowAfter
    split
    · split
      · exact exist
      · rw [Option.isSome_map, Option.isSome_map, exist]
    · rfl
    · rfl
    · rfl
    · exact exist
  · exact exist

theorem RowNear.take {key : TaskKind} {left right : Option AvatarState}
    (near : RowNear id owned key left right) (job : Job) :
    RowNear id owned key (takeRow id owned left job) (takeRow id owned right job) := by
  cases near with
  | same row => exact .same key _
  | update exist remote => exact .update (isSome_takeRow_congr job exist) remote
  | write => exact .write _ _

theorem rowNear_take {job : Job} (direct : job.Direct) {key : TaskKind}
    (keyed : job.kind.coalesceKey? = some key) (row : Option AvatarState) :
    RowNear id owned key row (takeRow id owned row job) := by
  unfold takeRow
  rcases direct.of_key keyed with ⟨other, state, rfl, work⟩ | ⟨other, state, rfl, work⟩
  · simp only [subject?, work, rowAfter, Option.some.injEq]
    split
    · rename_i same
      subst same
      cases owned with
      | true => exact .same _ row
      | false => exact .update (by cases row <;> rfl) rfl
    · exact .same _ row
  · simp only [subject?, work, rowAfter, Option.some.injEq]
    split
    · rename_i same
      subst same
      exact .write _ _
    · exact .same _ row

theorem RowNear.meet {key : TaskKind} {left right : Option AvatarState}
    (near : RowNear id owned key left right) {job : Job} (direct : job.Direct)
    (keyed : job.kind.coalesceKey? = some key) :
    takeRow id owned left job = takeRow id owned right job := by
  unfold takeRow
  rcases direct.of_key keyed with ⟨other, state, rfl, work⟩ | ⟨other, state, rfl, work⟩
  · cases near with
    | same row => rfl
    | update exist remote =>
        subst remote
        simp only [subject?, work, rowAfter, if_true]
        cases left <;> cases right <;> simp_all
  · cases near with
    | same row => rfl
    | write => simp [subject?, work, rowAfter]

/-- Work with a key makes up for earlier work with it. -/
theorem absorbs_takeRow (id : EntityId) (owned : Bool) :
    Absorbs Direct (takeRow id owned) (fun row => row) (RowNear id owned) where
  acts _ same := by rw [same]
  drops row direct keyed := rowNear_take direct keyed row
  keeps _ near := near.take _
  meets direct keyed near := near.meet direct keyed

end Job

namespace World

variable {H : Type} [ReflectionHost H]

/-- The jobs of a queue take each row its own course. -/
theorem track_performDirectAll {jobs : List Job} (direct : ∀ job ∈ jobs, job.Direct)
    (world : World H) (id : EntityId) : (world.performAll jobs).track id =
      { world.track id with
        row := jobs.foldl (Job.takeRow id (world.owns id)) (world.track id).row } := by
  induction jobs generalizing world with
  | nil => rfl
  | cons job rest ih =>
      have first := direct job List.mem_cons_self
      have owner : (world.performJob job).owns id = world.owns id :=
        congrArg (fun footing => footing.localEntity == some id) (footing_performDirect first world)
      rw [performAll_cons, ih fun other waits => direct other (List.mem_cons_of_mem job waits),
        owner, track_performDirect first]
      rfl

/-- Queues that coalesce to the same lead to the same. -/
theorem view_performDirect {left right : World H} (same : left.view = right.view)
    {leftJobs rightJobs : List Job} (passed : coalesce leftJobs = coalesce rightJobs)
    (leftDirect : ∀ job ∈ leftJobs, job.Direct) (rightDirect : ∀ job ∈ rightJobs, job.Direct) :
    (left.performAll leftJobs).view = (right.performAll rightJobs).view := by
  have kept : ∀ job ∈ coalesce rightJobs, Job.Direct job :=
    fun job among => rightDirect job ((Schedule.coalesce_sublist rightJobs).subset among)
  apply View.ext_track
  · calc (left.performAll leftJobs).backdrop
        = (left.performAll (coalesce leftJobs)).backdrop :=
          (absorbs_directBackdrop.observe_foldl_coalesce leftDirect left).symm
      _ = (left.performAll (coalesce rightJobs)).backdrop := by rw [passed]
      _ = (right.performAll (coalesce rightJobs)).backdrop :=
          absorbs_directBackdrop.observe_foldl kept (congrArg View.backdrop same)
      _ = (right.performAll rightJobs).backdrop :=
          absorbs_directBackdrop.observe_foldl_coalesce rightDirect right
  · intro id
    have track : left.track id = right.track id := congrArg (View.track · id) same
    have owns : left.owns id = right.owns id :=
      congrArg (fun view => view.backdrop.footing.localEntity == some id) same
    have absorbs := Job.absorbs_takeRow id (right.owns id)
    change (left.performAll leftJobs).track id = (right.performAll rightJobs).track id
    rw [track_performDirectAll leftDirect, track_performDirectAll rightDirect, track, owns,
      ← absorbs.observe_foldl_coalesce leftDirect, ← absorbs.observe_foldl_coalesce rightDirect,
      passed]

end World

end ReplicaBridge
