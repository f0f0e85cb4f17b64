/-
Module: ReplicaBridge.Proofs.SupersededDeeds
Purpose: The course that an entity's track takes through the deeds of a queue, and why a
  coalescing pass does not change where it ends.  An update that a later one supersedes may
  reach the row where its dropping leaves the early update, or the other way round; both
  courses meet again at the later update at the latest.
Main exports: Track.course, World.track_performAll, Track.Unsettled, Track.Near,
  Track.course_coalesce
-/
import ReplicaBridge.Proofs.InputEffects

namespace ReplicaBridge

open Host (ReflectionHost)
open Schedule (Absorbs TaskKind coalesce)

/-! ### Courses -/

/-- What a job does to the given entity, if it is about it. -/
def Job.deedOn? (id : EntityId) (job : Job) : Option Deed :=
  match job.deed? with
  | some (entity, deed) => if entity = id then some deed else none
  | none => none

/-- What the jobs do to an entity, in order. -/
def deedsOn (id : EntityId) (jobs : List Job) : List Deed :=
  jobs.filterMap (Job.deedOn? id)

/-- Where deeds in one frame take a track. -/
def Track.course (id : EntityId) (owned : Bool) (tick : Nat) (deeds : List Deed)
    (track : Track) : Track :=
  deeds.foldl (fun track deed => track.after id owned tick deed) track

theorem Job.deed?_of_deedOn? {id : EntityId} {job : Job} {deed : Deed}
    (about : job.deedOn? id = some deed) : job.deed? = some (id, deed) := by
  unfold Job.deedOn? at about
  split at about
  · rename_i entity other claimed
    split at about
    · rename_i same
      cases about
      rw [claimed, same]
    · cases about
  · cases about

theorem deedsOn_cons_of_none {id : EntityId} {job : Job} (rest : List Job)
    (about : job.deedOn? id = none) : deedsOn id (job :: rest) = deedsOn id rest :=
  List.filterMap_cons_none about

theorem deedsOn_cons_of_some {id : EntityId} {job : Job} {deed : Deed} (rest : List Job)
    (about : job.deedOn? id = some deed) : deedsOn id (job :: rest) = deed :: deedsOn id rest :=
  List.filterMap_cons_some about

namespace World

variable {H : Type} [ReflectionHost H]

theorem owns_performJob {job : Job} (posted : Job.Posted job) (world : World H)
    (id : EntityId) : (world.performJob job).owns id = world.owns id :=
  congrArg (fun footing => footing.localEntity == some id) (footing_performJob posted world)

theorem tick_performJob {job : Job} (posted : Job.Posted job) (world : World H) :
    (world.performJob job).channel.tick = world.channel.tick :=
  congrArg Footing.tick (footing_performJob posted world)

theorem track_performJob_of_none {id : EntityId} {job : Job} (posted : Job.Posted job)
    (about : job.deedOn? id = none) (world : World H) :
    (world.performJob job).track id = world.track id := by
  cases subject : job.deed? with
  | none => exact (undisturbed_performJob posted subject world).tracks id
  | some claim =>
      obtain ⟨entity, deed⟩ := claim
      refine (retracks_performJob subject world).others id fun same => ?_
      unfold Job.deedOn? at about
      rw [subject] at about
      simp [same] at about

/-- The jobs of a queue take each track its own course. -/
theorem track_performAll {jobs : List Job} (posted : ∀ job ∈ jobs, Job.Posted job)
    (world : World H) (id : EntityId) : (world.performAll jobs).track id =
      (world.track id).course id (world.owns id) world.channel.tick (deedsOn id jobs) := by
  induction jobs generalizing world with
  | nil => rfl
  | cons job rest ih =>
      have posts := posted job List.mem_cons_self
      rw [performAll_cons, ih fun other waits => posted other (List.mem_cons_of_mem job waits),
        owns_performJob posts, tick_performJob posts]
      cases about : job.deedOn? id with
      | none =>
          rw [deedsOn_cons_of_none rest about, track_performJob_of_none posts about]
      | some deed =>
          rw [deedsOn_cons_of_some rest about,
            (retracks_performJob (Job.deed?_of_deedOn? about) world).own]
          rfl

end World

/-! ### Where two courses may differ -/

/-- Two tracks that a server update makes equal: both have a row, or neither has. -/
structure Track.Unsettled (left right : Track) : Prop where
  exist : left.row.isSome = right.row.isSome
  held : left.row.isSome = true → left.held = right.held

/-- That far apart are the tracks without a server update and with it. -/
theorem Track.unsettled_update (track : Track) (id : EntityId) (tick : Nat)
    (state : AvatarState) : track.Unsettled (track.after id false tick (.update state)) := by
  unfold Track.after
  dsimp only
  split
  · split
    · rename_i present
      exact ⟨present, fun _ => rfl⟩
    · rename_i missing
      exact ⟨rfl, fun present => absurd present missing⟩
  · exact ⟨rfl, fun _ => rfl⟩

namespace Track.Unsettled

variable {left right : Track} (unsettled : left.Unsettled right)

include unsettled

/-- Every deed but a local write leaves the tracks of a replicated entity that far apart at
most. -/
theorem after (id : EntityId) (tick : Nat) {deed : Deed}
    (remote : ∀ state, deed ≠ .write state) :
    (left.after id false tick deed).Unsettled (right.after id false tick deed) := by
  obtain ⟨exist, held⟩ := unsettled
  cases deed with
  | spawn state =>
      unfold Track.after
      dsimp only
      split
      · exact ⟨rfl, fun _ => rfl⟩
      · exact ⟨exist, held⟩
  | despawn => exact ⟨rfl, fun _ => rfl⟩
  | update state =>
      unfold Track.after
      dsimp only
      rw [exist]
      split
      · split
        · rename_i present
          exact ⟨rfl, fun _ => held (exist.trans present)⟩
        · exact ⟨exist, fun _ => rfl⟩
      · exact ⟨exist, held⟩
  | write state => exact absurd rfl (remote state)

/-- A valid server update settles them. -/
theorem settle (id : EntityId) (tick : Nat) {state : AvatarState} (valid : state.isValid = true) :
    left.after id false tick (.update state) = right.after id false tick (.update state) := by
  obtain ⟨exist, held⟩ := unsettled
  obtain ⟨leftRow, leftHeld⟩ := left
  obtain ⟨rightRow, rightHeld⟩ := right
  simp only [Track.after]
  simp only [valid, Bool.not_false, Bool.and_true, if_true]
  cases leftRow with
  | some row =>
      cases rightRow with
      | some other =>
          have same : leftHeld = rightHeld := held rfl
          rw [same]
          rfl
      | none => cases exist
  | none =>
      cases rightRow with
      | some other => cases exist
      | none => rfl

end Track.Unsettled

/-! ### Superseded work -/

/-- Work with a key is a valid update from the server, or a local write. -/
theorem Job.Posted.deed_of_key {job : Job} (posted : Job.Posted job) {key : TaskKind}
    (keyed : job.kind.coalesceKey? = some key) :
    (∃ state, state.isValid = true ∧ key = .avatarUpdate state.id ∧
      job.deed? = some (state.id, .update state)) ∨
    (∃ id state, key = .localAvatarUpdate id ∧ job.deed? = some (id, .write state)) := by
  cases posted with
  | message valid =>
      rename_i message
      cases message with
      | humanUpdate state =>
          cases keyed
          exact Or.inl ⟨state, valid, rfl, rfl⟩
      | _ => cases keyed
  | localWrite id valid =>
      cases keyed
      exact Or.inr ⟨id, _, rfl, rfl⟩

namespace Track

variable {id : EntityId} {owned : Bool}

/-- The track of an entity after a job, which may be about another one. -/
def take (id : EntityId) (owned : Bool) (tick : Nat) (track : Track) (job : Job) : Track :=
  match job.deedOn? id with
  | some deed => track.after id owned tick deed
  | none => track

theorem course_deedsOn (id : EntityId) (owned : Bool) (tick : Nat) (jobs : List Job)
    (track : Track) :
    track.course id owned tick (deedsOn id jobs) = jobs.foldl (take id owned tick) track := by
  refine (List.foldl_filterMap (f := Job.deedOn? id)).trans ?_
  congr 1
  funext track job
  unfold take
  cases job.deedOn? id <;> rfl

/-- A job that inputs post; if it writes the entity locally, that is the local player's. -/
structure Allows (id : EntityId) (owned : Bool) (job : Job) : Prop where
  posted : Job.Posted job
  own : ∀ state, job.deedOn? id = some (.write state) → owned = true

/-- How far apart the tracks of an entity without and with work of a key may be for later work
of the key to make them equal: an update of a replicated entity makes up for an earlier one,
and a write of the local player's avatar for an earlier one. -/
inductive Near (id : EntityId) (owned : Bool) : TaskKind → Track → Track → Prop where
  | same (key : TaskKind) (track : Track) : Near id owned key track track
  | update {left right : Track} (unsettled : left.Unsettled right) (remote : owned = false) :
      Near id owned (.avatarUpdate id) left right
  | write {left right : Track} (held : left.held = right.held) (own : owned = true) :
      Near id owned (.localAvatarUpdate id) left right

theorem near_take {job : Job} (allowed : Allows id owned job) {key : TaskKind}
    (keyed : job.kind.coalesceKey? = some key) (tick : Nat) (track : Track) :
    Near id owned key track (track.take id owned tick job) := by
  unfold take
  cases concerns : job.deedOn? id with
  | none => exact .same key track
  | some deed =>
      have claimed := Job.deed?_of_deedOn? concerns
      rcases allowed.posted.deed_of_key keyed with
        ⟨state, valid, rfl, about⟩ | ⟨entity, state, rfl, about⟩
      · rw [about] at claimed
        cases claimed
        cases owned with
        | true => exact .same _ track
        | false => exact .update (unsettled_update track state.id tick state) rfl
      · rw [about] at claimed
        cases claimed
        exact .write rfl (allowed.own state concerns)

/-- No deed changes the held update of the local player's entity by what the row is. -/
theorem held_after_congr (tick : Nat) (deed : Deed) {left right : Track}
    (held : left.held = right.held) :
    (left.after id true tick deed).held = (right.after id true tick deed).held := by
  unfold after
  cases deed with
  | spawn state =>
      dsimp only
      split
      · rfl
      · exact held
  | despawn => rfl
  | update state => exact held
  | write state => exact held

theorem Near.take {key : TaskKind} {left right : Track} (near : Near id owned key left right)
    {job : Job} (allowed : Allows id owned job) (tick : Nat) :
    Near id owned key (left.take id owned tick job) (right.take id owned tick job) := by
  unfold Track.take
  cases concerns : job.deedOn? id with
  | none => exact near
  | some deed =>
      cases near with
      | same track => exact .same key _
      | update unsettled remote =>
          subst remote
          refine .update (unsettled.after id tick fun state isWrite => ?_) rfl
          rw [isWrite] at concerns
          cases allowed.own state concerns
      | write held own =>
          subst own
          exact .write (held_after_congr tick deed held) rfl

theorem Near.meet {key : TaskKind} {left right : Track} (near : Near id owned key left right)
    {job : Job} (allowed : Allows id owned job) (keyed : job.kind.coalesceKey? = some key)
    (tick : Nat) : left.take id owned tick job = right.take id owned tick job := by
  unfold Track.take
  rcases allowed.posted.deed_of_key keyed with
    ⟨state, valid, rfl, about⟩ | ⟨entity, state, rfl, about⟩
  · cases near with
    | same track => rfl
    | update unsettled remote =>
        subst remote
        simp only [Job.deedOn?, about, if_true]
        exact unsettled.settle state.id tick valid
  · cases near with
    | same track => rfl
    | write held own =>
        simp only [Job.deedOn?, about, if_true]
        simp only [after]
        rw [held]

/-- Work with a key makes up for earlier work with it. -/
theorem absorbs_take (id : EntityId) (owned : Bool) (tick : Nat) :
    Absorbs (Allows id owned) (take id owned tick) (fun track => track) (Near id owned) where
  acts _ same := by rw [same]
  drops track allowed keyed := near_take allowed keyed tick track
  keeps allowed near := near.take allowed tick
  meets allowed keyed near := near.meet allowed keyed tick

/-- A coalescing pass over the jobs does not change where the track of an entity ends, if
none but the local player's entity is written locally. -/
theorem course_coalesce {jobs : List Job} (posted : ∀ job ∈ jobs, Job.Posted job)
    (own : ∀ state, .write state ∈ deedsOn id jobs → owned = true) (tick : Nat)
    (track : Track) : track.course id owned tick (deedsOn id (coalesce jobs)) =
      track.course id owned tick (deedsOn id jobs) := by
  rw [course_deedsOn, course_deedsOn]
  apply (absorbs_take id owned tick).observe_foldl_coalesce
  intro job among
  refine ⟨posted job among, fun state about => own state ?_⟩
  exact List.mem_filterMap.mpr ⟨job, among, about⟩

end Track

end ReplicaBridge
