/-
Module: ReplicaBridge.Proofs.CoalescingInvisible
Purpose: Coalescing cannot be seen in the state.  What a pass drops never reaches the
  backdrop, and no track ends elsewhere for it; so two sessions that differ in their soft
  cap keep the same view through every run.
Main exports: World.view_performAll_of_coalesce, Session.KeepsOwner,
  Session.Matches, Session.Matches.view_run
-/
import ReplicaBridge.Proofs.SupersededDeeds

namespace ReplicaBridge

open Host (CountedHost Loaded Recorded ReflectionHost TableStore)
open Schedule (Scheduler coalesce)

namespace World

variable {H : Type}

/-- Local writes among the jobs are writes of the local entity. -/
def OwnWrites (world : World H) (jobs : List Job) : Prop :=
  ∀ id state, .write state ∈ deedsOn id jobs → world.owns id = true

variable [ReflectionHost H]

/-- Work with a key never reaches the backdrop. -/
theorem absorbs_backdrop : Schedule.Absorbs Job.Posted performJob backdrop
    fun _ (left right : World H) => left.SameBackdrop right where
  acts posted same := SameBackdrop.performJob posted same
  drops world posted keyed := by
    rcases posted.deed_of_key keyed with ⟨state, _, _, about⟩ | ⟨id, state, _, about⟩
    · exact (retracks_performJob about world).backdrop.symm
    · exact (retracks_performJob about world).backdrop.symm
  keeps posted same := SameBackdrop.performJob posted same
  meets posted _ same := SameBackdrop.performJob posted same

/-- Queues that coalesce to the same lead to the same. -/
theorem view_performAll_of_coalesce {left right : World H} (same : left.view = right.view)
    {leftJobs rightJobs : List Job} (passed : coalesce leftJobs = coalesce rightJobs)
    (leftPosted : ∀ job ∈ leftJobs, Job.Posted job)
    (rightPosted : ∀ job ∈ rightJobs, Job.Posted job) (leftOwn : left.OwnWrites leftJobs)
    (rightOwn : right.OwnWrites rightJobs) :
    (left.performAll leftJobs).view = (right.performAll rightJobs).view := by
  refine View.ext_track ?_ fun id => ?_
  · have once : (left.performAll (coalesce leftJobs)).SameBackdrop (left.performAll leftJobs) :=
      absorbs_backdrop.observe_foldl_coalesce leftPosted left
    have across : (right.performAll (coalesce rightJobs)).SameBackdrop
        (right.performAll rightJobs) :=
      absorbs_backdrop.observe_foldl_coalesce rightPosted right
    have beside : (left.performAll (coalesce rightJobs)).SameBackdrop
        (right.performAll (coalesce rightJobs)) :=
      absorbs_backdrop.observe_foldl
        (fun job among => rightPosted job ((Schedule.coalesce_sublist rightJobs).subset among))
        (SameBackdrop.of_view same)
    rw [passed] at once
    exact Eq.trans once.symm (Eq.trans beside across)
  · have track : left.track id = right.track id := congrArg (View.track · id) same
    have owns : left.owns id = right.owns id :=
      congrArg (fun view => view.backdrop.footing.localEntity == some id) same
    have tick : left.channel.tick = right.channel.tick :=
      congrArg (fun view => view.backdrop.footing.tick) same
    change (left.performAll leftJobs).track id = (right.performAll rightJobs).track id
    rw [track_performAll leftPosted, track_performAll rightPosted,
      ← Track.course_coalesce leftPosted (leftOwn id),
      ← Track.course_coalesce rightPosted (rightOwn id), passed, track, owns, tick]

end World

/-! ### Runs -/

namespace Session

variable {H : Type}

/-- The input does not change the local entity while work waits in the queue. -/
def KeepsOwnerAt (session : Session (Recorded H)) : Input H → Prop
  | .setLocalEntity id =>
    session.scheduler.queue = [] ∨ Replica.assigned id = session.world.replica.localEntity
  | _ => True

/-- Along the inputs the local entity changes only while nothing waits in the queue. -/
def KeepsOwner [ReflectionHost H] : Session (Recorded H) → List (Input H) → Prop
  | _, [] => True
  | session, input :: rest => session.KeepsOwnerAt input ∧ KeepsOwner (session.step input) rest

/-- Two sessions of one view whose queues differ by superseded work. -/
structure Matches (left right : Session (Recorded H)) (leftBacklog rightBacklog : Scheduler Work) :
    Prop where
  view : left.world.view = right.world.view
  leftHolds : left.Holds leftBacklog
  rightHolds : right.Holds rightBacklog
  passed : coalesce leftBacklog.queue = coalesce rightBacklog.queue
  leftOwn : left.world.OwnWrites leftBacklog.queue
  rightOwn : right.world.OwnWrites rightBacklog.queue

/-- The same work may be posted to either queue. -/
theorem coalesce_reschedule {left right : Scheduler Work}
    (leftAccepting : left.shuttingDown = false) (rightAccepting : right.shuttingDown = false)
    (passed : coalesce left.queue = coalesce right.queue) (input : Input H)
    (posted : Option Job) :
    coalesce (input.reschedule posted left).queue =
      coalesce (input.reschedule posted right).queue := by
  simp only [Input.reschedule]
  split
  · rfl
  · cases posted with
    | none => exact passed
    | some job =>
        rw [Scheduler.coalesce_queue_post leftAccepting,
          Scheduler.coalesce_queue_post rightAccepting, ← Schedule.coalesce_append left.queue,
          passed, Schedule.coalesce_append right.queue]

/-- The queue is empty in both sessions or in neither, so the other one keeps its owner,
too. -/
theorem Matches.keepsOwnerAt {left right : Session (Recorded H)}
    {leftBacklog rightBacklog : Scheduler Work}
    (matching : left.Matches right leftBacklog rightBacklog) {input : Input H}
    (keeps : left.KeepsOwnerAt input) : right.KeepsOwnerAt input := by
  cases input with
  | setLocalEntity id =>
      rcases keeps with empty | same
      · left
        rw [matching.leftHolds.queued] at empty
        have passed := matching.passed
        rw [List.map_eq_nil_iff.1 empty] at passed
        rw [matching.rightHolds.queued]
        exact List.map_eq_nil_iff.2 (Schedule.coalesce_eq_nil_iff.1 passed.symm)
      · right
        exact same.trans (congrArg (fun view => view.backdrop.footing.localEntity) matching.view)
  | _ => trivial

section Steps

variable [ReflectionHost H]

/-- The local writes in the queue stay writes of the local entity. -/
theorem ownWrites_step {session : Session (Recorded H)} {backlog : Scheduler Work}
    (holds : session.Holds backlog) (own : session.world.OwnWrites backlog.queue)
    {input : Input H} (keeps : session.KeepsOwnerAt input) :
    (session.step input).world.OwnWrites
      (input.reschedule (session.posted? input) backlog).queue := by
  intro id state waits
  cases input with
  | setLocalEntity other =>
      change _ ∈ deedsOn id backlog.queue at waits
      rcases keeps with empty | same
      · rw [holds.queued] at empty
        rw [List.map_eq_nil_iff.1 empty] at waits
        cases waits
      · refine Eq.trans ?_ (own id state waits)
        exact congrArg (· == some id) ((holds.localEntity_step _).trans same)
  | _ =>
      refine (congrArg (· == some id) (holds.localEntity_step _)).trans ?_
      obtain ⟨job, among, about⟩ := List.mem_filterMap.1 waits
      rcases Input.mem_reschedule holds.accepting among with earlier | posted
      · exact own id state (List.mem_filterMap.2 ⟨job, earlier, about⟩)
      · exact beq_iff_eq.2 (localEntity_of_posted? posted (Job.deed?_of_deedOn? about))

/-- Matching sessions match after every input. -/
theorem Matches.step {left right : Session (Recorded H)}
    {leftBacklog rightBacklog : Scheduler Work}
    (matching : left.Matches right leftBacklog rightBacklog) {input : Input H}
    (keeps : left.KeepsOwnerAt input) :
    (left.step input).Matches (right.step input)
      (input.reschedule (left.posted? input) leftBacklog)
      (input.reschedule (right.posted? input) rightBacklog) where
  view := by
    cases drains : input.drains with
    | false => exact view_step_congr matching.view input drains
    | true =>
        have performed := World.view_performAll_of_coalesce matching.view matching.passed
          matching.leftHolds.posted matching.rightHolds.posted matching.leftOwn
          matching.rightOwn
        obtain ⟨number, rfl⟩ := Input.eq_frame_of_drains drains
        rw [matching.leftHolds.world_runFrame, matching.rightHolds.world_runFrame]
        exact World.view_finishFrame_congr performed .gameThread number
  leftHolds := matching.leftHolds.step input
  rightHolds := matching.rightHolds.step input
  passed := by
    rw [posted?_congr (untimed_of_view matching.view)]
    exact coalesce_reschedule matching.leftHolds.accepting matching.rightHolds.accepting
      matching.passed input _
  leftOwn := ownWrites_step matching.leftHolds matching.leftOwn keeps
  rightOwn := ownWrites_step matching.rightHolds matching.rightOwn
    (matching.keepsOwnerAt keeps)

/-- Matching sessions are of one view after every run. -/
theorem Matches.view_run {left right : Session (Recorded H)}
    {leftBacklog rightBacklog : Scheduler Work}
    (matching : left.Matches right leftBacklog rightBacklog) {inputs : List (Input H)}
    (keeps : left.KeepsOwner inputs) :
    (left.run inputs).world.view = (right.run inputs).world.view := by
  induction inputs generalizing left right leftBacklog rightBacklog with
  | nil => exact matching.view
  | cons input rest ih => exact ih (matching.step keeps.1) keeps.2

end Steps

end Session

/-- The same settings with another soft cap of the queue. -/
def Settings.withSoftCap (settings : Settings) (softCap : Nat) : Settings :=
  { settings with scheduler := { softCap } }

namespace Session

variable {H : Type}

/-- Sessions that start alike but for the soft cap match. -/
theorem matches_begin (host : CountedHost H) (report : Report) (settings : Settings)
    (leftCap rightCap : Nat) :
    (begin host report (settings.withSoftCap leftCap)).Matches
      (begin host report (settings.withSoftCap rightCap))
      (Scheduler.ofSoftCap leftCap) (Scheduler.ofSoftCap rightCap) where
  view := rfl
  leftHolds := .begin host report (settings.withSoftCap leftCap)
  rightHolds := .begin host report (settings.withSoftCap rightCap)
  passed := rfl
  leftOwn := fun id state waits => by cases waits
  rightOwn := fun id state waits => by cases waits

/-- Two sessions that differ only in the soft cap of their queue and take the same inputs
hold the same rows, the same early updates with their ticks, the same season, clock and
waiting host effects after them, and have made the same host calls in the same order,
provided that the local entity is not reassigned while work waits.  Inputs come in any
order, so this holds after every frame.  All that decides what happens next is the same,
too. -/
theorem coalescing_invisible [ReflectionHost H] (host : CountedHost H) (report : Report)
    (settings : Settings) (leftCap rightCap : Nat) (inputs : List (Input H))
    (keeps : (begin host report (settings.withSoftCap leftCap)).KeepsOwner inputs) :
    let left := ((begin host report (settings.withSoftCap leftCap)).run inputs).world
    let right := ((begin host report (settings.withSoftCap rightCap)).run inputs).world
    left.replica.rows = right.replica.rows ∧
      left.channel.early.held = right.channel.early.held ∧
      left.replica.season = right.replica.season ∧
      left.replica.clock = right.replica.clock ∧
      left.replica.pending = right.replica.pending ∧
      left.bridge.host.store.calls = right.bridge.host.store.calls ∧
      left.view = right.view := by
  have same := (matches_begin host report settings leftCap rightCap).view_run keeps
  have backdrop := congrArg View.backdrop same
  exact ⟨congrArg View.rows same, congrArg View.held same, congrArg Backdrop.season backdrop,
    congrArg Backdrop.clock backdrop, congrArg Backdrop.pending backdrop,
    congrArg (fun backdrop => backdrop.host.store.calls) backdrop, same⟩

/-- A despawn stands between two local writes: the small queue has dropped the first write,
the large one has not, and after the frame nobody can tell. -/
theorem coalescing_invisible_between_writes :
    let host : CountedHost (Loaded TableStore) := { store := { table := {} } }
    let write : Input (Loaded TableStore) := .sendLocal .elsewhere (.resting 7)
    let despawn : Input (Loaded TableStore) :=
      .receive 0 ((Wire.Message.humanDespawn 7).encode.toOption.getD [])
    let posts := [.setLocalEntity 7, write, despawn, write]
    let inputs := posts ++ [.runFrame .gameThread 1, .setLocalEntity 8]
    let left := begin host {} (Settings.withSoftCap {} 2)
    let right := begin host {} (Settings.withSoftCap {} 1024)
    (left.run posts).scheduler.queue.length = 2 ∧ (right.run posts).scheduler.queue.length = 3 ∧
      left.KeepsOwner inputs ∧ (left.run inputs).world.view = (right.run inputs).world.view := by
  intro host write despawn posts inputs left right
  have keeps : left.KeepsOwner inputs :=
    ⟨Or.inl rfl, trivial, trivial, trivial, trivial, Or.inl (by decide +kernel), trivial⟩
  have same := coalescing_invisible host {} {} 2 1024 inputs keeps
  exact ⟨by decide +kernel, by decide +kernel, keeps, same.2.2.2.2.2.2⟩

end Session

end ReplicaBridge
