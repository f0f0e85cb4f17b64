/-
Module: ReplicaBridge.Proofs.LocalAuthority
Purpose: While an entity is the local player's, its row is what the local writes, the spawns and
  the despawns that took effect make of it.  Updates from the server reach it neither from the
  queue nor from what was held back, whenever they came and whatever they were coalesced with,
  and none is held back for it any more.
Main exports: Deed.leaves?, ownRow, Track.Obeys, Session.queuedJobs, Session.effects,
  Session.Holds.obeys_run, Input.updates, Session.Shadows
-/
import ReplicaBridge.Proofs.SupersededDeeds

namespace ReplicaBridge

open Host (CountedHost Loaded Recorded ReflectionHost TableStore)
open Schedule (Scheduler Script coalesce)
open Wire (Message)

/-! ### The local player's row -/

/-- The row that a deed leaves the local player's entity, if it touches the row: a server update
does not. -/
def Deed.leaves? (id : EntityId) : Deed → Option (Option AvatarState)
  | .spawn state | .write state => some (some (state.withId id))
  | .despawn => some none
  | .update _ => none

/-- The row of the local player's entity after deeds: the latest of them that touches it decides;
if there is none, it is the row from before. -/
def ownRow (id : EntityId) (row : Option AvatarState) (deeds : List Deed) : Option AvatarState :=
  ((deeds.filterMap (Deed.leaves? id)).getLast?).getD row

theorem ownRow_append (id : EntityId) (row : Option AvatarState) (earlier later : List Deed) :
    ownRow id row (earlier ++ later) = ownRow id (ownRow id row earlier) later := by
  unfold ownRow
  rw [List.filterMap_append, List.getLast?_append]
  cases (later.filterMap (Deed.leaves? id)).getLast? <;> rfl

/-! ### Its track -/

namespace Track

variable {id : EntityId}

/-- From one track to another the row went as the deeds say, and no update was held back. -/
structure Obeys (id : EntityId) (deeds : List Deed) (before after : Track) : Prop where
  row : after.row = ownRow id before.row deeds
  held : ∀ update, after.held = some update → before.held = some update

theorem Obeys.nothing (id : EntityId) (track : Track) : Obeys id [] track track where
  row := rfl
  held _ held := held

theorem Obeys.trans {earlier later : List Deed} {before middle after : Track}
    (first : Obeys id earlier before middle) (second : Obeys id later middle after) :
    Obeys id (earlier ++ later) before after where
  row := by rw [second.row, first.row, ownRow_append]
  held update held := first.held update (second.held update held)

/-- A tick may drop the early update. -/
theorem Obeys.aged {deeds : List Deed} {before after : Track} (obeys : Obeys id deeds before after)
    (now maxAge : Nat) : Obeys id deeds before (after.aged now maxAge) where
  row := obeys.row
  held update held := obeys.held update (Option.filter_eq_some_iff.mp held).1

theorem obeys_after {deed : Deed} (valid : ∀ state, deed = .spawn state → state.isValid = true)
    (tick : Nat) (track : Track) : Obeys id [deed] track (track.after id true tick deed) := by
  cases deed with
  | spawn state =>
      -- What was held back is dropped here, not applied.
      have kept : spawned id true state track.held = state.withId id := by
        unfold spawned
        cases track.held <;> rfl
      simp only [after, valid state rfl, if_true, kept]
      constructor
      · rfl
      · intro update held
        cases held
  | despawn =>
      constructor
      · rfl
      · intro update held
        cases held
  | update state => exact ⟨rfl, fun _ held => held⟩
  | write state => exact ⟨rfl, fun _ held => held⟩

theorem obeys_course {deeds : List Deed}
    (valid : ∀ state, .spawn state ∈ deeds → state.isValid = true) (tick : Nat) (track : Track) :
    Obeys id deeds track (track.course id true tick deeds) := by
  induction deeds generalizing track with
  | nil => exact .nothing id track
  | cons deed rest ih =>
      have first : Obeys id [deed] track (track.after id true tick deed) :=
        obeys_after (fun state same => valid state (same ▸ List.mem_cons_self)) tick track
      exact first.trans (ih (fun state among => valid state (List.mem_cons_of_mem deed among)) _)

end Track

/-- The spawns among posted jobs are of valid states. -/
theorem valid_of_spawn {id : EntityId} {jobs : List Job} (posted : ∀ job ∈ jobs, Job.Posted job)
    (state : AvatarState) (among : .spawn state ∈ deedsOn id jobs) : state.isValid = true := by
  obtain ⟨job, member, about⟩ := List.mem_filterMap.mp among
  have claimed := Job.deed?_of_deedOn? about
  cases posted job member with
  | localWrite other valid => cases claimed
  | message valid =>
      rename_i message
      cases message with
      | humanSpawn other =>
          cases claimed
          exact valid
      | _ => cases claimed

theorem deedsOn_append (id : EntityId) (earlier later : List Job) :
    deedsOn id (earlier ++ later) = deedsOn id earlier ++ deedsOn id later :=
  List.filterMap_append

/-- A coalescing pass does not change what the jobs make of the row. -/
theorem ownRow_coalesce {jobs : List Job} (posted : ∀ job ∈ jobs, Job.Posted job)
    (id : EntityId) (row : Option AvatarState) :
    ownRow id row (deedsOn id (coalesce jobs)) = ownRow id row (deedsOn id jobs) := by
  have kept : ∀ job ∈ coalesce jobs, Job.Posted job :=
    fun job among => posted job ((Schedule.coalesce_sublist jobs).subset among)
  let track : Track := { row }
  have same : track.course id true 0 (deedsOn id (coalesce jobs)) =
      track.course id true 0 (deedsOn id jobs) :=
    Track.course_coalesce posted (fun _ _ => rfl) 0 track
  have rows := congrArg Track.row same
  rwa [(Track.obeys_course (valid_of_spawn kept) _ _).row,
    (Track.obeys_course (valid_of_spawn posted) _ _).row] at rows

/-- Neither does the moment of the pass. -/
theorem ownRow_post {backlog : Scheduler Work} (accepting : backlog.shuttingDown = false)
    (posted : ∀ job ∈ backlog.queue, Job.Posted job) {job : Job} (posts : Job.Posted job)
    (id : EntityId) (row : Option AvatarState) :
    ownRow id row (deedsOn id (backlog.post job).1.queue) =
      ownRow id (ownRow id row (deedsOn id backlog.queue)) (deedsOn id [job]) := by
  have all : ∀ other ∈ backlog.queue ++ [job], Job.Posted other := by
    intro other among
    rcases List.mem_append.mp among with earlier | last
    · exact posted other earlier
    · rw [List.mem_singleton.mp last]
      exact posts
  rw [← ownRow_append, ← deedsOn_append]
  rcases Scheduler.queue_post accepting job with appended | passed
  · rw [appended]
  · rw [passed, ownRow_coalesce all]

namespace World

variable {H : Type}

/-- The row of an entity. -/
def row (world : World H) (id : EntityId) : Option AvatarState :=
  world.replica.rows.get? id

/-- The update that is held back for an entity. -/
def held (world : World H) (id : EntityId) : Option HeldUpdate :=
  world.channel.early.held.get? id

end World

/-! ### What takes effect -/

/-- The input leaves the entity the local player's. -/
def Input.KeepsOwner {H : Type} (id : EntityId) (input : Input H) : Prop :=
  ∀ other, input = .setLocalEntity other → Replica.assigned other = some id

/-- The single action of a task, if it is one. -/
def Job.ofTask? (task : Schedule.Task (Script Work)) : Option Job :=
  match task.work with
  | .act work .done => some { kind := task.kind, work }
  | _ => none

namespace Session

variable {H : Type}

/-- The jobs that wait in the queue. -/
def queuedJobs (session : Session H) : List Job :=
  session.scheduler.queue.filterMap Job.ofTask?

/-- What an input does to an entity at once: a frame on the game thread does what waits in the
queue, and a local write there is done immediately. -/
def effectsAt (id : EntityId) (session : Session (Recorded H)) : Input H → List Deed
  | .runFrame .gameThread _ => deedsOn id session.queuedJobs
  | .sendLocal .gameThread state =>
    if session.localWrite? state = some id then [.write (state.withId id)] else []
  | _ => []

/-- What took effect on an entity along the inputs, oldest first. -/
def effects [ReflectionHost H] (id : EntityId) : Session (Recorded H) → List (Input H) → List Deed
  | _, [] => []
  | session, input :: rest => session.effectsAt id input ++ effects id (session.step input) rest

theorem Holds.queuedJobs_eq {session : Session H} {backlog : Scheduler Work}
    (holds : session.Holds backlog) : session.queuedJobs = backlog.queue := by
  have once (job : Job) : Job.ofTask? (job.map Script.once) = some job := rfl
  unfold queuedJobs
  rw [holds.queued]
  simp only [Scheduler.map, List.filterMap_map, Function.comp_def, once]
  exact List.filterMap_some

variable [ReflectionHost H]

theorem obeys_performAll {jobs : List Job} (posted : ∀ job ∈ jobs, Job.Posted job)
    {world : World H} {id : EntityId} (own : world.replica.localEntity = some id) :
    Track.Obeys id (deedsOn id jobs) (world.track id) ((world.performAll jobs).track id) := by
  have owned : world.owns id = true := beq_iff_eq.mpr own
  have moved := World.track_performAll posted world id
  rw [owned] at moved
  rw [moved]
  exact Track.obeys_course (valid_of_spawn posted) world.channel.tick (world.track id)

section Steps

variable {session : Session (Recorded H)} {backlog : Scheduler Work} {id : EntityId}
  (holds : session.Holds backlog) (own : session.world.replica.localEntity = some id)

include holds own

theorem Holds.localEntity_keeps {input : Input H} (keeps : input.KeepsOwner id) :
    (session.step input).world.replica.localEntity = some id := by
  rw [holds.localEntity_step]
  cases input with
  | setLocalEntity other => exact keeps other rfl
  | _ => exact own

theorem Holds.obeys_runFrame (caller : Caller) (number : Nat) :
    Track.Obeys id (session.effectsAt id (.runFrame caller number)) (session.world.track id)
      ((session.step (.runFrame caller number)).world.track id) := by
  cases caller with
  | elsewhere =>
      have seen := congrArg (View.track · id) (view_runFrame_elsewhere session number)
      rw [View.track_aged] at seen
      change (session.step _).world.track id = _ at seen
      rw [seen]
      exact (Track.Obeys.nothing id _).aged _ _
  | gameThread =>
      have performed := obeys_performAll holds.posted own
      have does : session.effectsAt id (.runFrame .gameThread number) =
          deedsOn id backlog.queue := by
        rw [effectsAt, holds.queuedJobs_eq]
      rw [does]
      rcases holds.runFrame_cases number with ⟨_, unwound⟩ | ⟨_, ticked⟩
      · rw [unwound id]
        exact performed
      · rw [ticked id]
        exact performed.aged _ _

/-- One input moves the row as its effects say, and holds no update back. -/
theorem Holds.obeys_step (input : Input H) :
    Track.Obeys id (session.effectsAt id input) (session.world.track id)
      ((session.step input).world.track id) := by
  by_cases frame : ∃ caller number, input = .runFrame caller number
  · obtain ⟨caller, number, rfl⟩ := frame
    exact holds.obeys_runFrame own caller number
  · have other : ∀ caller number, input ≠ .runFrame caller number :=
      fun caller number same => frame ⟨caller, number, same⟩
    rw [track_step session other]
    cases input with
    | runFrame caller number => exact absurd ⟨caller, number, rfl⟩ frame
    | sendLocal caller state =>
        cases caller with
        | elsewhere => exact .nothing id _
        | gameThread =>
            simp only [effectsAt]
            split
            · exact ⟨rfl, fun _ held => held⟩
            · exact .nothing id _
    | _ => exact .nothing id _

end Steps

section Runs

variable {session : Session (Recorded H)} {backlog : Scheduler Work} {id : EntityId}
  (holds : session.Holds backlog) (own : session.world.replica.localEntity = some id)
  {inputs : List (Input H)} (keeps : ∀ input ∈ inputs, input.KeepsOwner id)

include holds own keeps

theorem Holds.localEntity_run : (session.run inputs).world.replica.localEntity = some id := by
  induction inputs generalizing session backlog with
  | nil => exact own
  | cons input rest ih =>
      apply ih (holds.step input)
      · exact holds.localEntity_keeps own (keeps input List.mem_cons_self)
      · intro other among
        exact keeps other (List.mem_cons_of_mem input among)

/-- Along a run the row goes as everything that took effect says, and no update is held back. -/
theorem Holds.obeys_run : Track.Obeys id (session.effects id inputs) (session.world.track id)
    ((session.run inputs).world.track id) := by
  induction inputs generalizing session backlog with
  | nil => exact .nothing id _
  | cons input rest ih =>
      apply (holds.obeys_step own input).trans
      apply ih (holds.step input)
      · exact holds.localEntity_keeps own (keeps input List.mem_cons_self)
      · intro other among
        exact keeps other (List.mem_cons_of_mem input among)

end Runs

/-!
### Without the updates

One session takes every input, the other one all but the updates.  Their queues drift apart for
good: an update takes room, so a pass comes earlier, and a local write that it drops is still
there in the other queue.  What the two agree on at every moment is what the queued jobs would
make of the row, whatever it is by then.
-/

end Session

/-- The input is an update for the entity that the settings let pass. -/
def Input.updates {H : Type} (settings : ReplicationSettings) (id : EntityId) : Input H → Bool
  | .receive _ frame =>
    match Session.accept settings frame with
    | .ok (.humanUpdate state) => state.id == id
    | _ => false
  | _ => false

theorem Input.eq_of_updates {H : Type} {settings : ReplicationSettings} {id : EntityId}
    {input : Input H} (updates : input.updates settings id = true) :
    ∃ now frame state, input = .receive now frame ∧
      Session.accept settings frame = .ok (.humanUpdate state) ∧ state.id = id := by
  cases input with
  | receive now frame =>
      simp only [Input.updates] at updates
      split at updates
      · rename_i state accepted
        exact ⟨now, frame, state, rfl, accepted, eq_of_beq updates⟩
      · cases updates
  | _ => cases updates

namespace Session

variable {H : Type} [ReflectionHost H]

/-- Two sessions in which an entity is the local player's and whose difference is nothing to its
row: what waits in the one queue and in the other makes the same of every row. -/
structure Shadows (id : EntityId) (left right : Session (Recorded H))
    (leftBacklog rightBacklog : Scheduler Work) : Prop where
  leftHolds : left.Holds leftBacklog
  rightHolds : right.Holds rightBacklog
  footing : left.world.footing.untimed = right.world.footing.untimed
  own : left.world.replica.localEntity = some id
  row : (left.world.track id).row = (right.world.track id).row
  ahead : ∀ row, ownRow id row (deedsOn id leftBacklog.queue) =
    ownRow id row (deedsOn id rightBacklog.queue)

namespace Shadows

variable {id : EntityId} {left right : Session (Recorded H)}
  {leftBacklog rightBacklog : Scheduler Work}
  (shadows : Shadows id left right leftBacklog rightBacklog)

include shadows

omit [ReflectionHost H] in
theorem rightOwn : right.world.replica.localEntity = some id :=
  (congrArg Footing.localEntity shadows.footing).symm.trans shadows.own

/-- Both take the same input. -/
theorem step {input : Input H} (keeps : input.KeepsOwner id) :
    Shadows id (left.step input) (right.step input)
      (input.reschedule (left.posted? input) leftBacklog)
      (input.reschedule (right.posted? input) rightBacklog) where
  leftHolds := shadows.leftHolds.step input
  rightHolds := shadows.rightHolds.step input
  footing := by
    rw [shadows.leftHolds.untimed_step, shadows.rightHolds.untimed_step, shadows.footing]
    cases input with
    | receive now frame =>
        dsimp only
        rw [refused?_congr shadows.footing]
    | _ => rfl
  own := shadows.leftHolds.localEntity_keeps shadows.own keeps
  row := by
    rw [(shadows.leftHolds.obeys_step shadows.own input).row,
      (shadows.rightHolds.obeys_step shadows.rightOwn input).row, shadows.row]
    cases input with
    | runFrame caller number =>
        cases caller with
        | elsewhere => rfl
        | gameThread =>
            simp only [effectsAt, shadows.leftHolds.queuedJobs_eq,
              shadows.rightHolds.queuedJobs_eq]
            exact shadows.ahead _
    | sendLocal caller state =>
        cases caller with
        | elsewhere => rfl
        | gameThread => simp only [effectsAt, localWrite?_congr shadows.footing]
    | _ => rfl
  ahead row := by
    rw [posted?_congr shadows.footing]
    simp only [Input.reschedule]
    split
    · rfl
    · cases posts : right.posted? input with
      | none => exact shadows.ahead row
      | some job =>
          have posted := posted_of_posted? posts
          dsimp only
          -- The post may end in a pass here and not there; neither shows in the row.
          rw [ownRow_post shadows.leftHolds.accepting shadows.leftHolds.posted posted,
            ownRow_post shadows.rightHolds.accepting shadows.rightHolds.posted posted,
            shadows.ahead]

/-- The one takes an update for the entity that the other does not. -/
theorem update {now : Nat} {frame : Bytes} {state : AvatarState}
    (accepted : accept left.world.settings.replication frame = .ok (.humanUpdate state))
    (about : state.id = id) :
    Shadows id (left.step (.receive now frame)) right
      ((Input.receive now frame : Input H).reschedule (left.posted? (.receive now frame))
        leftBacklog) rightBacklog where
  leftHolds := shadows.leftHolds.step _
  rightHolds := shadows.rightHolds
  footing := by
    have unrefused : left.refused? frame = none := by
      unfold refused?
      rw [accepted]
      split <;> rfl
    rw [shadows.leftHolds.untimed_step]
    dsimp only
    rw [unrefused]
    exact shadows.footing
  own := shadows.leftHolds.localEntity_keeps shadows.own nofun
  row := (shadows.leftHolds.obeys_step shadows.own _).row.trans shadows.row
  ahead row := by
    have taken : left.accepted? frame =
        if left.world.channel.closed then none else some (.humanUpdate state) := by
      rw [Session.accepted?, accepted]
      rfl
    simp only [posted?, taken]
    cases left.world.channel.closed with
    | true => exact shadows.ahead row
    | false =>
        have posted : Job.Posted (jobFor (.humanUpdate state)) :=
          .message (valid_of_accept accepted)
        have deed : deedsOn id [jobFor (.humanUpdate state)] = [.update state] := by
          simp [deedsOn, Job.deedOn?, Job.deed?, jobFor, taskOf, about]
        have passed :=
          ownRow_post shadows.leftHolds.accepting shadows.leftHolds.posted posted id row
        rw [deed] at passed
        exact passed.trans (shadows.ahead row)

/-- The one takes all the inputs, the other all but the updates. -/
theorem run {settings : ReplicationSettings}
    (settled : left.world.settings.replication = settings) {inputs : List (Input H)}
    (keeps : ∀ input ∈ inputs, input.KeepsOwner id) :
    ((left.run inputs).world.track id).row =
      ((right.run (inputs.filter fun input => !input.updates settings id)).world.track id).row := by
  induction inputs generalizing left right leftBacklog rightBacklog with
  | nil => exact shadows.row
  | cons input rest ih =>
      have stays := (shadows.leftHolds.replication_step input).trans settled
      have later : ∀ other ∈ rest, other.KeepsOwner id :=
        fun other among => keeps other (List.mem_cons_of_mem input among)
      cases updates : input.updates settings id with
      | false =>
          rw [List.filter_cons_of_pos (by rw [updates]; rfl)]
          exact ih (shadows.step (keeps input List.mem_cons_self)) stays later
      | true =>
          rw [List.filter_cons_of_neg (by rw [updates]; nofun)]
          obtain ⟨now, frame, state, rfl, accepted, about⟩ := Input.eq_of_updates updates
          rw [← settled] at accepted
          exact ih (shadows.update accepted about) stays later

end Shadows

/-! ### Local authority -/

/-- While an entity stays the local player's, which may begin at any moment of any run, its row
is at every moment, also between two jobs of a frame, what the local writes, the spawns and the
despawns that took effect since made of the row from the beginning: the latest of them decides.
No update is held back for the entity that was not before, and leaving out any number of updates
for it leads to the same row. -/
theorem local_authority (host : CountedHost H) (report : Report) (settings : Settings)
    (earlier inputs : List (Input H)) (id : EntityId)
    (own : ((begin host report settings).run earlier).world.replica.localEntity = some id)
    (keeps : ∀ input ∈ inputs, input.KeepsOwner id) :
    let start := (begin host report settings).run earlier
    let now := start.run inputs
    let erased := inputs.filter fun input => !input.updates settings.replication id
    now.world.row id = ownRow id (start.world.row id) (start.effects id inputs) ∧
      (∀ update, now.world.held id = some update → start.world.held id = some update) ∧
      (∀ done, done <+: now.queuedJobs →
        (now.world.performAll done).row id =
            ownRow id (now.world.row id) (deedsOn id done) ∧
          ∀ update, (now.world.performAll done).held id = some update →
            start.world.held id = some update) ∧
      (start.run erased).world.row id = now.world.row id := by
  intro start now erased
  obtain ⟨backlog, holds⟩ := (Holds.begin host report settings).run earlier
  have settled : start.world.settings.replication = settings.replication :=
    (Holds.begin host report settings).replication_run earlier
  have obeys := holds.obeys_run own keeps
  have still := holds.localEntity_run own keeps
  obtain ⟨later, waits⟩ := holds.run inputs
  refine ⟨obeys.row, obeys.held, ?_, ?_⟩
  · intro done front
    rw [waits.queuedJobs_eq] at front
    have posted : ∀ job ∈ done, Job.Posted job := fun job among =>
      waits.posted job (front.subset among)
    have further := obeys_performAll posted still
    exact ⟨further.row, fun update held => obeys.held update (further.held update held)⟩
  · have shadows : Shadows id start start backlog backlog := by
      constructor
      case leftHolds => exact holds
      case rightHolds => exact holds
      case own => exact own
      all_goals intros; rfl
    exact (shadows.run settled keeps).symm

/-- An update was held back before the entity was assigned.  Updates come before and after a
local write from another thread and are coalesced; the frame leaves the write.  A spawn then drops
the update that was held back, and the row is that of the spawn. -/
theorem local_authority_over_updates :
    let host : CountedHost (Loaded TableStore) := { store := { table := {} } }
    let settings : Settings := { scheduler := { softCap := 1 } }
    let state (input : UInt32) : AvatarState := { AvatarState.resting 7 with input }
    let frame (message : Message) : Input (Loaded TableStore) :=
      .receive 0 (message.encode.toOption.getD [])
    let update (input : UInt32) := frame (.humanUpdate (state input))
    let earlier := [update 1, .runFrame .gameThread 1, .setLocalEntity 7]
    let writes := [update 2, .sendLocal .elsewhere (state 3), update 4, .runFrame .gameThread 2]
    let inputs := writes ++ [frame (.humanSpawn (state 5)), update 6, .runFrame .gameThread 3]
    let start := (begin host {} settings).run earlier
    start.world.replica.localEntity = some 7 ∧ (∀ input ∈ inputs, input.KeepsOwner 7) ∧
      (start.world.held 7).isSome ∧ start.world.row 7 = none ∧
      (start.run writes).world.row 7 = some (state 3) ∧
      (start.run inputs).world.row 7 = some (state 5) ∧
      (start.run inputs).world.row 7 = ownRow 7 none (start.effects 7 inputs) ∧
      (start.run (inputs.filter fun input => !input.updates settings.replication 7)).world.row 7 =
        some (state 5) := by
  intro host settings state frame update earlier writes inputs start
  have own : ((begin host {} settings).run earlier).world.replica.localEntity = some 7 := by
    decide +kernel
  have keeps : ∀ input ∈ inputs, input.KeepsOwner 7 := by
    intro input among other same
    subst same
    simp [inputs, writes, update, frame] at among
  have absent : start.world.row 7 = none := by decide +kernel
  have spawned : (start.run inputs).world.row 7 = some (state 5) := by decide +kernel
  obtain ⟨obeys, _, _, erased⟩ := local_authority host {} settings earlier inputs 7 own keeps
  have obeyed : (start.run inputs).world.row 7 =
      ownRow 7 (start.world.row 7) (start.effects 7 inputs) := obeys
  rw [absent] at obeyed
  exact ⟨by decide +kernel, keeps, by decide +kernel, absent, by decide +kernel, spawned, obeyed,
    erased.trans spawned⟩

end Session

end ReplicaBridge
