/-
Module: ReplicaBridge.Proofs.ToldHistory
Purpose: What listeners are told along a run, for every soft cap of the queue.  A small cap
  only ever leaves something out, and never a chat line or a spawn; and all caps tell the same
  exactly if no despawn of the run is masked, that is, meets a row which only queued local
  writes had made while another one waits behind it.
Main exports: Session.told, Session.Holds.hears_run, Session.toldWhole, Session.masksDespawn,
  Scheduler.Follows, Session.Covers, Session.told_same_iff
-/
import ReplicaBridge.Proofs.CoalescingInvisible
import ReplicaBridge.Proofs.ToldSignals

namespace ReplicaBridge

open Host (CountedHost Loaded Recorded ReflectionHost TableStore)
open Schedule (Scheduler coalesce)

/-! ### What is told -/

/-- The jobs that wait after an input, if none that was posted is ever dropped. -/
def Input.await {H : Type} (input : Input H) (posted : Option Job) (waiting : List Job) :
    List Job :=
  if input.drains then [] else waiting ++ posted.toList

theorem Input.length_await {H : Type} (input : Input H) (posted : Option Job)
    (waiting : List Job) : (input.await posted waiting).length ≤ waiting.length + 1 := by
  unfold Input.await
  split
  · exact Nat.zero_le _
  · cases posted <;> simp

namespace Session

variable {H : Type} [ReflectionHost H]

/-- What listeners are told at an input when the jobs are queued: those of frames apart. -/
def toldAt (session : Session (Recorded H)) (jobs : List Job) (input : Input H) : List Signal :=
  if input.drains then World.toldAll jobs session.world else []

/-- What listeners are told along a run. -/
def told (session : Session (Recorded H)) (backlog : Scheduler Work) :
    List (Input H) → List Signal
  | [] => []
  | input :: rest =>
    session.toldAt backlog.queue input ++
      told (session.step input) (input.reschedule (session.posted? input) backlog) rest

/-- What listeners would be told along a run if nothing that waits were ever dropped. -/
def toldWhole (session : Session (Recorded H)) (waiting : List Job) :
    List (Input H) → List Signal
  | [] => []
  | input :: rest =>
    session.toldAt waiting input ++
      toldWhole (session.step input) (input.await (session.posted? input) waiting) rest

/-- Along a run some frame finds a masked despawn among the jobs that were posted for it. -/
def masksDespawn (session : Session (Recorded H)) (waiting : List Job) :
    List (Input H) → Bool
  | [] => false
  | input :: rest =>
    (input.drains &&
      ReplicaBridge.masksDespawn waiting session.world.hasRow session.world.hasRow) ||
    masksDespawn (session.step input) (input.await (session.posted? input) waiting) rest

end Session

/-! ### The ears of a session -/

/-- What inputs post signals only what happens to the replica, and chat lines. -/
theorem Job.Posted.ne_note {job : Job} (posted : job.Posted) (label : String) :
    job.work ≠ .note label := by
  cases posted with
  | message valid =>
      rename_i message
      cases message <;> nofun
  | localWrite id valid => nofun

namespace World

variable {H : Type}

theorem ears_hear (world : World H) {event : Schedule.QueueEvent}
    (drains : ∀ count, event ≠ .nestedDrain count) : (world.hear event).ears = world.ears := by
  cases event with
  | nestedDrain count => exact absurd rfl (drains count)
  | _ => rfl

variable [ReflectionHost H]

theorem tells_performJob {job : Job} (posted : Job.Posted job) (world : World H) :
    world.Tells (job.work.signal? world.hasRow) (world.performJob job) := by
  obtain ⟨quiet, unheard, ears⟩ := tells_perform posted.ne_note world
  refine ⟨quiet, unheard, Eq.trans ?_ ears⟩
  unfold performJob
  split
  · rename_i after answered
    rw [answered]
  · rename_i after fault answered
    rw [answered]
    exact ears_hear after nofun

/-- Performing jobs, the ears take in what is told. -/
theorem hears_performAll {jobs : List Job} (posted : ∀ job ∈ jobs, Job.Posted job)
    (world : World H) : Hears (toldAll jobs world) world (performAll jobs world) := by
  induction jobs generalizing world with
  | nil => exact .quiet rfl
  | cons job rest ih =>
      have later := ih fun other waits => posted other (List.mem_cons_of_mem job waits)
      exact (tells_performJob (posted job List.mem_cons_self) world).hears.append (later _)

theorem hears_finishFrame (world : World H) (caller : Caller) (number : Nat) :
    Hears [] world (world.finishFrame caller number) := by
  have fired (before : World H) : Hears [] before (before.tick.fire (.frame number)).1 :=
    (Hears.quiet (ears_tick before)).append (.frame number before.tick)
  have retried := ears_retryPending world
  cases caller with
  | elsewhere => exact fired world
  | gameThread =>
      unfold finishFrame
      dsimp only
      split <;> (rename_i answered; rw [answered] at retried)
      · exact .quiet retried
      · exact (Hears.quiet retried).append (fired _)

end World

namespace Session

variable {H : Type} [ReflectionHost H]

theorem ears_queue (session : Session H) (kind : Schedule.TaskKind) (work : Work) :
    (session.queue kind work).world.ears = session.world.ears := by
  have about := Scheduler.event_post session.scheduler { kind, work := Schedule.Script.once work }
  unfold queue Schedule.GameLoop.post Schedule.GameLoop.hear
  dsimp only
  split
  · rfl
  · rename_i event reported
    refine World.ears_hear session.world fun count same => about count ?_
    rw [reported, same]

theorem ears_receive (session : Session H) (now : Nat) (frame : Bytes) :
    (session.receive now frame).1.world.ears = session.world.ears := by
  unfold receive
  split
  · rfl
  · dsimp only
    split
    · exact World.ears_reject _ now _
    · exact ears_queue _ _ _

theorem ears_sendLocal (session : Session H) (caller : Caller) (state : AvatarState) :
    (session.sendLocal caller state).1.world.ears = session.world.ears := by
  simp only [sendLocal, updateLocal]
  by_cases closed : session.world.channel.closed = true
  · rw [if_pos closed]
  · rw [if_neg closed]
    cases session.world.replica.localEntity with
    | none => rfl
    | some id =>
        dsimp only
        by_cases valid : state.isValid = true
        · rw [if_pos valid]
          cases caller with
          | gameThread =>
              exact World.ears_enqueue (session.world.writeRow id (state.withId id))
                (.humanUpdate (state.withId id))
          | elsewhere =>
              exact (World.ears_enqueue _ (.humanUpdate (state.withId id))).trans
                (ears_queue (session.mapWorld (·.note (.threadViolation "Replica.updateLocal")))
                  (.localAvatarUpdate id) (.writeRow id (state.withId id)))
        · rw [if_neg valid]

/-- At an input the ears take in what is told. -/
theorem Holds.hears_step {session : Session (Recorded H)} {backlog : Scheduler Work}
    (holds : session.Holds backlog) (input : Input H) :
    World.Hears (session.toldAt backlog.queue input) session.world (session.step input).world := by
  cases input with
  | receive now frame => exact .quiet (ears_receive session now frame)
  | sendLocal caller state => exact .quiet (ears_sendLocal session caller state)
  | setLocalEntity id => exact .quiet (World.ears_setLocalEntity session.world id)
  | registryChanged => exact .quiet rfl
  | hostChanges store => exact .quiet rfl
  | listen listener => exact .listen listener session.world
  | unlisten key => exact .unlisten key session.world
  | runFrame caller number =>
      cases caller with
      | elsewhere =>
          rw [world_runFrame_elsewhere]
          have refused : session.world.refuseDrain.ears = session.world.ears := rfl
          exact (World.Hears.quiet refused).append (World.hears_finishFrame _ _ _)
      | gameThread =>
          rw [holds.world_runFrame]
          have heard := (World.hears_performAll holds.posted session.world).append
            (World.hears_finishFrame _ .gameThread number)
          rwa [List.append_nil] at heard

/-- Along a run the ears take in what is told, and besides it the signals of frames alone. -/
theorem Holds.hears_run {session : Session (Recorded H)} {backlog : Scheduler Work}
    (holds : session.Holds backlog) (inputs : List (Input H)) :
    World.Hears (session.told backlog inputs) session.world (session.run inputs).world := by
  induction inputs generalizing session backlog with
  | nil => exact .quiet rfl
  | cons input rest ih => exact (holds.hears_step input).append (ih (holds.step input))

end Session

/-! ### The queue and the work that waits -/

/-- Up to the soft cap a queue is all the work that waits, and the post that takes it past the
cap ends in a pass. -/
structure Scheduler.Follows (backlog : Scheduler Work) (waiting : List Job) : Prop where
  whole : waiting.length ≤ backlog.softCap →
    backlog.queue = waiting ∧ backlog.coalesceAt = backlog.softCap + 1
  passed : waiting.length = backlog.softCap + 1 → backlog.queue = coalesce waiting

namespace Scheduler.Follows

variable {backlog : Scheduler Work} {waiting : List Job}

theorem begin (softCap : Nat) : Follows (.ofSoftCap softCap) [] where
  whole _ := ⟨rfl, rfl⟩
  passed past := by cases past

theorem post (follows : Follows backlog waiting) (accepting : backlog.shuttingDown = false)
    (job : Job) : Follows (backlog.post job).1 (waiting ++ [job]) := by
  have softCap := Scheduler.softCap_post accepting job
  constructor
  · intro within
    rw [softCap, List.length_append, List.length_singleton] at within
    obtain ⟨queue, threshold⟩ := follows.whole (Nat.le_of_succ_le within)
    have below : backlog.queue.length + 1 < backlog.coalesceAt := by
      rw [queue, threshold]
      exact Nat.lt_succ_of_le within
    rw [Scheduler.post_below accepting job below]
    exact ⟨congrArg (· ++ [job]) queue, threshold⟩
  · intro past
    rw [softCap, List.length_append, List.length_singleton] at past
    obtain ⟨queue, threshold⟩ := follows.whole (Nat.le_of_eq (Nat.succ.inj past))
    have full : backlog.coalesceAt ≤ backlog.queue.length + 1 := by
      rw [queue, threshold]
      exact Nat.le_of_eq past.symm
    rw [Scheduler.queue_post_full accepting job full, queue]

theorem step {H : Type} (follows : Follows backlog waiting)
    (accepting : backlog.shuttingDown = false) (input : Input H) (posted : Option Job) :
    Follows (input.reschedule posted backlog) (input.await posted waiting) := by
  unfold Input.reschedule Input.await
  split
  · exact ⟨fun _ => ⟨rfl, rfl⟩, fun past => by cases past⟩
  · cases posted with
    | none =>
        rw [Option.toList_none, List.append_nil]
        exact follows
    | some job => exact follows.post accepting job

end Scheduler.Follows

theorem Input.softCap_reschedule {H : Type} (input : Input H) (posted : Option Job)
    {backlog : Scheduler Work} (accepting : backlog.shuttingDown = false) :
    (input.reschedule posted backlog).softCap = backlog.softCap := by
  unfold Input.reschedule
  split
  · rfl
  · cases posted with
    | none => rfl
    | some job => exact Scheduler.softCap_post accepting job

/-! ### Two sessions -/

namespace Session

variable {H : Type}

/-- A session matches one that is followed beside all the work that waits, and its own queue is
that work without some that was superseded. -/
structure Covers (reference session : Session (Recorded H))
    (referenceBacklog backlog : Scheduler Work) (waiting : List Job) : Prop where
  matching : reference.Matches session referenceBacklog backlog
  posted : ∀ job ∈ waiting, Job.Posted job
  thins : Thins backlog.queue waiting
  passed : coalesce backlog.queue = coalesce waiting

theorem hasRow_congr {left right : Session (Recorded H)}
    (same : left.world.view = right.world.view) : left.world.hasRow = right.world.hasRow :=
  congrArg (fun view id => view.rows.contains id) same

namespace Covers

variable {reference session : Session (Recorded H)}
  {referenceBacklog backlog : Scheduler Work} {waiting : List Job}
  (covers : reference.Covers session referenceBacklog backlog waiting)

include covers

theorem accepting : backlog.shuttingDown = false := covers.matching.rightHolds.accepting

variable [ReflectionHost H]

/-- What is told at a frame on the game thread, of the queue and of all the work. -/
theorem toldAt_drains {input : Input H} (drains : input.drains = true) :
    session.toldAt backlog.queue input = toldBy backlog.queue reference.world.hasRow ∧
      reference.toldAt waiting input = toldBy waiting reference.world.hasRow := by
  unfold toldAt
  rw [if_pos drains, if_pos drains, World.toldAll_eq_toldBy covers.matching.rightHolds.posted,
    World.toldAll_eq_toldBy covers.posted, hasRow_congr covers.matching.view]
  exact ⟨rfl, rfl⟩

theorem toldAt_sublist (input : Input H) :
    (session.toldAt backlog.queue input).Sublist (reference.toldAt waiting input) := by
  cases drains : input.drains with
  | false => simp [toldAt, drains]
  | true =>
      obtain ⟨own, all⟩ := covers.toldAt_drains drains
      rw [own, all]
      exact covers.thins.toldBy_sublist fun id row => row

/-- Chat lines and spawns are told all the same. -/
theorem filter_toldAt (input : Input H) :
    (session.toldAt backlog.queue input).filter (·.kind != .despawned) =
      (reference.toldAt waiting input).filter (·.kind != .despawned) := by
  cases drains : input.drains with
  | false => simp [toldAt, drains]
  | true =>
      obtain ⟨own, all⟩ := covers.toldAt_drains drains
      rw [own, all]
      exact covers.thins.filter_toldBy _ _

/-- Without a masked despawn everything is told. -/
theorem toldAt_eq {input : Input H} (visible : input.drains = true →
      ReplicaBridge.masksDespawn waiting reference.world.hasRow reference.world.hasRow = false) :
    session.toldAt backlog.queue input = reference.toldAt waiting input := by
  cases drains : input.drains with
  | false => simp [toldAt, drains]
  | true =>
      obtain ⟨own, all⟩ := covers.toldAt_drains drains
      have least := (Thins.coalesce covers.matching.rightHolds.posted).toldBy_sublist
        fun id (row : reference.world.hasRow id = true) => row
      rw [covers.passed,
        (toldBy_coalesce_iff_of_rows covers.posted _).2 (visible drains)] at least
      rw [own, all]
      have fewer := covers.thins.toldBy_sublist
        fun id (row : reference.world.hasRow id = true) => row
      exact fewer.eq_of_length (Nat.le_antisymm fewer.length_le least.length_le)

/-- A frame after the post that took the queue past its soft cap does not tell of a masked
despawn. -/
theorem length_toldAt_lt {input : Input H} (drains : input.drains = true)
    (follows : Scheduler.Follows backlog waiting)
    (past : waiting.length = backlog.softCap + 1) (masked : ReplicaBridge.masksDespawn waiting
      reference.world.hasRow reference.world.hasRow = true) :
    (session.toldAt backlog.queue input).length < (reference.toldAt waiting input).length := by
  obtain ⟨own, all⟩ := covers.toldAt_drains drains
  have fewer := covers.toldAt_sublist input
  refine Nat.lt_of_le_of_ne fewer.length_le fun same => ?_
  have told := fewer.eq_of_length same
  rw [own, all, follows.passed past, toldBy_coalesce_iff_of_rows covers.posted, masked] at told
  cases told

omit [ReflectionHost H] in
theorem thins_step (input : Input H) {posted : Option Job}
    (posts : ∀ job, posted = some job → Job.Posted job) :
    Thins (input.reschedule posted backlog).queue (input.await posted waiting) := by
  unfold Input.reschedule Input.await
  split
  · exact .nil
  · cases posted with
    | none =>
        rw [Option.toList_none, List.append_nil]
        exact covers.thins
    | some job =>
        have grown := covers.thins.concat job
        rcases Scheduler.queue_post covers.accepting job with whole | passed
        · rw [whole]
          exact grown
        · rw [passed]
          refine (Thins.coalesce fun other among => ?_).trans grown
          rcases List.mem_append.1 among with earlier | last
          · exact covers.matching.rightHolds.posted other earlier
          · exact posts other (congrArg some (List.mem_singleton.1 last).symm)

omit [ReflectionHost H] in
theorem passed_step (input : Input H) (posted : Option Job) :
    coalesce (input.reschedule posted backlog).queue = coalesce (input.await posted waiting) := by
  unfold Input.reschedule Input.await
  split
  · rfl
  · cases posted with
    | none =>
        rw [Option.toList_none, List.append_nil]
        exact covers.passed
    | some job =>
        rw [Scheduler.coalesce_queue_post covers.accepting, ← Schedule.coalesce_append,
          covers.passed, Schedule.coalesce_append]
        rfl

omit [ReflectionHost H] in
theorem follows_step (follows : Scheduler.Follows backlog waiting) (input : Input H) :
    Scheduler.Follows (input.reschedule (session.posted? input) backlog)
      (input.await (reference.posted? input) waiting) := by
  rw [posted?_congr (untimed_of_view covers.matching.view)]
  exact follows.step covers.accepting input _

/-- The sessions go on like that. -/
theorem step {input : Input H} (keeps : reference.KeepsOwnerAt input) :
    (reference.step input).Covers (session.step input)
      (input.reschedule (reference.posted? input) referenceBacklog)
      (input.reschedule (session.posted? input) backlog)
      (input.await (reference.posted? input) waiting) where
  matching := covers.matching.step keeps
  posted := by
    intro job waits
    unfold Input.await at waits
    split at waits
    · cases waits
    · rcases List.mem_append.1 waits with earlier | last
      · exact covers.posted job earlier
      · exact posted_of_posted? (Option.mem_toList.1 last)
  thins := by
    rw [← posted?_congr (untimed_of_view covers.matching.view)]
    exact covers.thins_step input fun job => posted_of_posted?
  passed := by
    rw [← posted?_congr (untimed_of_view covers.matching.view)]
    exact covers.passed_step input _

section Runs

variable {inputs : List (Input H)} (keeps : reference.KeepsOwner inputs)

include keeps

/-- No soft cap makes listeners hear more, or in another order. -/
theorem told_sublist :
    (session.told backlog inputs).Sublist (reference.toldWhole waiting inputs) := by
  induction inputs generalizing reference session referenceBacklog backlog waiting with
  | nil => exact List.Sublist.refl _
  | cons input rest ih =>
      exact (covers.toldAt_sublist input).append (ih (covers.step keeps.1) keeps.2)

theorem filter_told : (session.told backlog inputs).filter (·.kind != .despawned) =
    (reference.toldWhole waiting inputs).filter (·.kind != .despawned) := by
  induction inputs generalizing reference session referenceBacklog backlog waiting with
  | nil => rfl
  | cons input rest ih =>
      rw [told, toldWhole, List.filter_append, List.filter_append, covers.filter_toldAt input,
        ih (covers.step keeps.1) keeps.2]

/-- Without a masked despawn every soft cap makes listeners hear everything. -/
theorem told_eq (visible : reference.masksDespawn waiting inputs = false) :
    session.told backlog inputs = reference.toldWhole waiting inputs := by
  induction inputs generalizing reference session referenceBacklog backlog waiting with
  | nil => rfl
  | cons input rest ih =>
      obtain ⟨now, later⟩ := Bool.or_eq_false_iff.1 visible
      rw [told, toldWhole, ih (covers.step keeps.1) keeps.2 later, covers.toldAt_eq]
      intro drains
      rwa [drains, Bool.true_and] at now

/-- A soft cap that is never passed makes listeners hear everything. -/
theorem told_eq_of_room (follows : Scheduler.Follows backlog waiting)
    (room : waiting.length + inputs.length ≤ backlog.softCap) :
    session.told backlog inputs = reference.toldWhole waiting inputs := by
  induction inputs generalizing reference session referenceBacklog backlog waiting with
  | nil => rfl
  | cons input rest ih =>
      have whole := (follows.whole (Nat.le_of_add_right_le room)).1
      have heard : session.toldAt backlog.queue input = reference.toldAt waiting input := by
        cases drains : input.drains with
        | false => simp [toldAt, drains]
        | true =>
            obtain ⟨own, all⟩ := covers.toldAt_drains drains
            rw [own, all, whole]
      have followed := covers.follows_step follows input
      rw [told, toldWhole, heard, ih (covers.step keeps.1) keeps.2 followed]
      rw [Input.softCap_reschedule input _ covers.accepting]
      have grown := input.length_await (reference.posted? input) waiting
      simp only [List.length_cons] at room
      omega

end Runs

end Covers

variable [ReflectionHost H]

/-- If a despawn is masked along a run, there is a soft cap that keeps it from being told: the
queue passes the cap by the last post before the frame. -/
theorem exists_softCap_shorter {reference : Session (Recorded H)} {waiting : List Job}
    {inputs : List (Input H)} (keeps : reference.KeepsOwner inputs)
    (masked : reference.masksDespawn waiting inputs = true) :
    ∃ softCap, 1 ≤ softCap ∧ ∀ {session : Session (Recorded H)}
      {referenceBacklog backlog : Scheduler Work},
      reference.Covers session referenceBacklog backlog waiting →
      Scheduler.Follows backlog waiting → backlog.softCap = softCap →
        (session.told backlog inputs).length < (reference.toldWhole waiting inputs).length := by
  induction inputs generalizing reference waiting with
  | nil => cases masked
  | cons input rest ih =>
      rcases Bool.or_eq_true_iff.1 masked with now | later
      · obtain ⟨drains, masks⟩ := Bool.and_eq_true_iff.1 now
        -- The cap lies one below the work that waits: the pass runs at the last post.
        have two := two_le_length_of_masksDespawn masks
        refine ⟨waiting.length - 1, Nat.le_sub_of_add_le two, ?_⟩
        intro session referenceBacklog backlog covers follows softCap
        have past : waiting.length = backlog.softCap + 1 := by omega
        have first := covers.length_toldAt_lt drains follows past masks
        have others := ((covers.step keeps.1).told_sublist keeps.2).length_le
        rw [told, toldWhole, List.length_append, List.length_append]
        exact Nat.add_lt_add_of_lt_of_le first others
      · obtain ⟨cap, positive, shorter⟩ := ih keeps.2 later
        refine ⟨cap, positive, ?_⟩
        intro session referenceBacklog backlog covers follows softCap
        have first := (covers.toldAt_sublist input).length_le
        have others := shorter (covers.step keeps.1) (covers.follows_step follows input)
          ((input.softCap_reschedule _ covers.accepting).trans softCap)
        rw [told, toldWhole, List.length_append, List.length_append]
        exact Nat.add_lt_add_of_le_of_lt first others

omit [ReflectionHost H] in
/-- Sessions that start alike but for the soft cap start with nothing that waits. -/
theorem covers_begin (host : CountedHost H) (report : Report) (settings : Settings)
    (softCap : Nat) :
    (begin host report settings).Covers (begin host report (settings.withSoftCap softCap))
      (.ofSoftCap settings.scheduler.softCap) (.ofSoftCap softCap) [] where
  matching := matches_begin host report settings settings.scheduler.softCap softCap
  posted := fun _ waits => by cases waits
  thins := .nil
  passed := rfl

/-- What listeners are told along a run with a soft cap, frames apart. -/
def toldUnder (host : CountedHost H) (report : Report) (settings : Settings)
    (inputs : List (Input H)) (softCap : Nat) : List Signal :=
  (begin host report (settings.withSoftCap softCap)).told (.ofSoftCap softCap) inputs

/-- What listeners are told, the signals of frames apart, is the same for all soft caps exactly
if no despawn of the run is masked.  In any case chat lines and spawns are told alike, and a
small cap only leaves something out of what would be told if nothing were dropped. -/
theorem told_same_iff (host : CountedHost H) (report : Report) (settings : Settings)
    (inputs : List (Input H)) (keeps : (begin host report settings).KeepsOwner inputs) :
    let start : Session (Recorded H) := begin host report settings
    let under (softCap : Nat) : Session (Recorded H) :=
      begin host report (settings.withSoftCap softCap)
    let told := toldUnder host report settings inputs
    (∀ softCap, World.Hears (told softCap) (under softCap).world
        ((under softCap).run inputs).world) ∧
      (∀ softCap, (told softCap).Sublist (start.toldWhole [] inputs)) ∧
      (∀ leftCap rightCap, (told leftCap).filter (·.kind != .despawned) =
        (told rightCap).filter (·.kind != .despawned)) ∧
      ((∀ leftCap rightCap, told leftCap = told rightCap) ↔
        start.masksDespawn [] inputs = false) := by
  intro start under told
  have covers := covers_begin host report settings
  refine ⟨fun softCap => ?_, fun softCap => (covers softCap).told_sublist keeps,
    fun leftCap rightCap => ?_, ?_, ?_⟩
  · exact (Holds.begin host report (settings.withSoftCap softCap)).hears_run inputs
  · exact ((covers leftCap).filter_told keeps).trans ((covers rightCap).filter_told keeps).symm
  · intro same
    cases masked : start.masksDespawn [] inputs with
    | false => rfl
    | true =>
        -- A cap as long as the run is never passed, so nothing is dropped under it.
        obtain ⟨softCap, positive, shorter⟩ := exists_softCap_shorter keeps masked
        have fewer := shorter (covers softCap) (.begin softCap) (Nat.max_eq_left positive)
        have whole := (covers inputs.length).told_eq_of_room keeps (.begin inputs.length)
          (by rw [List.length_nil, Nat.zero_add]; exact Nat.le_max_left _ _)
        have equal : told softCap = told inputs.length := same softCap inputs.length
        change (told softCap).length < _ at fewer
        rw [equal] at fewer
        change (told inputs.length) = _ at whole
        rw [whole] at fewer
        exact absurd fewer (Nat.lt_irrefl _)
  · intro visible leftCap rightCap
    exact ((covers leftCap).told_eq keeps visible).trans
      ((covers rightCap).told_eq keeps visible).symm

/-- The server had spawned the entity before the local writes: the small queue drops the first
write, and the despawn between the writes is told all the same. -/
theorem told_same_behind_spawn :
    let host : CountedHost (Loaded TableStore) := { store := { table := {} } }
    let frame (message : Wire.Message) : Input (Loaded TableStore) :=
      .receive 0 (message.encode.toOption.getD [])
    let write : Input (Loaded TableStore) := .sendLocal .elsewhere (.resting 7)
    let posts := [.setLocalEntity 7, frame (.humanSpawn (.resting 7)), write,
      frame (.humanDespawn 7), write]
    let inputs := posts ++ [.runFrame .gameThread 1]
    let queued (softCap : Nat) :=
      ((begin host {} (Settings.withSoftCap {} softCap)).run posts).scheduler.queue.length
    (begin host {} {}).KeepsOwner inputs ∧ queued 3 = 3 ∧ queued 1024 = 4 ∧
      toldUnder host {} {} inputs 1024 = [.spawned 7, .despawned 7] ∧
      toldUnder host {} {} inputs 3 = toldUnder host {} {} inputs 1024 := by
  intro host frame write posts inputs queued
  have keeps : (begin host {} {}).KeepsOwner inputs :=
    ⟨Or.inl rfl, trivial, trivial, trivial, trivial, trivial, trivial⟩
  have same := (told_same_iff host {} {} inputs keeps).2.2.2
  have visible : (begin host {} {}).masksDespawn [] inputs = false := by
    decide +kernel
  exact ⟨keeps, by decide +kernel, by decide +kernel, by decide +kernel, same.2 visible 3 1024⟩

/-- A despawn stands between two local writes of an entity without a row: the small queue has
dropped the write that would have made one, and its listener is not told. -/
theorem despawn_untold_between_writes :
    let host : CountedHost (Loaded TableStore) := { store := { table := {} } }
    let write : Input (Loaded TableStore) := .sendLocal .elsewhere (.resting 7)
    let despawn : Input (Loaded TableStore) :=
      .receive 0 ((Wire.Message.humanDespawn 7).encode.toOption.getD [])
    let gone : Listener :=
      { kind := .despawned, reaction := .record "gone", panics := fun _ => false }
    let inputs := [.setLocalEntity 7, .listen gone, write, despawn, write,
      .runFrame .gameThread 1]
    let heard (softCap : Nat) :=
      ((begin host {} (Settings.withSoftCap {} softCap)).run inputs).world.events
    (begin host {} {}).KeepsOwner inputs ∧ (begin host {} {}).masksDespawn [] inputs = true ∧
      toldUnder host {} {} inputs 2 = [] ∧ toldUnder host {} {} inputs 1024 = [.despawned 7] ∧
      heard 2 = [] ∧ heard 1024 = [.heard "gone" (.despawned 7)] := by
  intro host write despawn gone inputs heard
  refine ⟨⟨Or.inl rfl, trivial, trivial, trivial, trivial, trivial, trivial⟩, ?_, ?_, ?_, ?_, ?_⟩
  all_goals decide +kernel

end Session

end ReplicaBridge
