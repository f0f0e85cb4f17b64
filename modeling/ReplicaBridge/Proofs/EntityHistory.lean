/-
Module: ReplicaBridge.Proofs.EntityHistory
Purpose: What a session knows of a replicated entity is a closed form of what the server
  sent about it: the last spawn or despawn decides whether there is a row, the newest update
  decides its state, and an update from before the spawn counts while it is young enough.
Main exports: Chronicle, expectedRow, expectedHeld, Track.Recalls,
  Session.Follows
-/
import ReplicaBridge.Proofs.SupersededDeeds

namespace ReplicaBridge

open Host (CountedHost Loaded Recorded ReflectionHost TableStore)
open Schedule (Scheduler coalesce)
open Wire (Message)

/-! ### Histories -/

/-- A deed that a frame carried out, with the tick of the frame. -/
structure Past where
  tick : Nat
  deed : Deed
deriving DecidableEq

namespace Past

/-- The entity came or went. -/
def isLifecycle (past : Past) : Bool :=
  match past.deed with
  | .spawn _ | .despawn => true
  | .update _ | .write _ => false

/-- The update that was carried out, if it was one. -/
def update? (past : Past) : Option HeldUpdate :=
  match past.deed with
  | .update state => some { tick := past.tick, state }
  | _ => none

end Past

section Histories

variable (history : List Past)

/-- The newest spawn or despawn of a history, which lists the newest deed first. -/
def lifecycle? : Option Past :=
  history.find? Past.isLifecycle

/-- The history ends with the entity alive: it was spawned and not despawned since. -/
def alive : Bool :=
  match lifecycle? history with
  | some { deed := .spawn _, .. } => true
  | _ => false

/-- The newest update since the last spawn or despawn, or since the start. -/
def newestUpdate? : Option HeldUpdate :=
  ((history.takeWhile fun past => !past.isLifecycle).filterMap Past.update?).head?

/-- What came before the last spawn or despawn. -/
def beforeLifecycle : List Past :=
  (history.dropWhile fun past => !past.isLifecycle).tail

/-- The state of a row that a spawn makes in the frame of the given tick, when the entity's
history before it is the given one: that of the newest update since the entity was last
gone, if it was gone and fewer than `maxAge` frames lie between the two, or none; or else
the state of the spawn. -/
def stateAtSpawn (maxAge tick : Nat) (state : AvatarState) : AvatarState :=
  if alive history then state
  else match newestUpdate? history with
    | some update => if tick - update.tick < max maxAge 1 then update.state else state
    | none => state

/-- The row that a history leads to.  Its state is that of the newest update since the
spawn, or else the one that the spawn made. -/
def expectedRow (maxAge : Nat) : Option AvatarState :=
  match lifecycle? history with
  | some { tick, deed := .spawn state } =>
    match newestUpdate? history with
    | some update => some update.state
    | none => some (stateAtSpawn (beforeLifecycle history) maxAge tick state)
  | _ => none

/-- The update that a history leaves waiting for a spawn: the newest one since the entity
was last gone, while it has seen fewer ticks than `maxAge`; one that has seen none yet, its
own frame having unwound, waits in any case. -/
def expectedHeld (maxAge now : Nat) : Option HeldUpdate :=
  if alive history then none
  else (newestUpdate? history).filter fun update =>
    decide (now - update.tick < maxAge) || update.tick == now

end Histories

/-! ### Chronicles -/

/-- What a message does to an entity. -/
def Deed.ofMessage? (id : EntityId) : Message → Option Deed
  | .humanSpawn state => if state.id = id then some (.spawn state) else none
  | .humanDespawn other => if other = id then some .despawn else none
  | .humanUpdate state => if state.id = id then some (.update state) else none
  | .envSeason _ | .envClockAdvance _ | .chat _ => none

/-- What the server sent about an entity: what frames have carried out, newest first, and
what waits for the next frame, oldest first. -/
structure Chronicle where
  history : List Past := []
  waiting : List Deed := []

namespace Chronicle

variable {H : Type}

/-- A message that a session takes over waits for the next frame on the game thread. -/
def step (id : EntityId) (session : Session (Recorded H)) (chronicle : Chronicle) :
    Input H → Chronicle
  | .receive _ frame =>
    { chronicle with waiting := chronicle.waiting ++
        ((session.accepted? frame).bind (Deed.ofMessage? id)).toList }
  | .runFrame .gameThread _ =>
    { history :=
        (chronicle.waiting.map ({ tick := session.world.channel.tick, deed := · })).reverse ++
          chronicle.history }
  | _ => chronicle

/-- The chronicle of an entity along a run. -/
def run [ReflectionHost H] (id : EntityId) :
    Session (Recorded H) → Chronicle → List (Input H) → Chronicle
  | _, chronicle, [] => chronicle
  | session, chronicle, input :: rest =>
    run id (session.step input) (chronicle.step id session input) rest

end Chronicle

/-! ### Tracks that follow a history -/

/-- A deed that a valid message about the entity leads to. -/
def Deed.Sound (id : EntityId) : Deed → Prop
  | .spawn state | .update state => state.isValid = true ∧ state.id = id
  | .despawn => True
  | .write _ => False

theorem Deed.sound_of_ofMessage? {id : EntityId} {message : Message} {deed : Deed}
    (valid : message.isValid = true) (about : Deed.ofMessage? id message = some deed) :
    deed.Sound id := by
  cases message with
  | humanSpawn state =>
      simp [ofMessage?] at about
      rcases about with ⟨same, rfl⟩
      exact ⟨valid, same⟩
  | humanDespawn other =>
      simp [ofMessage?] at about
      rcases about with ⟨_, rfl⟩
      trivial
  | humanUpdate state =>
      simp [ofMessage?] at about
      rcases about with ⟨same, rfl⟩
      exact ⟨valid, same⟩
  | _ => simp [ofMessage?] at about

section Steps

variable (history : List Past) (tick : Nat) (state : AvatarState)

@[simp] theorem lifecycle?_spawn : lifecycle? ({ tick, deed := .spawn state } :: history) =
    some { tick, deed := .spawn state } := rfl

@[simp] theorem lifecycle?_despawn : lifecycle? ({ tick, deed := .despawn } :: history) =
    some { tick, deed := .despawn } := rfl

@[simp] theorem lifecycle?_update : lifecycle? ({ tick, deed := .update state } :: history) =
    lifecycle? history := rfl

@[simp] theorem newestUpdate?_spawn :
    newestUpdate? ({ tick, deed := .spawn state } :: history) = none := rfl

@[simp] theorem newestUpdate?_despawn :
    newestUpdate? ({ tick, deed := .despawn } :: history) = none := rfl

@[simp] theorem newestUpdate?_update :
    newestUpdate? ({ tick, deed := .update state } :: history) = some { tick, state } := rfl

@[simp] theorem beforeLifecycle_spawn :
    beforeLifecycle ({ tick, deed := .spawn state } :: history) = history := rfl

end Steps

/-- There is a row exactly while the entity is alive. -/
theorem isSome_expectedRow (history : List Past) (maxAge : Nat) :
    (expectedRow history maxAge).isSome = alive history := by
  simp only [expectedRow, alive]
  rcases lifecycle? history with _ | ⟨tick, deed⟩
  · rfl
  · cases deed with
    | spawn state => cases newestUpdate? history <;> rfl
    | despawn => rfl
    | update state => rfl
    | write state => rfl

theorem expectedRow_update (history : List Past) (maxAge tick : Nat) (state : AvatarState) :
    expectedRow ({ tick, deed := .update state } :: history) maxAge =
      if alive history then some state else none := by
  unfold expectedRow alive
  simp only [lifecycle?_update, newestUpdate?_update]
  rcases lifecycle? history with _ | ⟨tick, deed⟩
  · rfl
  · cases deed <;> rfl

/-- A track is what a history leads to. -/
structure Track.Recalls (id : EntityId) (maxAge now : Nat) (history : List Past)
    (track : Track) : Prop where
  row : track.row = expectedRow history maxAge
  held : track.held = expectedHeld history maxAge now
  sound : ∀ past ∈ history, past.deed.Sound id
  earlier : ∀ past ∈ history, past.tick ≤ now

theorem mem_of_newestUpdate? {history : List Past} {update : HeldUpdate}
    (newest : newestUpdate? history = some update) :
    { tick := update.tick, deed := .update update.state } ∈ history := by
  unfold newestUpdate? at newest
  have among := List.mem_of_head? newest
  obtain ⟨past, taken, carried⟩ := List.mem_filterMap.1 among
  have member := (List.takeWhile_sublist _).subset taken
  obtain ⟨tick, deed⟩ := past
  cases deed with
  | update state =>
      cases carried
      exact member
  | _ => cases carried

namespace Track.Recalls

variable {id : EntityId} {maxAge now : Nat} {history : List Past} {track : Track}

theorem empty (id : EntityId) (maxAge now : Nat) : Recalls id maxAge now [] {} where
  row := rfl
  held := rfl
  sound := nofun
  earlier := nofun

/-- The update that a spawn applies is held exactly if it is young enough. -/
theorem spawned_eq (recalls : Recalls id maxAge now history track) {state : AvatarState}
    (same : state.id = id) :
    spawned id false state track.held = stateAtSpawn history maxAge now state := by
  rw [recalls.held]
  simp only [expectedHeld, stateAtSpawn]
  by_cases lives : alive history = true
  · rw [if_pos lives, if_pos lives]
    exact AvatarState.withId_self same
  · rw [if_neg lives, if_neg lives]
    cases newest : newestUpdate? history with
    | none => exact AvatarState.withId_self same
    | some update =>
        have member := mem_of_newestUpdate? newest
        have sound : update.state.isValid = true ∧ update.state.id = id :=
          recalls.sound _ member
        have earlier : update.tick ≤ now := recalls.earlier _ member
        dsimp only
        by_cases young : now - update.tick < max maxAge 1
        · have waits : (decide (now - update.tick < maxAge) || update.tick == now) = true := by
            simp only [Bool.or_eq_true, decide_eq_true_eq, beq_iff_eq]
            omega
          have applied : spawned id false state (some update) = update.state.withId id :=
            if_pos (by rw [sound.1]; rfl)
          rw [Option.filter_some, if_pos waits, if_pos young, applied]
          exact AvatarState.withId_self sound.2
        · have gone : ¬(decide (now - update.tick < maxAge) || update.tick == now) = true := by
            simp only [Bool.or_eq_true, decide_eq_true_eq, beq_iff_eq]
            omega
          rw [Option.filter_some, if_neg gone, if_neg young]
          exact AvatarState.withId_self same

theorem isSome_row (recalls : Recalls id maxAge now history track) :
    track.row.isSome = alive history := by
  rw [recalls.row, isSome_expectedRow]

/-- What is carried out next joins the history. -/
theorem after (recalls : Recalls id maxAge now history track) {deed : Deed}
    (sound : deed.Sound id) :
    Recalls id maxAge now ({ tick := now, deed } :: history) (track.after id false now deed) := by
  have sounds : ∀ past ∈ ({ tick := now, deed } : Past) :: history, past.deed.Sound id := by
    intro past among
    rcases List.mem_cons.1 among with rfl | older
    · exact sound
    · exact recalls.sound past older
  have ticks : ∀ past ∈ ({ tick := now, deed } : Past) :: history, past.tick ≤ now := by
    intro past among
    rcases List.mem_cons.1 among with rfl | older
    · exact Nat.le_refl now
    · exact recalls.earlier past older
  cases deed with
  | spawn state =>
      have made : track.after id false now (.spawn state) =
          { row := some (spawned id false state track.held) } := if_pos sound.1
      rw [made, recalls.spawned_eq sound.2]
      refine ⟨?_, ?_, sounds, ticks⟩
      · simp [expectedRow]
      · simp [expectedHeld, alive]
  | despawn =>
      refine ⟨?_, ?_, sounds, ticks⟩
      · simp [Track.after, expectedRow]
      · simp [Track.after, expectedHeld, alive]
  | update state =>
      have lives : alive ({ tick := now, deed := .update state } :: history) = alive history := rfl
      have present := recalls.isSome_row
      cases living : alive history with
      | true =>
          rw [living] at present lives
          have applied : track.after id false now (.update state) =
              { track with row := some (state.withId id) } := by
            simp [Track.after, sound.1, present]
          rw [applied, AvatarState.withId_self sound.2]
          refine ⟨?_, ?_, sounds, ticks⟩
          · rw [expectedRow_update, if_pos living]
          · simp only [expectedHeld]
            rw [if_pos lives]
            rw [recalls.held, expectedHeld, if_pos living]
      | false =>
          rw [living] at present lives
          have holds : track.after id false now (.update state) =
              { track with held := some { tick := now, state } } := by
            simp [Track.after, sound.1, present]
          rw [holds]
          refine ⟨?_, ?_, sounds, ticks⟩
          · rw [expectedRow_update, living]
            simpa using present
          · simp [expectedHeld, lives, Option.filter_some]
  | write state => exact sound.elim

/-- What a frame carries out joins the history, deed by deed. -/
theorem course (recalls : Recalls id maxAge now history track) {deeds : List Deed}
    (sound : ∀ deed ∈ deeds, deed.Sound id) :
    Recalls id maxAge now ((deeds.map ({ tick := now, deed := · })).reverse ++ history)
      (track.course id false now deeds) := by
  induction deeds generalizing history track with
  | nil => exact recalls
  | cons deed rest ih =>
      have next := ih (recalls.after (sound deed List.mem_cons_self))
        fun other waits => sound other (List.mem_cons_of_mem deed waits)
      rw [List.map_cons, List.reverse_cons, List.append_assoc]
      exact next

/-- A tick drops the update that has become too old. -/
theorem aged (recalls : Recalls id maxAge now history track) :
    Recalls id maxAge (now + 1) history (track.aged (now + 1) maxAge) := by
  refine ⟨recalls.row, ?_, recalls.sound, fun past among => ?_⟩
  · unfold Track.aged
    rw [recalls.held]
    simp only [expectedHeld]
    split
    · rfl
    · cases newest : newestUpdate? history with
      | none => rfl
      | some update =>
          have earlier : update.tick ≤ now := recalls.earlier _ (mem_of_newestUpdate? newest)
          rw [Option.filter_some, Option.filter_some]
          by_cases young : now + 1 - update.tick < maxAge
          · have before : (decide (now - update.tick < maxAge) || update.tick == now) = true := by
              simp only [Bool.or_eq_true, decide_eq_true_eq]
              omega
            have after : (decide (now + 1 - update.tick < maxAge) || update.tick == now + 1) =
                true := by simp [young]
            rw [if_pos before, if_pos after, Option.filter_some]
            exact if_pos (decide_eq_true young)
          · have after : ¬(decide (now + 1 - update.tick < maxAge) || update.tick == now + 1) =
                true := by
              simp only [Bool.or_eq_true, decide_eq_true_eq, beq_iff_eq]
              omega
            rw [if_neg after]
            split
            · rw [Option.filter_some]
              exact if_neg fun fresh => young (of_decide_eq_true fresh)
            · rfl
  · exact Nat.le_succ_of_le (recalls.earlier past among)

end Track.Recalls

/-! ### Sessions that follow a chronicle -/

theorem deedOn?_jobFor (id : EntityId) (message : Message) :
    (Session.jobFor message).deedOn? id = Deed.ofMessage? id message := by
  cases message <;> rfl

namespace Session

variable {H : Type}

/-- What is known of an entity that is not the local player's is what its chronicle leads
to, and the chronicle knows what the queue held before any coalescing. -/
structure Follows (id : EntityId) (maxAge : Nat) (session : Session (Recorded H))
    (backlog : Scheduler Work) (chronicle : Chronicle) : Prop where
  holds : session.Holds backlog
  ages : session.world.settings.replication.pendingUpdateTicks = maxAge
  recalls : Track.Recalls id maxAge session.world.channel.tick chronicle.history
    (session.world.track id)
  owed : ∃ jobs : List Job, backlog.queue.Sublist jobs ∧
    coalesce backlog.queue = coalesce jobs ∧ (∀ job ∈ jobs, Job.Posted job) ∧
    deedsOn id jobs = chronicle.waiting
  sound : ∀ deed ∈ chronicle.waiting, deed.Sound id
  foreign : session.world.replica.localEntity ≠ some id

variable {id : EntityId} {maxAge : Nat} {session : Session (Recorded H)}
  {backlog : Scheduler Work} {chronicle : Chronicle}

theorem Follows.begin (id : EntityId) (host : CountedHost H) (report : Report)
    (settings : Settings) : (begin host report settings).Follows id
      settings.replication.pendingUpdateTicks
      (Scheduler.ofSoftCap settings.scheduler.softCap) {} where
  holds := .begin host report settings
  ages := rfl
  recalls := .empty id _ _
  owed := ⟨[], .slnil, rfl, fun _ waits => absurd waits List.not_mem_nil, rfl⟩
  sound _ waits := absurd waits List.not_mem_nil
  foreign := (Option.some_ne_none id).symm

/-- What is in the queue takes the track where all that was posted would take it. -/
theorem Follows.course_queue (follows : session.Follows id maxAge backlog chronicle) (tick : Nat)
    (track : Track) : track.course id false tick (deedsOn id backlog.queue) =
      track.course id false tick chronicle.waiting := by
  obtain ⟨jobs, within, passed, posted, waiting⟩ := follows.owed
  have remote : ∀ state, .write state ∈ deedsOn id jobs → false = true := by
    intro state waits
    rw [waiting] at waits
    exact (follows.sound _ waits).elim
  have remote' : ∀ state, .write state ∈ deedsOn id backlog.queue → false = true :=
    fun state waits => remote state ((within.filterMap _).subset waits)
  rw [← Track.course_coalesce follows.holds.posted remote', passed,
    Track.course_coalesce posted remote, waiting]

/-- The chronicle takes down what the input posts about the entity. -/
theorem Follows.waiting_step (follows : session.Follows id maxAge backlog chronicle)
    {input : Input H} (waits : input.drains = false) :
    (chronicle.step id session input).waiting =
      chronicle.waiting ++ ((session.posted? input).bind (Job.deedOn? id)).toList := by
  cases input with
  | receive now frame =>
      have posts : session.posted? (.receive now frame) =
          (session.accepted? frame).map jobFor := rfl
      have takes : (chronicle.step id session (.receive now frame)).waiting =
          chronicle.waiting ++ ((session.accepted? frame).bind (Deed.ofMessage? id)).toList := rfl
      rw [posts, takes]
      cases session.accepted? frame with
      | none => rfl
      | some message => simp [deedOn?_jobFor]
  | sendLocal caller state =>
      cases caller with
      | gameThread => simp [Chronicle.step, posted?]
      | elsewhere =>
          have posts : session.posted? (.sendLocal .elsewhere state) =
              (session.localWrite? state).map (localJob · state) := rfl
          rw [posts]
          cases written : session.localWrite? state with
          | none => simp [Chronicle.step]
          | some owner =>
              have other : owner ≠ id := by
                rintro rfl
                exact follows.foreign (localWrite?_eq_some_iff.1 written).2.2
              simp [Chronicle.step, Job.deedOn?, Job.deed?, localJob, other]
  | runFrame caller number =>
      cases caller with
      | gameThread => cases waits
      | elsewhere => simp [Chronicle.step, posted?]
  | _ => simp [Chronicle.step, posted?]

theorem Follows.owed_step (follows : session.Follows id maxAge backlog chronicle) {input : Input H}
    (waits : input.drains = false) :
    ∃ jobs : List Job,
      (input.reschedule (session.posted? input) backlog).queue.Sublist jobs ∧
      coalesce (input.reschedule (session.posted? input) backlog).queue = coalesce jobs ∧
      (∀ job ∈ jobs, Job.Posted job) ∧
      deedsOn id jobs = (chronicle.step id session input).waiting := by
  obtain ⟨jobs, within, passed, posted, waiting⟩ := follows.owed
  have accepting := follows.holds.accepting
  rw [follows.waiting_step waits]
  simp only [Input.reschedule]
  rw [waits, if_neg Bool.false_ne_true]
  cases posts : session.posted? input with
  | none => exact ⟨jobs, within, passed, posted, by simpa using waiting⟩
  | some job =>
      refine ⟨jobs ++ [job], ?_, ?_, ?_, ?_⟩
      · exact (Scheduler.queue_post_sublist accepting job).trans (within.append (.refl _))
      · dsimp only
        rw [Scheduler.coalesce_queue_post accepting, ← Schedule.coalesce_append backlog.queue,
          passed, Schedule.coalesce_append jobs]
      · intro other among
        rcases List.mem_append.1 among with earlier | last
        · exact posted other earlier
        · rw [List.mem_singleton.1 last]
          exact posted_of_posted? posts
      · have last : deedsOn id [job] = (job.deedOn? id).toList := by
          cases about : job.deedOn? id with
          | none => exact deedsOn_cons_of_none [] about
          | some deed => exact deedsOn_cons_of_some [] about
        rw [Option.bind_some, ← waiting, ← last]
        exact List.filterMap_append

theorem sound_step (sound : ∀ deed ∈ chronicle.waiting, deed.Sound id) (input : Input H) :
    ∀ deed ∈ (chronicle.step id session input).waiting, deed.Sound id := by
  cases input with
  | receive now frame =>
      intro deed waits
      rcases List.mem_append.1 waits with earlier | last
      · exact sound deed earlier
      · obtain ⟨message, accepted, about⟩ :=
          Option.bind_eq_some_iff.1 (Option.mem_toList.1 last)
        exact Deed.sound_of_ofMessage? (valid_of_accept (accepted?_eq_some_iff.1 accepted).2) about
  | runFrame caller number =>
      cases caller with
      | gameThread => exact fun _ waits => absurd waits List.not_mem_nil
      | elsewhere => exact sound
  | _ => exact sound

/-- Inputs that run no frame leave the track of an entity alone that is not the local
player's. -/
theorem Follows.track_step [ReflectionHost H]
    (follows : session.Follows id maxAge backlog chronicle) {input : Input H}
    (waits : ∀ caller number, input ≠ .runFrame caller number) :
    (session.step input).world.track id = session.world.track id := by
  rw [Session.track_step session waits]
  split
  · rename_i state
    refine if_neg fun written => ?_
    exact follows.foreign (localWrite?_eq_some_iff.1 written).2.2
  · rfl

/-- The queue takes the track where the deeds that wait take it. -/
theorem Follows.track_performAll [ReflectionHost H]
    (follows : session.Follows id maxAge backlog chronicle) :
    (session.world.performAll backlog.queue).track id =
      (session.world.track id).course id false session.world.channel.tick chronicle.waiting := by
  have replicated : session.world.owns id = false := beq_eq_false_iff_ne.2 follows.foreign
  rw [World.track_performAll follows.holds.posted, replicated, follows.course_queue]

/-- The chronicle is followed through every input but one that makes the entity the local
player's. -/
theorem Follows.step [ReflectionHost H] (follows : session.Follows id maxAge backlog chronicle)
    {input : Input H} (keeps : input ≠ .setLocalEntity id) :
    (session.step input).Follows id maxAge
      (input.reschedule (session.posted? input) backlog) (chronicle.step id session input) where
  holds := follows.holds.step input
  ages := by rw [follows.holds.replication_step, follows.ages]
  sound := sound_step follows.sound input
  owed := by
    cases drains : input.drains with
    | false => exact follows.owed_step drains
    | true =>
        obtain ⟨number, rfl⟩ := Input.eq_frame_of_drains drains
        exact ⟨[], .slnil, rfl, fun _ waits => absurd waits List.not_mem_nil, rfl⟩
  foreign := follows.holds.localEntity_ne_step follows.foreign keeps
  recalls := by
    have recalls := follows.recalls
    by_cases frames : ∃ caller number, input = .runFrame caller number
    · obtain ⟨caller, number, rfl⟩ := frames
      cases caller with
      | elsewhere =>
          have ticked := view_runFrame_elsewhere session number
          have tick : (session.step (.runFrame .elsewhere number)).world.channel.tick =
              session.world.channel.tick + 1 :=
            congrArg (fun view => view.backdrop.footing.tick) ticked
          have track := (congrArg (View.track · id) ticked).trans (View.track_aged _ id)
          have aged := recalls.aged
          rw [← follows.ages] at aged ⊢
          rw [tick, show (session.step (.runFrame .elsewhere number)).world.track id = _ from track]
          exact aged
      | gameThread =>
          have carried := recalls.course follows.sound
          rw [← follows.track_performAll] at carried
          rcases follows.holds.runFrame_cases number with
            ⟨footing, tracks⟩ | ⟨footing, tracks⟩
          · have tick : (session.step (.runFrame .gameThread number)).world.channel.tick =
                session.world.channel.tick := congrArg Footing.tick footing
            rw [tick, tracks id]
            exact carried
          · have tick : (session.step (.runFrame .gameThread number)).world.channel.tick =
                session.world.channel.tick + 1 := congrArg Footing.tick footing
            rw [tick, tracks id, follows.ages]
            exact carried.aged
    · have notFrame : ∀ caller number, input ≠ .runFrame caller number :=
        fun caller number same => frames ⟨caller, number, same⟩
      have same := follows.track_step notFrame
      have history : (chronicle.step id session input).history = chronicle.history := by
        cases input with
        | runFrame caller number => exact absurd ⟨caller, number, rfl⟩ frames
        | _ => rfl
      rw [history, same, tick_step session notFrame]
      exact recalls

/-- The chronicle is followed along every run that never makes the entity the local
player's. -/
theorem Follows.run [ReflectionHost H] (follows : session.Follows id maxAge backlog chronicle)
    {inputs : List (Input H)} (never : .setLocalEntity id ∉ inputs) :
    ∃ left, (session.run inputs).Follows id maxAge left (chronicle.run id session inputs) := by
  induction inputs generalizing session backlog chronicle with
  | nil => exact ⟨backlog, follows⟩
  | cons input rest ih =>
      have keeps : input ≠ .setLocalEntity id :=
        fun same => never (same ▸ List.mem_cons_self)
      exact ih (follows.step keeps) fun later => never (List.mem_cons_of_mem input later)

theorem chronicle_run_append [ReflectionHost H] (id : EntityId) (session : Session (Recorded H))
    (chronicle : Chronicle) (earlier later : List (Input H)) :
    chronicle.run id session (earlier ++ later) =
      (chronicle.run id session earlier).run id (session.run earlier) later := by
  induction earlier generalizing session chronicle with
  | nil => rfl
  | cons input rest ih => exact ih (session.step input) (chronicle.step id session input)

/-- After a frame on the game thread, what is known of an entity that never was the local
player's is a closed form of what the server sent about it, whatever the soft cap and
whatever else happened: there is a row while the entity is alive, its state is the expected
one, and the expected update is held for a coming spawn.  A tick passes in every frame that
comes to its end, and then all that was carried out lies before it. -/
theorem track_eq_expected [ReflectionHost H] (id : EntityId) (host : CountedHost H)
    (report : Report) (settings : Settings) (inputs : List (Input H)) (number : Nat)
    (never : .setLocalEntity id ∉ inputs) :
    let start : Session (Recorded H) := begin host report settings
    let before := start.run inputs
    let after := (start.run (inputs ++ [.runFrame .gameThread number])).world
    let history := (Chronicle.run id start {} (inputs ++ [.runFrame .gameThread number])).history
    let maxAge := settings.replication.pendingUpdateTicks
    after.replica.rows.contains id = alive history ∧
      after.replica.rows.get? id = expectedRow history maxAge ∧
      after.channel.early.held.get? id = expectedHeld history maxAge after.channel.tick ∧
      (∀ past ∈ history, past.tick ≤ before.world.channel.tick) ∧
      ((before.runFrame .gameThread number).2.isOk = true →
        after.channel.tick = before.world.channel.tick + 1) := by
  intro start before after history maxAge
  have never' : Input.setLocalEntity id ∉ inputs ++ [.runFrame .gameThread number] := by
    simpa using never
  obtain ⟨backlog, earlier⟩ := (Follows.begin id host report settings).run never
  obtain ⟨rest, later⟩ := (Follows.begin id host report settings).run never'
  have ended : start.run (inputs ++ [.runFrame .gameThread number]) =
      before.step (.runFrame .gameThread number) := run_append start inputs _
  have taken : history = ((Chronicle.run id start {} inputs).step id before
      (.runFrame .gameThread number)).history :=
    congrArg Chronicle.history (chronicle_run_append id start {} inputs _)
  refine ⟨later.recalls.isSome_row, later.recalls.row, later.recalls.held, ?_, ?_⟩
  · intro past among
    rw [taken] at among
    rcases List.mem_append.1 among with carried | older
    · obtain ⟨deed, _, rfl⟩ := List.mem_map.1 (List.mem_reverse.1 carried)
      exact Nat.le_refl _
    · exact earlier.recalls.earlier past older
  · intro completed
    have ticked := earlier.holds.tick_runFrame completed
    rw [← ended] at ticked
    exact ticked

/-- An update, a frame, then the spawn: with an age limit of two the row has the state of the
update. -/
theorem track_eq_expected_of_late_spawn :
    let host : CountedHost (Loaded TableStore) := { store := { table := {} } }
    let settings : Settings := { replication := { pendingUpdateTicks := 2 } }
    let early : AvatarState := { AvatarState.resting 7 with input := 1 }
    let frame (message : Message) : Input (Loaded TableStore) :=
      .receive 0 (message.encode.toOption.getD [])
    let inputs := [frame (.humanUpdate early), .runFrame .gameThread 1, .setLocalEntity 8,
      frame (.humanSpawn (.resting 7))]
    .setLocalEntity 7 ∉ inputs ∧ ((begin host {} settings).run
      (inputs ++ [.runFrame .gameThread 2])).world.replica.rows.get? 7 = some early := by
  intro host settings early frame inputs
  have never : Input.setLocalEntity 7 ∉ inputs := by
    simp [inputs, frame]
  have known := (track_eq_expected 7 host {} settings inputs 2 never).2.1
  have expected : expectedRow (Chronicle.run 7 (begin host {} settings) {}
      (inputs ++ [.runFrame .gameThread 2])).history 2 = some early := by
    decide +kernel
  exact ⟨never, known.trans expected⟩

end Session

end ReplicaBridge
