/-
Module: ReplicaBridge.Proofs.SessionRun
Purpose: Runs of a session: what comes to it from outside, in any order, over a host that
  remembers every call dispatched to it and may change at any time.  A session's queue
  holds single actions only, and a drain performs them one after another.
Main exports: Host.Recorded, Input, Session.step, Session.run, Session.accepted?,
  Session.posted?, World.performAll, Session.Holds, Session.Holds.step
-/
import ReplicaBridge.Host.TableStore
import ReplicaBridge.Proofs.Coalescing
import ReplicaBridge.Session

namespace ReplicaBridge

open Host (CountedHost HostCall ReflectionHost)
open Schedule (GameLoop Scheduler Script TaskKind)
open Wire (Message MessageKind)

/-! ### Hosts that remember their calls -/

namespace Host

/-- A host beside the calls dispatched to it, oldest first; calls that fault count. -/
structure Recorded (H : Type) where
  store : H
  calls : List HostCall := []

namespace Recorded

variable {H : Type} [ReflectionHost H]

open ReflectionHost

instance : ReflectionHost (Recorded H) where
  isReady host := isReady host.store
  objectCount host := objectCount host.store
  objectAt host := objectAt host.store
  fullName host := fullName host.store
  nameCost host := nameCost host.store
  classOf host := classOf host.store
  typeTag host := typeTag host.store
  isTemplate host := isTemplate host.store
  findFunction host := findFunction host.store
  properties host := properties host.store
  dispatch host target function frame :=
    let (store, left) := dispatch host.store target function frame
    ({ store, calls := host.calls ++ [{ target, function, frame }] }, left)
  length_of_dispatch host target function frame after left dispatched := by
    have answer : (dispatch host.store target function frame).2 = some left :=
      congrArg Prod.snd dispatched
    exact length_of_dispatch host.store target function frame
      (dispatch host.store target function frame).1 left (Prod.ext rfl answer)

end Recorded

end Host

open Host (Recorded)

/-! ### Inputs -/

/-- What comes to a session from outside. -/
inductive Input (H : Type) where
  /-- A frame came from the server at a time. -/
  | receive (now : Nat) (frame : Bytes)
  /-- The game ran a frame. -/
  | runFrame (caller : Caller) (number : Nat)
  /-- The local entity was assigned. -/
  | setLocalEntity (id : EntityId)
  /-- The local player's avatar was written. -/
  | sendLocal (caller : Caller) (state : AvatarState)
  /-- The host signalled that it rebuilt its store. -/
  | registryChanged
  /-- The host's objects came, went or changed. -/
  | hostChanges (store : H)
  | listen (listener : Listener)
  | unlisten (key : ListenerKey)

namespace Session

variable {H : Type} [ReflectionHost H]

/-- The host's objects are others from here on. -/
def changeHost (session : Session (Recorded H)) (store : H) : Session (Recorded H) :=
  session.mapWorld fun world =>
    let host := world.bridge.host
    { world with
      bridge := { world.bridge with host := { host with store := { host.store with store } } } }

/-- Take one input. -/
def step (session : Session (Recorded H)) : Input H → Session (Recorded H)
  | .receive now frame => (session.receive now frame).1
  | .runFrame caller number => (session.runFrame caller number).1
  | .setLocalEntity id => session.mapWorld (·.setLocalEntity id)
  | .sendLocal caller state => (session.sendLocal caller state).1
  | .registryChanged => session.registryChanged
  | .hostChanges store => session.changeHost store
  | .listen listener => session.mapWorld fun world =>
      { world with listeners := (world.listeners.add listener).1 }
  | .unlisten key => session.mapWorld fun world =>
      { world with listeners := (world.listeners.remove key).1 }

/-- Take inputs one after another. -/
def run (session : Session (Recorded H)) (inputs : List (Input H)) : Session (Recorded H) :=
  inputs.foldl step session

@[simp] theorem run_nil (session : Session (Recorded H)) : session.run [] = session := rfl

@[simp] theorem run_cons (session : Session (Recorded H)) (input : Input H)
    (rest : List (Input H)) : session.run (input :: rest) = (session.step input).run rest := rfl

theorem run_append (session : Session (Recorded H)) (earlier later : List (Input H)) :
    session.run (earlier ++ later) = (session.run earlier).run later :=
  List.foldl_append

/-- A session that starts with a host to which nothing was dispatched yet. -/
def begin (host : CountedHost H) (report : Report) (settings : Settings) :
    Session (Recorded H) :=
  Session.start { store := { store := host.store }, nameQueries := host.nameQueries } report
    settings

end Session

/-! ### What an input posts -/

/-- A task of a single action. -/
abbrev Job := Schedule.Task Work

namespace Session

variable {H : Type}

/-- The message that a frame brings, if the session takes it over. -/
def accepted? (session : Session H) (frame : Bytes) : Option Message :=
  if session.world.channel.closed then none
  else (accept session.world.settings.replication frame).toOption

/-- The local write that a state leads to, if it leads to one. -/
def localWrite? (session : Session H) (state : AvatarState) : Option EntityId :=
  if session.world.channel.closed || !state.isValid then none
  else session.world.replica.localEntity

/-- The job for a message from the server. -/
def jobFor (message : Message) : Job :=
  { kind := (taskOf message).1, work := (taskOf message).2 }

/-- The job for a write of the local player's avatar. -/
def localJob (id : EntityId) (state : AvatarState) : Job :=
  { kind := .localAvatarUpdate id, work := .writeRow id (state.withId id) }

/-- The job that an input posts, if it posts one. -/
def posted? (session : Session (Recorded H)) : Input H → Option Job
  | .receive _ frame => (session.accepted? frame).map jobFor
  | .sendLocal .elsewhere state => (session.localWrite? state).map (localJob · state)
  | _ => none

theorem valid_of_accept {settings : ReplicationSettings} {frame : Bytes} {message : Message}
    (accepted : accept settings frame = .ok message) : message.isValid = true := by
  unfold accept at accepted
  split at accepted
  · cases accepted
  · split at accepted
    · cases accepted
    · rename_i decoded _ _ agreed
      cases accepted
      unfold refusal? at agreed
      split at agreed
      · assumption
      · cases agreed

theorem accepted?_eq_some_iff {session : Session H} {frame : Bytes} {message : Message} :
    session.accepted? frame = some message ↔ session.world.channel.closed = false ∧
      accept session.world.settings.replication frame = .ok message := by
  simp only [accepted?]
  cases session.world.channel.closed with
  | true => simp
  | false =>
      cases accept session.world.settings.replication frame with
      | error error => simp [Except.toOption]
      | ok decoded => simp [Except.toOption]

theorem localWrite?_eq_some_iff {session : Session H} {state : AvatarState} {id : EntityId} :
    session.localWrite? state = some id ↔ session.world.channel.closed = false ∧
      state.isValid = true ∧ session.world.replica.localEntity = some id := by
  simp only [localWrite?]
  cases session.world.channel.closed <;> cases state.isValid <;> simp

/-- A frame is answered by the kind of its message exactly when its message is taken
over. -/
theorem receive_eq_ok_iff [ReflectionHost H] {session : Session H} {now : Nat}
    {frame : Bytes} {kind : MessageKind} : (session.receive now frame).2 = .ok kind ↔
      ∃ message, session.accepted? frame = some message ∧ message.kind = kind := by
  simp only [receive, accepted?]
  split
  · simp
  · cases accept session.world.settings.replication frame with
    | error error => simp [Except.toOption]
    | ok message => simp [Except.toOption]

end Session

/-- The jobs that inputs post: messages that were found valid, and valid local writes. -/
inductive Job.Posted : Job → Prop where
  | message {message : Message} (valid : message.isValid = true) :
      Job.Posted (Session.jobFor message)
  | localWrite (id : EntityId) {state : AvatarState} (valid : state.isValid = true) :
      Job.Posted (Session.localJob id state)

theorem Session.posted_of_posted? {H : Type} {session : Session (Recorded H)}
    {input : Input H} {job : Job} (posted : session.posted? input = some job) :
    Job.Posted job := by
  cases input with
  | receive now frame =>
      obtain ⟨message, accepted, rfl⟩ := Option.map_eq_some_iff.1 posted
      exact .message (valid_of_accept (accepted?_eq_some_iff.1 accepted).2)
  | sendLocal caller state =>
      cases caller with
      | gameThread => cases posted
      | elsewhere =>
          obtain ⟨id, written, rfl⟩ := Option.map_eq_some_iff.1 posted
          exact .localWrite id (localWrite?_eq_some_iff.1 written).2.1
  | runFrame caller number => cases posted
  | setLocalEntity id => cases posted
  | registryChanged => cases posted
  | hostChanges store => cases posted
  | listen listener => cases posted
  | unlisten key => cases posted

/-! ### Performing jobs -/

namespace World

variable {H : Type} [ReflectionHost H]

/-- Perform a job; one that unwinds is reported. -/
def performJob (world : World H) (job : Job) : World H :=
  match world.perform job.work with
  | (world, .ok ()) => world
  | (world, .error _) => world.hear (.taskPanicked job.kind)

/-- Perform jobs in order. -/
def performAll (jobs : List Job) (world : World H) : World H :=
  jobs.foldl performJob world

@[simp] theorem performAll_nil (world : World H) : performAll [] world = world := rfl

@[simp] theorem performAll_cons (job : Job) (rest : List Job) (world : World H) :
    performAll (job :: rest) world = performAll rest (world.performJob job) := rfl

end World

namespace Session

variable {H : Type} [ReflectionHost H]

/-- A task of a single action leaves the queue alone. -/
theorem runTask_once (nested : GameLoop.Nested Work (World H)) (job : Job) (session : Session H) :
    GameLoop.runTask nested (job.map Script.once) session =
      { session with world := session.world.performJob job } := by
  rcases performed : World.perform job.work session.world with ⟨world, outcome⟩
  have acted : Schedule.Workplace.perform job.work session.world = (world, !outcome.isOk) := by
    simp only [Schedule.Workplace.perform, performed]
  simp only [GameLoop.runTask, World.performJob]
  simp only [Schedule.Task.map, Script.once, GameLoop.runScript, acted, performed]
  cases outcome with
  | ok answer => rfl
  | error fault => rfl

/-- A batch of single actions is performed job by job. -/
theorem runBatch_once (nested : GameLoop.Nested Work (World H)) (jobs : List Job)
    (session : Session H) :
    GameLoop.runBatch nested false (jobs.map (Schedule.Task.map Script.once)) session =
      ({ session with world := World.performAll jobs session.world }, jobs.length) := by
  induction jobs generalizing session with
  | nil => rfl
  | cons job rest ih =>
      rw [List.map_cons, GameLoop.runBatch, Bool.false_and, if_neg Bool.false_ne_true,
        runTask_once, ih]
      rfl

/-- A drain on the game thread performs what is queued and leaves an empty queue. -/
theorem drain_gameThread {session : Session H} {backlog : Scheduler Work}
    (queued : session.scheduler = backlog.map Script.once)
    (accepting : backlog.shuttingDown = false) :
    (GameLoop.drain session .gameThread).1 =
      { scheduler := (backlog.take.1.countExecuted backlog.queue.length).map Script.once
        world := World.performAll backlog.queue session.world } := by
  have taken : session.scheduler.take =
      (backlog.take.1.map Script.once,
        backlog.queue.map (Schedule.Task.map Script.once)) := by
    rw [queued]
    rfl
  have accepts : (backlog.take.1.map Script.once).shuttingDown = false := accepting
  unfold GameLoop.drain
  simp only [GameLoop.drainTo, GameLoop.drainOnce]
  rw [taken]
  rw [accepts, runBatch_once]
  rfl

end Session

/-! ### Frames -/

namespace World

variable {H : Type}

/-- A drain was asked for off the game thread. -/
def refuseDrain (world : World H) : World H :=
  ((world.reportOn .elsewhere).hear .drainRefused).reportOn world.bridge.report.thread

variable [ReflectionHost H]

/-- The part of a frame that follows the drain: what waits for the host is tried, unless the
frame runs off the game thread, then the early updates age and the frame listeners hear of
the frame.  What unwinds ends the frame. -/
def finishFrame (world : World H) (caller : Caller) (number : Nat) : World H :=
  match caller with
  | .elsewhere => (world.tick.fire (.frame number)).1
  | .gameThread =>
    match world.retryPending with
    | (world, .error _) => world
    | (world, .ok ()) => (world.tick.fire (.frame number)).1

end World

namespace Session

variable {H : Type} [ReflectionHost H]

theorem runFrame_eq (session : Session H) (caller : Caller) (number : Nat) :
    (session.runFrame caller number).1 =
      Session.mapWorld (GameLoop.drain session caller).1 (·.finishFrame caller number) := by
  simp only [runFrame]
  rcases GameLoop.drain session caller with ⟨drained, executed⟩
  cases caller with
  | elsewhere => rfl
  | gameThread =>
      rcases retried : drained.world.retryPending with ⟨world, outcome⟩
      have tried : Session.retryPending drained .gameThread =
          ({ drained with world }, outcome) := by
        simp only [Session.retryPending, onWorld, retried]
      rw [tried]
      cases outcome with
      | error fault => simp only [mapWorld, World.finishFrame, retried]
      | ok answer => simp only [onWorld, mapWorld, World.finishFrame, retried]

end Session

/-! ### The queue along a run -/

/-- The input is a frame on the game thread, which empties the queue. -/
def Input.drains {H : Type} : Input H → Bool
  | .runFrame .gameThread _ => true
  | _ => false

theorem Input.eq_frame_of_drains {H : Type} {input : Input H} (drains : input.drains = true) :
    ∃ number, input = .runFrame .gameThread number := by
  cases input with
  | runFrame caller number =>
      cases caller with
      | gameThread => exact ⟨number, rfl⟩
      | elsewhere => cases drains
  | _ => cases drains

/-- What an input does to a queue, when it posts the given task. -/
def Input.reschedule {H α : Type} (input : Input H) (posted : Option (Schedule.Task α))
    (scheduler : Scheduler α) : Scheduler α :=
  if input.drains then scheduler.take.1.countExecuted scheduler.queue.length
  else match posted with
    | some task => (scheduler.post task).1
    | none => scheduler

theorem Input.reschedule_map {H α β : Type} (change : α → β) (input : Input H)
    (posted : Option (Schedule.Task α)) (scheduler : Scheduler α) :
    input.reschedule (posted.map (Schedule.Task.map change)) (scheduler.map change) =
      (input.reschedule posted scheduler).map change := by
  simp only [Input.reschedule]
  split
  · simp [Scheduler.take, Scheduler.countExecuted, Scheduler.map]
  · cases posted with
    | none => rfl
    | some task =>
        change ((scheduler.map change).post (task.map change)).1 = _
        rw [Scheduler.post_map]

/-- What is in the queue after an input was in it before, or was posted just now. -/
theorem Input.mem_reschedule {H α : Type} {input : Input H} {posted : Option (Schedule.Task α)}
    {scheduler : Scheduler α} (accepting : scheduler.shuttingDown = false)
    {task : Schedule.Task α} (waits : task ∈ (input.reschedule posted scheduler).queue) :
    task ∈ scheduler.queue ∨ posted = some task := by
  unfold Input.reschedule at waits
  split at waits
  · cases waits
  · cases posted with
    | none => exact Or.inl waits
    | some other =>
        have among := (Scheduler.queue_post_sublist accepting other).subset waits
        rcases List.mem_append.1 among with earlier | last
        · exact Or.inl earlier
        · exact Or.inr (congrArg some (List.mem_singleton.1 last).symm)

/-- The queue of a session holds single actions, those of the backlog, and everything in it
was posted by inputs. -/
structure Session.Holds {H : Type} (session : Session H) (backlog : Scheduler Work) :
    Prop where
  queued : session.scheduler = backlog.map Script.once
  accepting : backlog.shuttingDown = false
  posted : ∀ job ∈ backlog.queue, Job.Posted job

namespace Session

variable {H : Type} [ReflectionHost H]

theorem scheduler_queue (session : Session H) (kind : TaskKind) (work : Work) :
    (session.queue kind work).scheduler =
      (session.scheduler.post { kind, work := Script.once work }).1 := by
  unfold queue GameLoop.post GameLoop.hear
  dsimp only
  split <;> rfl

theorem scheduler_receive (session : Session H) (now : Nat) (frame : Bytes) :
    (session.receive now frame).1.scheduler =
      match session.accepted? frame with
      | some message => (session.scheduler.post ((jobFor message).map Script.once)).1
      | none => session.scheduler := by
  simp only [receive, accepted?]
  split
  · rfl
  · cases accept session.world.settings.replication frame with
    | error error => rfl
    | ok message => exact scheduler_queue _ _ _

theorem scheduler_sendLocal (session : Session H) (caller : Caller) (state : AvatarState) :
    (session.sendLocal caller state).1.scheduler =
      match caller, session.localWrite? state with
      | .elsewhere, some id =>
        (session.scheduler.post ((localJob id state).map Script.once)).1
      | _, _ => session.scheduler := by
  simp only [sendLocal, updateLocal, localWrite?]
  cases session.world.channel.closed with
  | true => cases caller <;> rfl
  | false =>
      cases session.world.replica.localEntity with
      | none => cases caller <;> cases state.isValid <;> rfl
      | some id =>
          cases caller with
          | gameThread => cases state.isValid <;> rfl
          | elsewhere =>
              cases state.isValid with
              | false => rfl
              | true => exact scheduler_queue _ _ _

/-- A drain that is asked for off the game thread leaves the queue alone. -/
theorem drain_elsewhere (session : Session H) : (GameLoop.drain session .elsewhere).1 =
    Session.mapWorld session World.refuseDrain := rfl

theorem world_runFrame_elsewhere (session : Session (Recorded H)) (number : Nat) :
    (session.step (.runFrame .elsewhere number)).world =
      session.world.refuseDrain.finishFrame .elsewhere number := by
  unfold step
  dsimp only
  rw [runFrame_eq, drain_elsewhere]
  rfl

end Session

namespace Session.Holds

section Posts

variable {H : Type} {session after : Session H} {backlog : Scheduler Work}

/-- Posting a single action to the queue posts it to the backlog. -/
theorem of_post (holds : session.Holds backlog) {job : Job}
    (posted : Job.Posted job)
    (queued : after.scheduler = (session.scheduler.post (job.map Script.once)).1) :
    after.Holds (backlog.post job).1 where
  queued := by rw [queued, holds.queued, Scheduler.post_map]
  accepting := Scheduler.shuttingDown_post holds.accepting job
  posted := by
    intro other waits
    have among := (Scheduler.queue_post_sublist holds.accepting job).subset waits
    rcases List.mem_append.1 among with earlier | last
    · exact holds.posted other earlier
    · rw [List.mem_singleton.1 last]
      exact posted

theorem of_scheduler_eq (holds : session.Holds backlog)
    (same : after.scheduler = session.scheduler) : after.Holds backlog :=
  { holds with queued := same.trans holds.queued }

end Posts

variable {H : Type} {session : Session (Recorded H)} {backlog : Scheduler Work}

theorem world_runFrame [ReflectionHost H] (holds : session.Holds backlog) (number : Nat) :
    (session.step (.runFrame .gameThread number)).world =
      (World.performAll backlog.queue session.world).finishFrame .gameThread number := by
  unfold step
  dsimp only
  rw [runFrame_eq, drain_gameThread holds.queued holds.accepting]
  rfl

/-- The backlog follows the session through every input. -/
theorem step [ReflectionHost H] (holds : session.Holds backlog) (input : Input H) :
    (session.step input).Holds (input.reschedule (session.posted? input) backlog) := by
  cases input with
  | receive now frame =>
      have scheduled := scheduler_receive session now frame
      have posts : session.posted? (.receive now frame) =
          (session.accepted? frame).map jobFor := rfl
      rw [posts]
      cases accepted : session.accepted? frame with
      | none =>
          rw [accepted] at scheduled
          exact holds.of_scheduler_eq scheduled
      | some message =>
          rw [accepted] at scheduled
          have valid := valid_of_accept (accepted?_eq_some_iff.1 accepted).2
          exact holds.of_post (.message valid) scheduled
  | runFrame caller number =>
      cases caller with
      | gameThread =>
          refine ⟨?_, holds.accepting, fun job waits => by cases waits⟩
          unfold Session.step
          dsimp only
          rw [runFrame_eq, drain_gameThread holds.queued holds.accepting]
          rfl
      | elsewhere =>
          refine holds.of_scheduler_eq ?_
          unfold Session.step
          dsimp only
          rw [runFrame_eq, drain_elsewhere]
          rfl
  | sendLocal caller state =>
      have scheduled := scheduler_sendLocal session caller state
      cases caller with
      | gameThread => exact holds.of_scheduler_eq scheduled
      | elsewhere =>
          have posts : session.posted? (.sendLocal .elsewhere state) =
              (session.localWrite? state).map (localJob · state) := rfl
          rw [posts]
          cases written : session.localWrite? state with
          | none =>
              rw [written] at scheduled
              exact holds.of_scheduler_eq scheduled
          | some id =>
              rw [written] at scheduled
              have valid := (localWrite?_eq_some_iff.1 written).2.1
              exact holds.of_post (.localWrite id valid) scheduled
  | setLocalEntity id => exact holds.of_scheduler_eq rfl
  | registryChanged => exact holds.of_scheduler_eq rfl
  | hostChanges store => exact holds.of_scheduler_eq rfl
  | listen listener => exact holds.of_scheduler_eq rfl
  | unlisten key => exact holds.of_scheduler_eq rfl

theorem run [ReflectionHost H] (holds : session.Holds backlog) (inputs : List (Input H)) :
    ∃ backlog, (session.run inputs).Holds backlog := by
  induction inputs generalizing session backlog with
  | nil => exact ⟨backlog, holds⟩
  | cons input rest ih => exact ih (holds.step input)

/-- A session starts with nothing in its queue. -/
theorem begin (host : CountedHost H) (report : Report) (settings : Settings) :
    (Session.begin host report settings).Holds
      (Scheduler.ofSoftCap settings.scheduler.softCap) where
  queued := rfl
  accepting := rfl
  posted := fun _ waits => by cases waits

end Session.Holds

end ReplicaBridge
