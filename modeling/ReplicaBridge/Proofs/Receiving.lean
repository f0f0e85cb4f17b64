/-
Module: ReplicaBridge.Proofs.Receiving
Purpose: A frame from the server is taken over whole or not at all.  One that decodes to a
  valid message within the limits becomes one task, and nothing else happens before the queue
  is drained; any other frame is counted as invalid and leaves the queue and everything that
  is replicated, held back or sent as it was.
Main exports: Session.Admits, Session.accept_eq_ok_iff, World.Untouched, Session.Queues,
  Session.Refuses
-/
import ReplicaBridge.Proofs.HostEffects
import ReplicaBridge.Proofs.Tallies

namespace ReplicaBridge

open Host (CountedHost Loaded ReflectionHost TableStore)
open Schedule (Scheduler Script TaskKind coalesce)
open Wire (Message)

namespace World

variable {H : Type}

/-- Nothing was done to what is replicated, what is held back for a spawn, what is to be sent
and the host, and no listener was called.  Reports, counters and the connection may differ. -/
structure Untouched (before after : World H) : Prop where
  replica : after.replica = before.replica
  early : after.channel.early = before.channel.early
  outgoing : after.channel.outgoing = before.channel.outgoing
  host : after.bridge.host = before.bridge.host
  registry : after.bridge.registry = before.bridge.registry
  gate : after.bridge.gate = before.bridge.gate
  listeners : after.listeners = before.listeners
  events : after.events = before.events

/-- One more frame came in. -/
def countReceived (world : World H) : World H :=
  { world with channel := { world.channel with received := world.channel.received + 1 } }

theorem Untouched.refl (world : World H) : world.Untouched world := by
  constructor <;> rfl

theorem Untouched.trans {before middle after : World H} (first : before.Untouched middle)
    (second : middle.Untouched after) : before.Untouched after where
  replica := second.replica.trans first.replica
  early := second.early.trans first.early
  outgoing := second.outgoing.trans first.outgoing
  host := second.host.trans first.host
  registry := second.registry.trans first.registry
  gate := second.gate.trans first.gate
  listeners := second.listeners.trans first.listeners
  events := second.events.trans first.events

theorem untouched_countReceived (world : World H) : world.Untouched world.countReceived := by
  constructor <;> rfl

theorem Untouched.of_onlyNotes {before after : World H} (noted : before.OnlyNotes after) :
    before.Untouched after := by
  obtain ⟨notices, rfl⟩ := noted
  constructor
  case host => exact Bridge.host_noteAll before.bridge notices
  case registry => exact Bridge.registry_noteAll before.bridge notices
  case gate => exact Bridge.gate_noteAll before.bridge notices
  all_goals rfl

theorem untouched_reject (world : World H) (now : Nat) (error : ChannelError) :
    world.Untouched (world.reject now error) := by
  unfold reject
  dsimp only
  split
  · simp only [close, noteIf]
    split <;> (constructor <;> rfl)
  · constructor <;> rfl

end World

namespace Session

variable {H : Type}

/-! ### Which frames are taken over -/

/-- The frame brings the message and nothing speaks against it: it decodes, its content is
valid, and a chat text is within the configured limit and that of the format. -/
structure Admits (settings : ReplicationSettings) (frame : Bytes) (message : Message) :
    Prop where
  decodes : Message.decode frame = .ok message
  valid : message.isValid = true
  chat : ∀ text, message = .chat text → text.utf8ByteSize ≤ min settings.maxChatLength 512

theorem refusal?_eq_none_iff {settings : ReplicationSettings} {message : Message} :
    refusal? settings message = none ↔ message.isValid = true ∧
      ∀ text, message = .chat text → text.utf8ByteSize ≤ min settings.maxChatLength 512 := by
  unfold refusal?
  by_cases valid : message.isValid = true
  · rw [if_pos valid]
    cases message with
    | chat text =>
        have limit : Channel.chatLimit settings = min settings.maxChatLength 512 := rfl
        dsimp only
        rw [limit, ite_eq_right_iff]
        simp [valid]
    | _ => simp [valid]
  · rw [if_neg valid]
    simp [valid]

/-- The checks that a frame goes through let exactly the admitted messages pass. -/
theorem accept_eq_ok_iff {settings : ReplicationSettings} {frame : Bytes} {message : Message} :
    accept settings frame = .ok message ↔ Admits settings frame message := by
  unfold accept
  constructor
  · intro accepted
    split at accepted
    · cases accepted
    · rename_i decoded decodes
      split at accepted
      · cases accepted
      · rename_i unrefused
        cases accepted
        obtain ⟨valid, short⟩ := refusal?_eq_none_iff.mp unrefused
        exact ⟨decodes, valid, short⟩
  · rintro ⟨decodes, valid, short⟩
    rw [decodes]
    dsimp only
    rw [refusal?_eq_none_iff.mpr ⟨valid, short⟩]

/-! ### What becomes of a frame -/

/-- The kind of task that a message belongs to: that of an update names its entity. -/
def taskKind : Message → TaskKind
  | .humanSpawn _ => .spawn
  | .humanDespawn _ => .despawn
  | .humanUpdate state => .avatarUpdate state.id
  | .envSeason _ | .envClockAdvance _ => .environment
  | .chat _ => .general

/-- The task of a message. -/
def taskFor (message : Message) : Schedule.Task (Script Work) :=
  { kind := taskKind message, work := .once (taskOf message).2 }

/-- The message became one task at the end of the queue, where a pass may have dropped what
later updates supersede; beyond that a frame was counted as received, and that is all. -/
structure Queues (before : Session H) (message : Message) (after : Session H) : Prop where
  scheduler : after.scheduler = (before.scheduler.post (taskFor message)).1
  queue : after.scheduler.queue = before.scheduler.queue ++ [taskFor message] ∨
    after.scheduler.queue = coalesce (before.scheduler.queue ++ [taskFor message])
  last : after.scheduler.queue.getLast? = some (taskFor message)
  posted : after.scheduler.posted = before.scheduler.posted + 1
  world : before.world.countReceived.OnlyNotes after.world

/-- The frame was counted, as received and as invalid; no task was posted, and nothing was
done to the world besides. -/
structure Refuses (before after : Session H) : Prop where
  scheduler : after.scheduler = before.scheduler
  received : after.world.channel.received = before.world.channel.received + 1
  invalid : after.world.channel.invalid = before.world.channel.invalid + 1
  world : before.world.Untouched after.world

variable [ReflectionHost H]

theorem receive_of_accept {session : Session H} (listens : session.world.channel.closed = false)
    (now : Nat) {frame : Bytes} {message : Message}
    (accepted : accept session.world.settings.replication frame = .ok message) :
    session.receive now frame =
      (queue (session.mapWorld (·.countReceived)) (taskKind message) (taskOf message).2,
        .ok message.kind) := by
  unfold receive
  rw [listens, accepted]
  cases message <;> rfl

theorem receive_of_refusal {session : Session H} (listens : session.world.channel.closed = false)
    (now : Nat) {frame : Bytes} {error : ChannelError}
    (refused : accept session.world.settings.replication frame = .error error) :
    session.receive now frame =
      (session.mapWorld (·.countReceived.reject now error), .error error) := by
  unfold receive
  rw [listens, refused]
  rfl

theorem queues_receive {session : Session H} (listens : session.world.channel.closed = false)
    (accepting : session.scheduler.shuttingDown = false) (now : Nat) {frame : Bytes}
    {message : Message}
    (accepted : accept session.world.settings.replication frame = .ok message) :
    session.Queues message (session.receive now frame).1 := by
  have posts : (session.receive now frame).1.scheduler =
      (session.scheduler.post (taskFor message)).1 := by
    rw [receive_of_accept listens now accepted]
    exact scheduler_queue _ _ _
  constructor
  case scheduler => exact posts
  case queue =>
    rw [posts]
    exact Scheduler.queue_post accepting _
  case last =>
    rw [posts]
    exact Scheduler.getLast?_queue_post accepting _
  case posted =>
    rw [posts]
    exact Scheduler.posted_post accepting _
  case world =>
    rw [receive_of_accept listens now accepted]
    exact onlyNotes_queue _ _ _

theorem refuses_receive {session : Session H} (listens : session.world.channel.closed = false)
    (now : Nat) {frame : Bytes} {error : ChannelError}
    (refused : accept session.world.settings.replication frame = .error error) :
    session.Refuses (session.receive now frame).1 := by
  rw [receive_of_refusal listens now refused]
  have counted := World.tally_reject session.world.countReceived now error
  constructor
  case scheduler => rfl
  case received => exact congrArg Prod.fst counted
  case invalid => exact congrArg Prod.snd counted
  case world =>
    exact (World.untouched_countReceived session.world).trans (World.untouched_reject _ now error)

/-! ### Frames one after another -/

/-- Frames come from the server one after another, each at its time. -/
def receiveAll (session : Session H) (deliveries : List (Nat × Bytes)) : Session H :=
  deliveries.foldl (fun session delivery => (session.receive delivery.1 delivery.2).1) session

/-- No frame does anything before the queue is drained. -/
theorem untouched_receive (session : Session H) (now : Nat) (frame : Bytes) :
    session.world.Untouched (session.receive now frame).1.world := by
  cases listens : session.world.channel.closed with
  | true =>
      rw [receive_of_closed listens]
      exact .refl session.world
  | false =>
      cases checked : accept session.world.settings.replication frame with
      | error error => exact (refuses_receive listens now checked).world
      | ok message =>
          rw [receive_of_accept listens now checked]
          exact (World.untouched_countReceived session.world).trans
            (.of_onlyNotes (onlyNotes_queue _ _ _))

theorem untouched_receiveAll (session : Session H) (deliveries : List (Nat × Bytes)) :
    session.world.Untouched (session.receiveAll deliveries).world := by
  induction deliveries generalizing session with
  | nil => exact .refl session.world
  | cons delivery rest ih => exact (untouched_receive session _ _).trans (ih _)

/-! ### All or nothing -/

/-- A closed channel answers that it is closed, and nothing changes.  An open one takes a frame
over exactly if its message is admitted, and answers its kind: then the message is one task
more in the queue, if that accepts work, and the frame is counted as received.  Any other frame
is answered by an error and counted as received and invalid.  However many frames come before
the next drain, what is replicated, held back or sent stays as it is, no host is called and no
listener either.  So in every run the received frames are the invalid ones and those taken
over. -/
theorem receive_all_or_nothing (session : Session H) (now : Nat) (frame : Bytes) :
    let settings := session.world.settings.replication
    let after := (session.receive now frame).1
    let answer := (session.receive now frame).2
    (session.world.channel.closed = true → answer = .error .closed ∧ after = session) ∧
      (session.world.channel.closed = false →
        (∀ kind, answer = .ok kind ↔ ∃ message, Admits settings frame message ∧
          message.kind = kind) ∧
        (∀ message, Admits settings frame message → session.scheduler.shuttingDown = false →
          session.Queues message after) ∧
        ((∀ message, ¬Admits settings frame message) →
          (∃ error, answer = .error error) ∧ session.Refuses after)) ∧
      (∀ deliveries, session.world.Untouched (session.receiveAll deliveries).world) ∧
      ∀ (host : CountedHost H) (report : Report) (settings : Settings)
        (operations : List (Operation H)),
        let start : Session H := .start host report settings
        let channel := (start.operateAll operations).world.channel
        channel.received = channel.invalid + start.taken operations := by
  intro settings after answer
  refine ⟨?_, ?_, untouched_receiveAll session, ?_⟩
  · intro closed
    have unheard := receive_of_closed closed now frame
    exact ⟨congrArg Prod.snd unheard, congrArg Prod.fst unheard⟩
  · intro listens
    refine ⟨?_, ?_, ?_⟩
    · intro kind
      rw [show answer = .ok kind ↔ _ from receive_eq_ok_iff]
      simp only [accepted?_eq_some_iff, accept_eq_ok_iff, listens, true_and]
      rfl
    · intro message admitted accepting
      exact queues_receive listens accepting now (accept_eq_ok_iff.mpr admitted)
    · intro foreign
      cases checked : accept settings frame with
      | ok message => exact absurd (accept_eq_ok_iff.mp checked) (foreign message)
      | error error =>
          have answered := receive_of_refusal listens now checked
          exact ⟨⟨error, congrArg Prod.snd answered⟩, refuses_receive listens now checked⟩
  · intro host report settings operations start channel
    have balanced := tally_operateAll start operations
    have fresh : start.world.tally = (0, 0) := rfl
    rw [fresh, Nat.zero_add] at balanced
    exact balanced

/-- A second update for an avatar supersedes the first one, for whose queue there is no more
room; a chat line within the format is over the configured limit; and a closed channel answers
at once. -/
theorem receive_all_or_nothing_over_cap :
    let host : CountedHost (Loaded TableStore) := { store := { table := {} } }
    let settings : Settings :=
      { replication := { maxChatLength := 2 }, scheduler := { softCap := 1 } }
    let frame (message : Message) := message.encode.toOption.getD []
    let update := Message.humanUpdate (.resting 7)
    let chat := Message.chat "abc"
    let queued := ((Session.start host {} settings).receive 0 (frame update)).1
    let closed := queued.mapWorld (·.close)
    (queued.receive 1 (frame update)).2 = .ok .humanUpdate ∧
      queued.Queues update (queued.receive 1 (frame update)).1 ∧
      (queued.receive 1 (frame update)).1.scheduler.queue.length = 1 ∧
      queued.Refuses (queued.receive 2 (frame chat)).1 ∧
      (closed.receive 3 (frame update)).2 = .error .closed := by
  intro host settings frame update chat queued closed
  have taken : queued.accepted? (frame update) = some update := by decide +kernel
  have accepting : queued.scheduler.shuttingDown = false := by decide +kernel
  obtain ⟨listens, accepted⟩ := accepted?_eq_some_iff.mp taken
  have admitted := accept_eq_ok_iff.mp accepted
  have foreign : ∀ message, ¬Admits queued.world.settings.replication (frame chat) message := by
    intro message admitted
    have refused : (accept queued.world.settings.replication (frame chat)).isOk = false := by
      decide +kernel
    rw [accept_eq_ok_iff.mpr admitted] at refused
    cases refused
  obtain ⟨answers, queues, -⟩ := (receive_all_or_nothing queued 1 (frame update)).2.1 listens
  have refuses := ((receive_all_or_nothing queued 2 (frame chat)).2.1 listens).2.2 foreign
  have unheard := (receive_all_or_nothing closed 3 (frame update)).1 (by decide +kernel)
  exact ⟨(answers _).mpr ⟨update, admitted, rfl⟩, queues update admitted accepting,
    by decide +kernel, refuses.2, unheard.1⟩

end Session

end ReplicaBridge
