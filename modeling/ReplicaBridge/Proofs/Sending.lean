/-
Module: ReplicaBridge.Proofs.Sending
Purpose: What is sent is what a peer receives.  Of all that a session does, sends and polls are
  steps of an outbox: a send that succeeds puts the frame of one message at its end, and a poll
  takes the frame at its head.  So what was polled and what still waits are, in order, the
  frames of the successful sends; and what a send lets pass, every peer with the same limit for
  chat texts takes over.
Main exports: Outbox, Outbox.Exchange, World.outbox, Session.sendChat_spec,
  Session.sendLocal_spec, Session.DoneIff, Traffic, Session.pass, Session.sends,
  Session.polls, Session.Undisturbed, Session.exchange_passAll, Session.polls_decode_to_sends
-/
import ReplicaBridge.Proofs.FrameCodec
import ReplicaBridge.Proofs.Receiving

namespace ReplicaBridge

open Host (CountedHost Loaded ReflectionHost TableStore)
open Schedule (TaskKind)
open Wire (Message)

/-! ### The outbox -/

/-- What the sending side of a session is made of. -/
structure Outbox where
  /-- The frames that wait to be polled, oldest first. -/
  waiting : List Bytes
  /-- The frames that were queued so far. -/
  sent : Nat
  closed : Bool
  settings : ReplicationSettings
deriving DecidableEq

/-- From one outbox to another, frames were polled and messages sent: in order, what was polled
and what still waits are what waited before and the frames of the messages.  Each message is
counted, and none is one that a peer with the same settings refuses. -/
structure Outbox.Exchange (before : Outbox) (polled : List Bytes) (sends : List Message)
    (after : Outbox) : Prop where
  frames : polled ++ after.waiting = before.waiting ++ sends.map Message.bytes
  sent : after.sent = before.sent + sends.length
  closed : after.closed = before.closed
  settings : after.settings = before.settings
  unrefused : ∀ message ∈ sends, Session.refusal? before.settings message = none

namespace Outbox.Exchange

variable {before middle after : Outbox}

/-- Nothing was polled and nothing sent. -/
theorem still (same : after = before) : before.Exchange [] [] after := by
  subst same
  exact ⟨(List.append_nil _).symm, rfl, rfl, rfl, nofun⟩

theorem append {earlier later : List Bytes} {first second : List Message}
    (here : before.Exchange earlier first middle) (there : middle.Exchange later second after) :
    before.Exchange (earlier ++ later) (first ++ second) after where
  frames := by
    rw [List.append_assoc, there.frames, ← List.append_assoc, here.frames, List.map_append,
      List.append_assoc]
  sent := by rw [there.sent, here.sent, List.length_append, Nat.add_assoc]
  closed := there.closed.trans here.closed
  settings := there.settings.trans here.settings
  unrefused := by
    intro message sending
    rcases List.mem_append.mp sending with among | among
    · exact here.unrefused message among
    · exact here.settings ▸ there.unrefused message among

end Outbox.Exchange

namespace World

variable {H : Type}

/-- The sending side of a world. -/
def outbox (world : World H) : Outbox where
  waiting := world.channel.outgoing
  sent := world.channel.sent
  closed := world.channel.closed
  settings := world.settings.replication

theorem outbox_of_onlyNotes {before after : World H} (noted : before.OnlyNotes after) :
    after.outbox = before.outbox := by
  obtain ⟨notices, rfl⟩ := noted
  rfl

/-- A message whose text is not too long is queued. -/
theorem enqueue_of_fits {message : Message} (fits : message.tooLong? = none) (world : World H) :
    world.enqueue message =
      ({ world with channel := world.channel.enqueue message.bytes }, .ok ()) := by
  unfold enqueue
  rw [Wire.encode_eq, fits]

end World

/-! ### Sends -/

namespace Session

variable {H : Type}

/-- What no peer refuses is not too long for a frame, and its frame brings it back. -/
theorem admits_bytes {settings : ReplicationSettings} {message : Message}
    (unrefused : refusal? settings message = none) : Admits settings message.bytes message := by
  obtain ⟨valid, short⟩ := refusal?_eq_none_iff.mp unrefused
  refine ⟨Wire.decode_eq_ok_iff.mpr ⟨?_, rfl⟩, valid, short⟩
  cases message with
  | chat text =>
      have within := short text rfl
      rw [Message.tooLong?_chat, Text.length_utf8]
      omega
  | _ => rfl

/-- A chat text can be sent exactly over an open channel, and if no peer with the same settings
refuses it: the two sides make the same checks in another order. -/
theorem chatRefusal?_eq_none_iff {world : World H} {text : String} :
    world.chatRefusal? text = none ↔ world.channel.closed = false ∧
      refusal? world.settings.replication (.chat text) = none := by
  simp only [World.chatRefusal?, refusal?]
  cases world.channel.closed with
  | true => simp
  | false =>
      by_cases long : Channel.chatLimit world.settings.replication < text.utf8ByteSize
      · cases (Message.chat text).isValid <;> simp [long]
      · simp [long]

/-- A message that no peer with the same settings refuses is queued. -/
theorem exchange_enqueue {world : World H} {message : Message}
    (unrefused : refusal? world.outbox.settings message = none) :
    (world.enqueue message).2 = .ok () ∧
      world.outbox.Exchange [] [message] (world.enqueue message).1.outbox := by
  have fits := (Wire.decode_eq_ok_iff.mp (admits_bytes unrefused).decodes).1
  rw [World.enqueue_of_fits fits]
  refine ⟨rfl, rfl, rfl, rfl, rfl, ?_⟩
  intro other sending
  rw [List.mem_singleton.mp sending]
  exact unrefused

theorem exchange_poll (session : Session H) :
    session.world.outbox.Exchange session.poll.2.toList [] session.poll.1.world.outbox := by
  cases waits : session.world.channel.outgoing with
  | nil =>
      have empty : session.poll = (session, none) := by
        simp only [poll, onWorld, Channel.poll, waits]
      rw [empty]
      exact .still rfl
  | cons frame rest =>
      have taken : session.poll = (session.mapWorld fun world =>
          { world with channel := { world.channel with outgoing := rest } }, some frame) := by
        simp only [poll, onWorld, Channel.poll, waits, mapWorld]
      rw [taken]
      refine ⟨?_, rfl, rfl, rfl, fun _ none => absurd none List.not_mem_nil⟩
      simp only [Option.toList_some, mapWorld, World.outbox, waits, List.map_nil,
        List.append_nil, List.singleton_append]

/-- A chat text that nothing speaks against is sent; any other is refused before anything
happens. -/
theorem sendChat_spec (session : Session H) (text : String) :
    match session.world.chatRefusal? text with
    | none => (session.onWorld (·.sendChat text)).2 = .ok () ∧
        session.world.outbox.Exchange [] [.chat text]
          (session.onWorld (·.sendChat text)).1.world.outbox
    | some error => session.onWorld (·.sendChat text) = (session, .error error) := by
  unfold onWorld
  cases refused : session.world.chatRefusal? text with
  | some error => simp only [World.sendChat, refused]
  | none =>
      have queued := exchange_enqueue (chatRefusal?_eq_none_iff.mp refused).2
      simp only [World.sendChat, refused]
      exact queued

variable [ReflectionHost H]

theorem outbox_reroute (session : Session H) (operation : String) (kind : TaskKind)
    (work : Work) : (session.reroute operation kind work).world.outbox = session.world.outbox :=
  (World.outbox_of_onlyNotes (onlyNotes_queue _ kind work)).trans rfl

/-- A local write is sent under the identity of the local entity; where there is none to make,
the send is refused before anything happens. -/
theorem sendLocal_spec (session : Session H) (caller : Caller) (state : AvatarState) :
    match session.localWrite? state with
    | some id => (session.sendLocal caller state).2 = .ok () ∧
        session.world.outbox.Exchange [] [.humanUpdate (state.withId id)]
          (session.sendLocal caller state).1.world.outbox
    | none => ∃ error, session.sendLocal caller state = (session, .error error) := by
  unfold localWrite? sendLocal updateLocal
  cases session.world.channel.closed with
  | true => exact ⟨.closed, rfl⟩
  | false =>
      cases valid : state.isValid with
      | false =>
          cases session.world.replica.localEntity with
          | none => exact ⟨.replica .noLocalEntity, rfl⟩
          | some id => exact ⟨.replica (.invalidAvatar id), rfl⟩
      | true =>
          cases session.world.replica.localEntity with
          | none => exact ⟨.replica .noLocalEntity, rfl⟩
          | some id =>
              have unrefused : refusal? session.world.outbox.settings
                  (.humanUpdate (state.withId id)) = none :=
                refusal?_eq_none_iff.mpr ⟨valid, nofun⟩
              cases caller with
              | gameThread => exact exchange_enqueue unrefused
              | elsewhere =>
                  have posted := outbox_reroute session "Replica.updateLocal"
                    (.localAvatarUpdate id) (.writeRow id (state.withId id))
                  have settings := congrArg Outbox.settings posted
                  have queued := exchange_enqueue (settings.symm ▸ unrefused)
                  rw [posted] at queued
                  exact queued

/-- A request is done exactly under a condition; where it is refused nothing happens at all. -/
def DoneIff (session : Session H) (result : Session H × Except ChannelError Unit)
    (condition : Prop) : Prop :=
  (result.2 = .ok () ↔ condition) ∧ ∀ error, result.2 = .error error → result.1 = session

/-- A local write is sent exactly over an open channel, if there is a local entity and the state
is valid. -/
theorem sendLocal_doneIff (session : Session H) (caller : Caller) (state : AvatarState) :
    session.DoneIff (session.sendLocal caller state)
      (session.world.channel.closed = false ∧ state.isValid = true ∧
        ∃ id, session.world.replica.localEntity = some id) := by
  have sending := session.sendLocal_spec caller state
  simp only [DoneIff, ← exists_and_left, ← localWrite?_eq_some_iff]
  cases written : session.localWrite? state with
  | none =>
      rw [written] at sending
      obtain ⟨error, refused⟩ := sending
      simp [refused]
  | some id =>
      rw [written] at sending
      simp [sending.1]

omit [ReflectionHost H] in
/-- A chat line is sent exactly over an open channel, if it is neither empty nor over one of the
limits. -/
theorem sendChat_doneIff (session : Session H) (text : String) :
    session.DoneIff (session.onWorld (·.sendChat text))
      (session.world.channel.closed = false ∧ (Message.chat text).isValid = true ∧
        text.utf8ByteSize ≤ min session.world.settings.replication.maxChatLength 512) := by
  have sending := session.sendChat_spec text
  have checks : session.world.chatRefusal? text = none ↔ _ := chatRefusal?_eq_none_iff
  rw [refusal?_eq_none_iff] at checks
  cases refused : session.world.chatRefusal? text with
  | none =>
      rw [refused] at sending checks
      simpa [DoneIff, sending.1] using checks
  | some error =>
      rw [refused] at sending checks
      simpa [DoneIff, sending] using checks

end Session

/-! ### Sends and polls one after another -/

/-- What happens around the outbox of a session. -/
inductive Traffic (H : Type) where
  | sendLocal (caller : Caller) (state : AvatarState)
  | sendChat (text : String)
  | poll
  /-- Anything else happens to the session. -/
  | meanwhile (change : Session H → Session H)

namespace Session

variable {H : Type} [ReflectionHost H]

/-- What traffic makes of a session. -/
def pass (session : Session H) : Traffic H → Session H
  | .sendLocal caller state => (session.sendLocal caller state).1
  | .sendChat text => (session.onWorld (·.sendChat text)).1
  | .poll => session.poll.1
  | .meanwhile change => change session

/-- What traffic makes of a session, one after another. -/
def passAll (session : Session H) (traffic : List (Traffic H)) : Session H :=
  traffic.foldl pass session

/-- The message of a send that succeeds: a local write under the identity of the local entity,
or a chat line. -/
def sent? (session : Session H) : Traffic H → Option Message
  | .sendLocal caller state =>
    match (session.sendLocal caller state).2, session.world.replica.localEntity with
    | .ok (), some id => some (.humanUpdate (state.withId id))
    | _, _ => none
  | .sendChat text =>
    match (session.onWorld (·.sendChat text)).2 with
    | .ok () => some (.chat text)
    | .error _ => none
  | .poll | .meanwhile _ => none

/-- The frame that a poll gives. -/
def polled? (session : Session H) : Traffic H → Option Bytes
  | .poll => session.poll.2
  | _ => none

/-- The messages of the sends that succeed along the traffic. -/
def sends : Session H → List (Traffic H) → List Message
  | _, [] => []
  | session, next :: rest => (session.sent? next).toList ++ sends (session.pass next) rest

/-- The frames polled along the traffic. -/
def polls : Session H → List (Traffic H) → List Bytes
  | _, [] => []
  | session, next :: rest => (session.polled? next).toList ++ polls (session.pass next) rest

/-- All along, nothing but sends and polls touches the outbox: the channel is neither closed nor
cleared. -/
def Undisturbed : Session H → List (Traffic H) → Prop
  | _, [] => True
  | session, next :: rest =>
    (∀ change, next = .meanwhile change →
        (change session).world.outbox = session.world.outbox) ∧
      Undisturbed (session.pass next) rest

/-- One step of the traffic. -/
theorem exchange_pass (session : Session H) (next : Traffic H)
    (calm : ∀ change, next = .meanwhile change →
      (change session).world.outbox = session.world.outbox) :
    session.world.outbox.Exchange (session.polled? next).toList (session.sent? next).toList
      (session.pass next).world.outbox := by
  cases next with
  | sendLocal caller state =>
      have sending := session.sendLocal_spec caller state
      cases written : session.localWrite? state with
      | none =>
          rw [written] at sending
          obtain ⟨error, refused⟩ := sending
          simp only [sent?, pass, refused]
          exact .still rfl
      | some id =>
          rw [written] at sending
          simp only [sent?, sending.1, (localWrite?_eq_some_iff.mp written).2.2]
          exact sending.2
  | sendChat text =>
      have sending := session.sendChat_spec text
      cases refused : session.world.chatRefusal? text with
      | none =>
          rw [refused] at sending
          simp only [sent?, sending.1]
          exact sending.2
      | some error =>
          rw [refused] at sending
          simp only [sent?, pass, sending]
          exact .still rfl
  | poll => exact exchange_poll session
  | meanwhile change => exact .still (calm change rfl)

theorem exchange_passAll {session : Session H} {traffic : List (Traffic H)}
    (undisturbed : session.Undisturbed traffic) :
    session.world.outbox.Exchange (session.polls traffic) (session.sends traffic)
      (session.passAll traffic).world.outbox := by
  induction traffic generalizing session with
  | nil => exact .still rfl
  | cons next rest ih => exact (exchange_pass session next undisturbed.1).append (ih undisturbed.2)

/-! ### What arrives -/

/-- A peer takes over what the sender lets pass, if it allows chat texts as long. -/
theorem receive_bytes {P : Type} [ReflectionHost P] {peer : Session P}
    (listens : peer.world.channel.closed = false) {settings : ReplicationSettings}
    (limit : peer.world.settings.replication.maxChatLength = settings.maxChatLength)
    {message : Message} (unrefused : refusal? settings message = none) (now : Nat) :
    (peer.receive now message.bytes).2 = .ok message.kind := by
  obtain ⟨decodes, valid, short⟩ := admits_bytes unrefused
  have admitted : Admits peer.world.settings.replication message.bytes message :=
    ⟨decodes, valid, limit ▸ short⟩
  rw [receive_of_accept listens now (accept_eq_ok_iff.mpr admitted)]

/-- Whatever is sent and polled over a channel that nothing else disturbs: what was polled and
what still waits are decoded, one for one and in order, to the messages of the successful sends,
and the counter of sent frames went up by their number.  At any point a send succeeds exactly if
nothing speaks against it, and one that fails does nothing.  Every polled frame is taken over by
every open peer that allows chat texts as long, as a message of its kind. -/
theorem polls_decode_to_sends (session : Session H) (traffic : List (Traffic H))
    (fresh : session.world.channel.outgoing = []) (undisturbed : session.Undisturbed traffic) :
    let after := (session.passAll traffic).world.channel
    let sends := session.sends traffic
    let polls := session.polls traffic
    (polls ++ after.outgoing).map Message.decode = sends.map .ok ∧
      after.sent = session.world.channel.sent + sends.length ∧
      (∀ earlier : List (Traffic H),
        let here := session.passAll earlier
        (∀ caller state, here.DoneIff (here.sendLocal caller state)
          (here.world.channel.closed = false ∧ state.isValid = true ∧
            ∃ id, here.world.replica.localEntity = some id)) ∧
          ∀ text, here.DoneIff (here.onWorld (·.sendChat text))
            (here.world.channel.closed = false ∧ (Message.chat text).isValid = true ∧
              text.utf8ByteSize ≤ min here.world.settings.replication.maxChatLength 512)) ∧
      ∀ (P : Type) [ReflectionHost P] (peer : Session P) (now : Nat),
        peer.world.channel.closed = false →
        peer.world.settings.replication.maxChatLength =
          session.world.settings.replication.maxChatLength →
        ∀ frame ∈ polls, ∃ message ∈ sends, Message.decode frame = .ok message ∧
          (peer.receive now frame).2 = .ok message.kind := by
  intro after sends polls
  have exchanged := exchange_passAll undisturbed
  have frames : polls ++ after.outgoing = sends.map Message.bytes := by
    have start : session.world.outbox.waiting = [] := fresh
    have balanced := exchanged.frames
    rw [start, List.nil_append] at balanced
    exact balanced
  refine ⟨?_, exchanged.sent, fun earlier => ?_, ?_⟩
  · rw [frames, List.map_map]
    apply List.map_congr_left
    intro message sending
    exact (admits_bytes (exchanged.unrefused message sending)).decodes
  · exact ⟨(session.passAll earlier).sendLocal_doneIff, (session.passAll earlier).sendChat_doneIff⟩
  · intro P _ peer now listens limit frame polled
    have among : frame ∈ sends.map Message.bytes := frames ▸ List.mem_append_left _ polled
    obtain ⟨message, sending, rfl⟩ := List.mem_map.mp among
    have unrefused := exchanged.unrefused message sending
    exact ⟨message, sending, (admits_bytes unrefused).decodes,
      receive_bytes listens limit unrefused now⟩

/-- There is no local entity for the first write, one chat text is over the limit and one is
empty; what is sent besides arrives, and the write from another thread still waits. -/
theorem polls_decode_to_sends_within_limit :
    let host : CountedHost (Loaded TableStore) := { store := { table := {} } }
    let settings : Settings :=
      { replication := { maxChatLength := 3 }, scheduler := { softCap := 1 } }
    let session : Session (Loaded TableStore) := .start host {} settings
    let traffic : List (Traffic (Loaded TableStore)) :=
      [ .sendLocal .gameThread (.resting 1)
      , .meanwhile fun session => session.mapWorld (·.setLocalEntity 7)
      , .sendLocal .gameThread (.resting 1), .sendChat "abc", .sendChat "abcd", .poll
      , .sendLocal .elsewhere (.resting 2), .sendChat "", .poll ]
    session.world.channel.outgoing = [] ∧ session.Undisturbed traffic ∧
      session.sends traffic =
        [.humanUpdate (.resting 7), .chat "abc", .humanUpdate (.resting 7)] ∧
      (session.polls traffic).length = 2 ∧
      (session.polls traffic ++ (session.passAll traffic).world.channel.outgoing).map
          Message.decode =
        [.ok (.humanUpdate (.resting 7)), .ok (.chat "abc"), .ok (.humanUpdate (.resting 7))] ∧
      (session.passAll traffic).world.channel.sent = 3 ∧
      ∀ frame ∈ session.polls traffic, ((session.passAll traffic).receive 0 frame).2.isOk := by
  intro host settings session traffic
  have undisturbed : session.Undisturbed traffic := by
    refine ⟨nofun, ?_, nofun, nofun, nofun, nofun, nofun, nofun, nofun, trivial⟩
    intro change same
    cases same
    rfl
  have sends : session.sends traffic =
      [.humanUpdate (.resting 7), .chat "abc", .humanUpdate (.resting 7)] := by decide +kernel
  obtain ⟨decoded, counted, -, accepted⟩ := polls_decode_to_sends session traffic rfl undisturbed
  rw [sends] at decoded counted accepted
  refine ⟨rfl, undisturbed, sends, by decide +kernel, decoded, counted, ?_⟩
  intro frame polled
  obtain ⟨message, -, -, taken⟩ := accepted _ (session.passAll traffic) 0 (by decide +kernel)
    (by decide +kernel) frame polled
  rw [taken]
  rfl

end Session

end ReplicaBridge
