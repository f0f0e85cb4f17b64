/-
Module: ReplicaBridge.Proofs.FrameGrammar
Purpose: The frames of the format, given by their bytes.  Exactly these are decoded; every
  other byte string is refused for the first thing that is wrong with it, and none makes the
  decoder unwind.
Main exports: Wire.Message.bytes, Wire.IsFrame, Wire.Refused, Wire.decode_bytes,
  Wire.bytes_of_isFrame, Wire.decode_ok_iff, Wire.decode_error_iff, Wire.decode_grammar
-/
import ReplicaBridge.Proofs.FrameReading
import ReplicaBridge.Proofs.GuardedReading

namespace ReplicaBridge.Wire

open Bits

/-! ### The bytes of a message -/

namespace Message

/-- The bytes behind the tag. -/
def payloadBytes : Message → Bytes
  | .humanSpawn state | .humanUpdate state => avatarBytes state
  | .humanDespawn id => Bytes.ofNatLE 8 id.toNat
  | .envSeason season => Bytes.ofNatLE 1 season.toNat
  | .envClockAdvance hours => Bytes.ofNatLE 4 hours.toUInt32.toNat
  | .chat text => Bytes.ofNatLE 2 (Text.utf8 text).length ++ Text.utf8 text

/-- The bytes of the frame of a message. -/
def bytes (message : Message) : Bytes :=
  message.kind.tag :: message.payloadBytes

/-- What is wrong with encoding a message, if anything. -/
def tooLong? : Message → Option StreamError
  | .chat text =>
    if maxChatBytes < (Text.utf8 text).length then
      some (.stringTooLong (Text.utf8 text).length maxChatBytes)
    else none
  | _ => none

theorem tooLong?_chat {text : String} :
    tooLong? (.chat text) = none ↔ (Text.utf8 text).length ≤ 512 := by
  rw [tooLong?]
  split
  · rename_i long
    exact iff_of_false nofun (Nat.not_le.mpr long)
  · rename_i short
    exact iff_of_true rfl (Nat.not_lt.mp short)

theorem tooLong?_fixed {message : Message} (noText : message.kind ≠ .chat) :
    message.tooLong? = none := by
  cases message with
  | chat text => exact absurd rfl noText
  | _ => rfl

end Message

/-! ### Decoding step by step -/

theorem ofTag?_eq_some_iff {tag : UInt8} {kind : MessageKind} :
    MessageKind.ofTag? tag = some kind ↔ kind.tag = tag := by
  constructor
  · intro found
    have same := List.find?_some found
    exact eq_of_beq same
  · intro same
    rw [← same]
    exact MessageKind.ofTag?_tag kind

/-- What a reader answers when it must use up the stream. -/
def readAll (reader : Reader Message) (stream : BitStream) : Except StreamError Message :=
  match reader stream with
  | .error error => .error error
  | .ok (message, after) =>
    match after.finish with
    | .error error => .error error
    | .ok () => .ok message

theorem decode_nil : Message.decode [] = .error (.truncated 8 0) := rfl

/-- The tag says how the rest is read. -/
theorem decode_cons (tag : UInt8) (payload : Bytes) :
    Message.decode (tag :: payload) = match MessageKind.ofTag? tag with
      | none => .error (.unknownTag tag)
      | some kind => readAll (Walk.payload kind) (between [tag] payload) := by
  have one : Bytes.ofNatLE 1 tag.toNat = [tag] := by
    rw [Bytes.ofNatLE, Bytes.ofNatLE, UInt8.ofNat_toNat]
  have start : BitStream.reader (tag :: payload) = between [] ([tag] ++ payload) := rfl
  have read := reads_u8.reads tag trivial [] payload
  rw [one, List.nil_append] at read
  rw [Message.decode, start]
  simp only [Walk.frame, Walk.kind, StateT.run, bind, StateT.bind, read, Except.bind]
  cases MessageKind.ofTag? tag with
  | none => rfl
  | some kind =>
      simp only [pure, StateT.pure, Except.pure, readAll]
      cases Walk.payload (m := Reader) kind (between [tag] payload) with
      | error error => rfl
      | ok taken =>
          obtain ⟨message, after⟩ := taken
          simp only [FrameSource.finish]
          cases after.finish with
          | error error => rfl
          | ok _ => rfl

/-! ### The grammar -/

/-- The size of the payload behind a tag, for the tags whose payloads have one size. -/
def payloadSize? (tag : UInt8) : Option Nat :=
  if tag = 0x01 ∨ tag = 0x03 then some 52
  else if tag = 0x02 then some 8
  else if tag = 0x10 then some 1
  else if tag = 0x11 then some 4
  else none

/-- The tag of the frames that carry a text. -/
def textTag : UInt8 := 0x20

/-- The frames of the format: a tag and a payload of its size, or the text tag, a
little-endian length of at most 512 and the UTF-8 bytes of a text of that length. -/
inductive IsFrame : Bytes → Prop where
  | fixed {tag : UInt8} {size : Nat} {payload : Bytes} (named : payloadSize? tag = some size)
      (full : payload.length = size) : IsFrame (tag :: payload)
  | text {low high : UInt8} {text : String}
      (counted : (Text.utf8 text).length = textLength low high)
      (short : textLength low high ≤ 512) :
      IsFrame (textTag :: low :: high :: Text.utf8 text)

/-- The widths of the numbers behind a tag; behind the text tag it is the length. -/
def numbers (tag : UInt8) : List Nat :=
  if tag = 0x01 ∨ tag = 0x03 then avatarWidths
  else if tag = 0x02 then [8]
  else if tag = 0x10 then [1]
  else if tag = 0x11 then [4]
  else if tag = textTag then [2]
  else []

/-- What is wrong with a byte string that is no frame. -/
inductive Refused : Bytes → StreamError → Prop where
  | empty : Refused [] (.truncated 8 0)
  | unknownTag {tag : UInt8} {payload : Bytes} (unnamed : payloadSize? tag = none)
      (noText : tag ≠ textTag) : Refused (tag :: payload) (.unknownTag tag)
  /-- The payload, or the length of a text, ends early. -/
  | cut {tag : UInt8} {payload : Bytes} {needed left : Nat}
      (missing : shortfall? (numbers tag) payload.length = some (needed, left)) :
      Refused (tag :: payload) (.truncated needed left)
  | surplus {tag : UInt8} {size : Nat} {payload extra : Bytes}
      (named : payloadSize? tag = some size) (full : payload.length = size)
      (more : extra ≠ []) :
      Refused (tag :: (payload ++ extra)) (.trailingBits (8 * extra.length))
  | textTooLong {low high : UInt8} {rest : Bytes} (long : 512 < textLength low high) :
      Refused (textTag :: low :: high :: rest) (.stringTooLong (textLength low high) 512)
  | textCut {low high : UInt8} {rest : Bytes} (short : textLength low high ≤ 512)
      (missing : rest.length < textLength low high) :
      Refused (textTag :: low :: high :: rest)
        (.truncated (8 * textLength low high) (8 * rest.length))
  /-- The bytes are there but no text has them; what follows them does not matter. -/
  | textInvalid {low high : UInt8} {content extra : Bytes} (short : textLength low high ≤ 512)
      (counted : content.length = textLength low high)
      (invalid : ∀ text, Text.utf8 text ≠ content) :
      Refused (textTag :: low :: high :: (content ++ extra)) .invalidUtf8
  | textSurplus {low high : UInt8} {text : String} {extra : Bytes}
      (short : textLength low high ≤ 512)
      (counted : (Text.utf8 text).length = textLength low high) (more : extra ≠ []) :
      Refused (textTag :: low :: high :: (Text.utf8 text ++ extra))
        (.trailingBits (8 * extra.length))

theorem payloadSize?_eq_none_iff {tag : UInt8} : payloadSize? tag = none ↔
    tag ≠ 0x01 ∧ tag ≠ 0x03 ∧ tag ≠ 0x02 ∧ tag ≠ 0x10 ∧ tag ≠ 0x11 := by
  grind [payloadSize?]

theorem numbers_eq_nil {tag : UInt8} (unnamed : payloadSize? tag = none)
    (noText : tag ≠ textTag) : numbers tag = [] := by
  obtain ⟨noSpawn, noUpdate, noDespawn, noSeason, noClock⟩ := payloadSize?_eq_none_iff.mp unnamed
  simp [numbers, noSpawn, noUpdate, noDespawn, noSeason, noClock, noText]

theorem ofTag?_eq_none {tag : UInt8} (unnamed : payloadSize? tag = none)
    (noText : tag ≠ textTag) : MessageKind.ofTag? tag = none := by
  apply Option.eq_none_iff_forall_ne_some.mpr
  intro kind found
  have same := ofTag?_eq_some_iff.mp found
  subst same
  cases kind with
  | chat => exact noText rfl
  | _ => cases unnamed

/-- A payload that is read as one value is read as the message with that value. -/
theorem Reads.message {α : Type} {reader : Reader α} {widths : List Nat} {bytes : α → Bytes}
    (content : Reads reader widths (fun _ => True) bytes) {make : α → Message}
    {kind : MessageKind} (same : ∀ value, (make value).payloadBytes = bytes value)
    (made : ∀ message : Message, message.kind = kind ↔ ∃ value, make value = message) :
    Reads (make <$> reader) widths (fun message => message.kind = kind)
      Message.payloadBytes := by
  apply content.map
  · intro value _
    exact ⟨(made _).mpr ⟨value, rfl⟩, same value⟩
  · intro message kinded
    obtain ⟨value, rfl⟩ := (made message).mp kinded
    exact ⟨value, trivial, rfl⟩

/-- The payload of a message without a text is read as the numbers behind its tag. -/
theorem reads_payload {kind : MessageKind} (noText : kind ≠ .chat) :
    Reads (Walk.payload kind) (numbers kind.tag) (fun message => message.kind = kind)
      Message.payloadBytes := by
  cases kind with
  | humanSpawn =>
      apply reads_avatar.message (fun _ => rfl)
      intro message
      cases message <;> simp [Message.kind]
  | humanUpdate =>
      apply reads_avatar.message (fun _ => rfl)
      intro message
      cases message <;> simp [Message.kind]
  | humanDespawn =>
      apply reads_u64.message (fun _ => rfl)
      intro message
      cases message <;> simp [Message.kind]
  | envSeason =>
      apply reads_u8.message (fun _ => rfl)
      intro message
      cases message <;> simp [Message.kind]
  | envClockAdvance =>
      apply reads_i32.message (fun _ => rfl)
      intro message
      cases message <;> simp [Message.kind]
  | chat => exact absurd rfl noText

/-- A tag whose payloads have one size names a kind of message without a text. -/
theorem exists_kind {tag : UInt8} {size : Nat} (named : payloadSize? tag = some size) :
    ∃ kind ≠ MessageKind.chat, kind.tag = tag ∧ (numbers tag).sum = size := by
  have known (kind : MessageKind) (same : tag = kind.tag) (noText : kind ≠ .chat)
      (sum : payloadSize? kind.tag = some (numbers kind.tag).sum) :
      ∃ kind ≠ MessageKind.chat, kind.tag = tag ∧ (numbers tag).sum = size := by
    subst same
    rw [named, Option.some.injEq] at sum
    exact ⟨kind, noText, rfl, sum.symm⟩
  by_cases spawn : tag = 0x01
  · exact known .humanSpawn spawn nofun rfl
  by_cases update : tag = 0x03
  · exact known .humanUpdate update nofun rfl
  by_cases despawn : tag = 0x02
  · exact known .humanDespawn despawn nofun rfl
  by_cases season : tag = 0x10
  · exact known .envSeason season nofun rfl
  by_cases clock : tag = 0x11
  · exact known .envClockAdvance clock nofun rfl
  rw [payloadSize?_eq_none_iff.mpr ⟨spawn, update, despawn, season, clock⟩] at named
  cases named

/-! ### What is decoded, and what is refused -/

/-- A message without a text is decoded from its bytes unless something follows them. -/
theorem decode_fixed {message : Message} (noText : message.kind ≠ .chat) (extra : Bytes) :
    Message.decode (message.bytes ++ extra) =
      if extra = [] then .ok message else .error (.trailingBits (8 * extra.length)) := by
  have read := (reads_payload noText).reads message rfl [message.kind.tag] extra
  rw [Message.bytes, List.cons_append, decode_cons, MessageKind.ofTag?_tag]
  simp only [readAll, read, finish_between]
  by_cases last : extra = []
  · rw [if_pos last, if_pos last]
  · rw [if_neg last, if_neg last]

section Fixed

variable {tag : UInt8} {size : Nat} (named : payloadSize? tag = some size)

include named

/-- Behind such a tag, the bytes of every payload of the right size are those of a message. -/
theorem bytes_fixed {payload : Bytes} (full : payload.length = size) :
    ∃ message : Message, message.kind ≠ .chat ∧ message.bytes = tag :: payload := by
  obtain ⟨kind, noText, rfl, sum⟩ := exists_kind named
  obtain ⟨message, rfl, rfl⟩ := (reads_payload noText).covers payload (full.trans sum.symm)
  exact ⟨message, noText, rfl⟩

/-- Where the payload ends early, the first number that is not all there is reported. -/
theorem decode_fixed_cut {payload : Bytes} {needed left : Nat}
    (missing : shortfall? (numbers tag) payload.length = some (needed, left)) :
    Message.decode (tag :: payload) = .error (.truncated needed left) := by
  obtain ⟨kind, noText, rfl, _⟩ := exists_kind named
  rw [decode_cons, MessageKind.ofTag?_tag]
  simp only [readAll, (reads_payload noText).cut [kind.tag] payload needed left missing]

end Fixed

/-- What is decoded behind the text tag. -/
theorem decode_text (payload : Bytes) : Message.decode (textTag :: payload) =
    match (between [textTag] payload).takeText maxChatBytes with
    | (_, .error error) => .error error
    | (after, .ok text) =>
      match after.finish with
      | .error error => .error error
      | .ok () => .ok (.chat text) := by
  have named : MessageKind.ofTag? textTag = some .chat := rfl
  rw [decode_cons, named]
  simp only [readAll, Walk.payload, Functor.map, StateT.map, FrameSource.text, bind, Except.bind]
  rcases (between [textTag] payload).takeText maxChatBytes with ⟨after, outcome⟩
  cases outcome with
  | error error => rfl
  | ok text => rfl

theorem decode_text_cut {payload : Bytes} {needed left : Nat}
    (missing : shortfall? [2] payload.length = some (needed, left)) :
    Message.decode (textTag :: payload) = .error (.truncated needed left) := by
  simp only [shortfall?] at missing
  split at missing
  · rename_i short
    cases missing
    have read : ((between [textTag] payload).takeText maxChatBytes).2 =
        .error (.truncated 16 (8 * payload.length)) := takeText_short [textTag] short
    rw [decode_text]
    split
    · rename_i taken
      rw [taken, Except.error.injEq] at read
      rw [read]
    · rename_i taken
      rw [taken] at read
      cases read
  · cases missing

/-- Where a text of the length that stands in front of it is there. -/
theorem decode_text_whole {low high : UInt8} {content : Bytes}
    (short : textLength low high ≤ 512) (counted : content.length = textLength low high)
    (extra : Bytes) : Message.decode (textTag :: low :: high :: (content ++ extra)) =
      match Text.ofUtf8? content with
      | none => .error .invalidUtf8
      | some text =>
        if extra = [] then .ok (.chat text) else .error (.trailingBits (8 * extra.length)) := by
  have limit : BitStream.textLimit maxChatBytes = 512 := rfl
  have enough : ¬ (content ++ extra).length < textLength low high := by
    rw [List.length_append]
    omega
  rw [decode_text, takeText_between, limit, if_neg (Nat.not_lt.mpr short), if_neg enough,
    List.take_left' counted, List.drop_left' counted]
  cases Text.ofUtf8? content with
  | none => rfl
  | some text =>
      simp only [finish_between]
      by_cases last : extra = []
      · rw [if_pos last, if_pos last]
      · rw [if_neg last, if_neg last]

/-- A byte string is refused for what is wrong with it. -/
theorem decode_of_refused {frame : Bytes} {error : StreamError} (refused : Refused frame error) :
    Message.decode frame = .error error := by
  have limit : BitStream.textLimit maxChatBytes = 512 := rfl
  cases refused with
  | empty => exact decode_nil
  | unknownTag unnamed noText => rw [decode_cons, ofTag?_eq_none unnamed noText]
  | @cut tag payload needed left missing =>
      cases named : payloadSize? tag with
      | some size => exact decode_fixed_cut named missing
      | none =>
          by_cases text : tag = textTag
          · subst text
            exact decode_text_cut missing
          · rw [numbers_eq_nil named text] at missing
            cases missing
  | surplus named full more =>
      obtain ⟨message, noText, bytes⟩ := bytes_fixed named full
      rw [← List.cons_append, ← bytes, decode_fixed noText, if_neg more]
  | textTooLong long => rw [decode_text, takeText_between, limit, if_pos long]
  | textCut short missing =>
      rw [decode_text, takeText_between, limit, if_neg (Nat.not_lt.mpr short), if_pos missing]
  | textInvalid short counted invalid =>
      rw [decode_text_whole short counted]
      cases found : Text.ofUtf8? _ with
      | none => rfl
      | some text => exact absurd (Text.ofUtf8?_eq_some_iff.mp found) (invalid text)
  | textSurplus short counted more =>
      rw [decode_text_whole short counted, Text.ofUtf8?_eq_some_iff.mpr rfl]
      exact if_neg more

/-! ### Every byte string is one or the other -/

theorem toNatLE_pair (low high : UInt8) : Bytes.toNatLE [low, high] = textLength low high := rfl

/-- A length that fits in two bytes stands in front of its text as those. -/
theorem ofNatLE_two {length : Nat} (fits : length ≤ 512) :
    ∃ low high, Bytes.ofNatLE 2 length = [low, high] ∧ textLength low high = length := by
  refine ⟨UInt8.ofNat length, UInt8.ofNat (length / 256), rfl, ?_⟩
  rw [← toNatLE_pair, toNatLE_eq_number]
  have whole : [UInt8.ofNat length, UInt8.ofNat (length / 256)] = Bytes.ofNatLE 2 length := rfl
  rw [whole, number_bitsOf_ofNatLE, Nat.mod_eq_of_lt (by omega)]

/-- The frame of a text that is not too long. -/
theorem bytes_chat {text : String} (short : (Text.utf8 text).length ≤ 512) :
    ∃ low high, Message.bytes (.chat text) = textTag :: low :: high :: Text.utf8 text ∧
      (Text.utf8 text).length = textLength low high := by
  obtain ⟨low, high, written, counted⟩ := ofNatLE_two short
  refine ⟨low, high, ?_, counted.symm⟩
  rw [Message.bytes, Message.payloadBytes, written]
  rfl

/-- The length in front of a text can be nothing but its length. -/
theorem bytes_chat_eq {low high : UInt8} {text : String}
    (counted : (Text.utf8 text).length = textLength low high) :
    Message.bytes (.chat text) = textTag :: low :: high :: Text.utf8 text := by
  have back : Bytes.ofNatLE 2 (textLength low high) = [low, high] := by
    rw [← toNatLE_pair]
    exact Bytes.ofNatLE_toNatLE [low, high]
  rw [Message.bytes, Message.payloadBytes, counted, back]
  rfl

/-- A message that is not too long is decoded from its bytes unless something follows them. -/
theorem decode_bytes_append {message : Message} (fits : message.tooLong? = none)
    (extra : Bytes) : Message.decode (message.bytes ++ extra) =
      if extra = [] then .ok message else .error (.trailingBits (8 * extra.length)) := by
  by_cases carries : message.kind = .chat
  · cases message with
    | chat text =>
        obtain ⟨low, high, bytes, counted⟩ := bytes_chat (Message.tooLong?_chat.mp fits)
        have short : textLength low high ≤ 512 := counted ▸ Message.tooLong?_chat.mp fits
        have decoded := decode_text_whole short counted extra
        rw [Text.ofUtf8?_eq_some_iff.mpr rfl] at decoded
        rw [bytes]
        exact decoded
    | _ => cases carries
  · exact decode_fixed carries extra

theorem decode_bytes {message : Message} (fits : message.tooLong? = none) :
    Message.decode message.bytes = .ok message := by
  have decoded := decode_bytes_append fits []
  rw [List.append_nil] at decoded
  exact decoded

/-- A frame of the format is the bytes of a message. -/
theorem bytes_of_isFrame {frame : Bytes} (wellFormed : IsFrame frame) :
    ∃ message : Message, message.tooLong? = none ∧ message.bytes = frame := by
  cases wellFormed with
  | fixed named full =>
      obtain ⟨message, noText, bytes⟩ := bytes_fixed named full
      exact ⟨message, Message.tooLong?_fixed noText, bytes⟩
  | @text low high text counted short =>
      exact ⟨.chat text, Message.tooLong?_chat.mpr (counted ▸ short), bytes_chat_eq counted⟩

/-- Behind the text tag. -/
theorem isFrame_or_refused_text (payload : Bytes) :
    IsFrame (textTag :: payload) ∨ ∃ error, Refused (textTag :: payload) error := by
  match payload with
  | [] => exact .inr ⟨_, .cut rfl⟩
  | [_] => exact .inr ⟨_, .cut rfl⟩
  | low :: high :: rest =>
      -- The order of the questions is that of the decoder: the first that fails is reported.
      by_cases long : 512 < textLength low high
      · exact .inr ⟨_, .textTooLong long⟩
      have short : textLength low high ≤ 512 := Nat.le_of_not_lt long
      by_cases missing : rest.length < textLength low high
      · exact .inr ⟨_, .textCut short missing⟩
      have counted := List.length_take_of_le (Nat.le_of_not_lt missing)
      rw [← List.take_append_drop (textLength low high) rest]
      cases found : Text.ofUtf8? (rest.take (textLength low high)) with
      | none =>
          refine .inr ⟨_, .textInvalid short counted ?_⟩
          intro text same
          rw [Text.ofUtf8?_eq_some_iff.mpr same] at found
          cases found
      | some text =>
          rw [← Text.ofUtf8?_eq_some_iff.mp found] at counted ⊢
          by_cases last : rest.drop (textLength low high) = []
          · rw [last, List.append_nil]
            exact .inl (.text counted short)
          · exact .inr ⟨_, .textSurplus short counted last⟩

/-- Every byte string is a frame or is refused. -/
theorem isFrame_or_refused (frame : Bytes) : IsFrame frame ∨ ∃ error, Refused frame error := by
  cases frame with
  | nil => exact .inr ⟨_, .empty⟩
  | cons tag payload =>
      cases named : payloadSize? tag with
      | some size =>
          cases missing : shortfall? (numbers tag) payload.length with
          | some short => exact .inr ⟨_, .cut missing⟩
          | none =>
              obtain ⟨_, _, _, sum⟩ := exists_kind named
              have enough : size ≤ payload.length := sum ▸ shortfall?_eq_none_iff.mp missing
              have full := List.length_take_of_le enough
              rw [← List.take_append_drop size payload]
              by_cases last : payload.drop size = []
              · rw [last, List.append_nil]
                exact .inl (.fixed named full)
              · exact .inr ⟨_, .surplus named full last⟩
      | none =>
          by_cases text : tag = textTag
          · subst text
            exact isFrame_or_refused_text payload
          · exact .inr ⟨_, .unknownTag named text⟩

/-- Exactly the frames of the format are decoded. -/
theorem decode_ok_iff {frame : Bytes} :
    (∃ message, Message.decode frame = .ok message) ↔ IsFrame frame := by
  constructor
  · rintro ⟨message, decoded⟩
    cases isFrame_or_refused frame with
    | inl wellFormed => exact wellFormed
    | inr refused =>
        obtain ⟨error, refused⟩ := refused
        rw [decode_of_refused refused] at decoded
        cases decoded
  · intro wellFormed
    obtain ⟨message, fits, rfl⟩ := bytes_of_isFrame wellFormed
    exact ⟨message, decode_bytes fits⟩

/-- Every other byte string is refused for one reason. -/
theorem decode_error_iff {frame : Bytes} {error : StreamError} :
    Message.decode frame = .error error ↔ Refused frame error := by
  constructor
  · intro decoded
    cases isFrame_or_refused frame with
    | inl wellFormed =>
        obtain ⟨message, accepted⟩ := decode_ok_iff.mpr wellFormed
        rw [accepted] at decoded
        cases decoded
    | inr refused =>
        obtain ⟨found, refused⟩ := refused
        rw [decode_of_refused refused, Except.error.injEq] at decoded
        exact decoded ▸ refused
  · exact decode_of_refused

/-- A frame says where it ends: nothing can be added to it. -/
theorem isFrame_append {frame more : Bytes} (whole : IsFrame frame)
    (longer : IsFrame (frame ++ more)) : more = [] := by
  obtain ⟨message, fits, rfl⟩ := bytes_of_isFrame whole
  obtain ⟨other, decoded⟩ := decode_ok_iff.mpr longer
  by_cases last : more = []
  · exact last
  · rw [decode_bytes_append fits, if_neg last] at decoded
    cases decoded

/-- Decoding accepts exactly the frames of the format, none of which goes on with another; it
refuses every other byte string for what is wrong with it, and it never unwinds. -/
theorem decode_grammar :
    (∀ frame, (∃ message, Message.decode frame = .ok message) ↔ IsFrame frame) ∧
    (∀ frame error, Message.decode frame = .error error ↔ Refused frame error) ∧
    (∀ frame more, more ≠ [] → ¬ (IsFrame frame ∧ IsFrame (frame ++ more))) ∧
    ∀ frame, Message.decodeGuarded frame = (Message.decode frame).mapError .refused := by
  refine ⟨fun _ => decode_ok_iff, fun _ _ => decode_error_iff, ?_, decodeGuarded_eq⟩
  rintro frame more nonempty ⟨whole, longer⟩
  exact nonempty (isFrame_append whole longer)

end ReplicaBridge.Wire
