/-
Module: ReplicaBridge.Proofs.FrameCodec
Purpose: Encoding and decoding are inverse to each other, between the messages whose text is
  not too long and the frames of the format.
Main exports: Wire.encode_eq, Wire.decode_eq_ok_iff, Wire.encode_iff_decode
-/
import ReplicaBridge.Proofs.FrameGrammar

namespace ReplicaBridge.Wire

open Bits

namespace Message

theorem tooLong?_eq_some_iff {message : Message} {error : StreamError} :
    message.tooLong? = some error ↔ ∃ text, message = .chat text ∧
      512 < (Text.utf8 text).length ∧ error = .stringTooLong (Text.utf8 text).length 512 := by
  constructor
  · intro refused
    cases message with
    | chat text =>
        rw [tooLong?] at refused
        split at refused
        · rename_i long
          cases refused
          exact ⟨text, rfl, long, rfl⟩
        · cases refused
    | _ => cases refused
  · rintro ⟨text, rfl, long, rfl⟩
    exact if_pos long

theorem toBits_payload (message : Message) :
    message.payload.flatMap Field.toBits = bitsOf message.payloadBytes := by
  cases message <;>
    simp [payload, avatarFields, payloadBytes, avatarBytes, vec3Bytes, quatBytes, Field.toBits]

theorem refusal?_payload (message : Message) :
    message.payload.findSome? Field.refusal? = message.tooLong? := by
  cases message with
  | chat text =>
      have limit : BitStream.textLimit maxChatBytes = maxChatBytes := rfl
      simp only [payload, List.findSome?_cons, List.findSome?_nil, Field.refusal?, tooLong?, limit]
      split <;> simp_all
  | _ => rfl

end Message

/-- The frame of a message is made of its bytes. -/
theorem encode_eq (message : Message) : message.encode = match message.tooLong? with
    | some error => .error error
    | none => .ok message.bytes := by
  have empty : BitStream.writer = BitStream.ofBits [] := rfl
  have tag : (Field.u8 message.kind.tag).toBits = bitsOf [message.kind.tag] := by
    rw [Field.toBits, Bytes.ofNatLE, Bytes.ofNatLE, UInt8.ofNat_toNat]
  have first : (Field.u8 message.kind.tag).refusal? = none := rfl
  rw [Message.encode, empty, BitStream.writeAll_ofBits, List.findSome?_cons, first]
  dsimp only
  rw [Message.refusal?_payload]
  cases message.tooLong? with
  | some error => rfl
  | none =>
      have buffer : pack (bitsOf [message.kind.tag] ++ bitsOf message.payloadBytes) =
          message.bytes := by
        rw [← bitsOf_append, pack_bitsOf]
        rfl
      dsimp only
      rw [List.nil_append, List.flatMap_cons, Message.toBits_payload, tag]
      exact congrArg Except.ok buffer

/-- Frames are read back as what they are the bytes of. -/
theorem decode_eq_ok_iff {frame : Bytes} {message : Message} :
    Message.decode frame = .ok message ↔ message.tooLong? = none ∧ message.bytes = frame := by
  constructor
  · intro decoded
    obtain ⟨written, fits, rfl⟩ := bytes_of_isFrame (decode_ok_iff.mp ⟨message, decoded⟩)
    rw [decode_bytes fits, Except.ok.injEq] at decoded
    exact decoded ▸ ⟨fits, rfl⟩
  · rintro ⟨fits, rfl⟩
    exact decode_bytes fits

/-- Encoding and decoding are inverse to each other: a message has a frame unless its text is
too long, and its frame is the only byte string that is decoded to it. -/
theorem encode_iff_decode :
    (∀ message error, Message.encode message = .error error ↔
      ∃ text, message = .chat text ∧ 512 < (Text.utf8 text).length ∧
        error = .stringTooLong (Text.utf8 text).length 512) ∧
    ∀ message frame, Message.encode message = .ok frame ↔
      Message.decode frame = .ok message := by
  constructor
  · intro message error
    rw [encode_eq, ← Message.tooLong?_eq_some_iff]
    cases message.tooLong? with
    | some found => simp
    | none => simp
  · intro message frame
    rw [decode_eq_ok_iff, encode_eq]
    cases message.tooLong? with
    | some error => simp
    | none => simp

end ReplicaBridge.Wire
