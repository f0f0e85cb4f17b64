/-
Module: ReplicaBridge.Proofs.GuardedReading
Purpose: Reading with every access to the buffer checked.  A reader that looks outside of the
  buffer, or asks for more room than there is, unwinds.  Frames are read without either, so
  the checks change nothing: decoding answers on every byte string.
Main exports: Wire.Guarded, Wire.unchecked, Wire.FrameSource.Morphism, Wire.uncheckedMorphism,
  Wire.Message.decodeGuarded, Wire.decodeGuarded_eq
-/
import ReplicaBridge.Fault
import ReplicaBridge.Proofs.StreamLayout
import ReplicaBridge.Wire.Frame

namespace ReplicaBridge.Wire

open Bits

/-! ### Reading with checks -/

/-- Reading that can be refused and can unwind. -/
abbrev Guarded := StateT BitStream (Except (Halt StreamError))

namespace Guarded

variable {α : Type}

def refuse (error : StreamError) : Guarded α :=
  throw (.refused error)

/-- Unwind if something is wrong. -/
def check (fault? : Option Fault) : Guarded Unit :=
  match fault? with
  | some fault => throw (.unwound fault)
  | none => return

/-- The bytes of the buffer from `start` up to `stop`, which must lie in it. -/
def access (start stop : Nat) : Guarded Bytes := do
  let stream ← get
  check (Fault.ofRange? start stop stream.buffer.length)
  return Bytes.slice stream.buffer start (stop - start)

def need (bits : Nat) : Guarded Unit := do
  match (← get).need bits with
  | .error error => refuse error
  | .ok () => return

def advance (bits : Nat) : Guarded Unit :=
  modify (·.advance bits)

def bit : Guarded Bool := do
  need 1
  let stream ← get
  let byte ← access (stream.cursor / 8) (stream.cursor / 8 + 1)
  advance 1
  return bitAt byte (stream.cursor % 8)

/-- The number made of the next bits, one by one. -/
def bits : (count : Nat) → Guarded Nat
  | 0 => return 0
  | count + 1 => do
    let first ← bit
    let later ← bits count
    return first.toNat + 2 * later

/-- A number of `width` bytes.  The conversion of bytes to a number takes from 1 to 8 of
them. -/
def uint (width : Nat) : Guarded Nat := do
  need (width * 8)
  let stream ← get
  if stream.isAligned then
    let bytes ← access (stream.cursor / 8) (stream.cursor / 8 + width)
    check (Fault.ofRange? 1 width 8)
    advance (width * 8)
    return Bytes.toNatLE bytes
  else bits (width * 8)

/-- The next bytes, one by one. -/
def bytes : (count : Nat) → Guarded Bytes
  | 0 => return []
  | count + 1 => do
    let first ← uint 1
    let later ← bytes count
    return UInt8.ofNat first :: later

/-- A text; room is set aside for its bytes before they are read. -/
def text (limit : Nat) : Guarded String := do
  let length ← uint 2
  if BitStream.textLimit limit < length then
    refuse (.stringTooLong length (BitStream.textLimit limit))
  else
    need (length * 8)
    check (Fault.ofSize? length)
    match Text.ofUtf8? (← bytes length) with
    | some text => return text
    | none => refuse .invalidUtf8

/-- The end of the stream: what is left of the last byte is shifted out of it. -/
def finish : Guarded Unit := do
  let stream ← get
  let left := stream.remaining
  if 8 ≤ left then refuse (.trailingBits left)
  else if left = 0 then return
  else
    let last := stream.buffer.length - 1
    let byte ← access last (last + 1)
    if Bytes.toNatLE byte >>> (8 - left) = 0 then return
    else refuse (.trailingBits left)

end Guarded

instance : FrameSource Guarded where
  uint := Guarded.uint
  text := Guarded.text
  finish := Guarded.finish
  refuse := Guarded.refuse

/-- Decoding with checks. -/
def Message.decodeGuarded (frame : Bytes) : Except (Halt StreamError) Message :=
  ((Walk.frame : Guarded Message).run (BitStream.reader frame)).map (·.1)

/-! ### What raises no fault -/

/-- Reading without checks, which never unwinds. -/
def unchecked {α : Type} (reader : Reader α) : Guarded α :=
  fun stream => (reader stream).mapError .refused

section Outcomes

variable {ε δ α β : Type}

@[simp] theorem throw_bind (error : ε) (next : α → Except ε β) :
    (throw error >>= next) = throw error := rfl

@[simp] theorem mapError_ok (change : ε → δ) (value : α) :
    (Except.ok value).mapError change = pure value := rfl

@[simp] theorem mapError_error (change : ε → δ) (error : ε) :
    (Except.error error : Except ε α).mapError change = throw (change error) := rfl

end Outcomes

namespace Guarded

variable {stream : BitStream}

@[simp] theorem run_refuse {α : Type} (error : StreamError) :
    (refuse error : Guarded α).run stream = throw (.refused error) := rfl

theorem run_access {start stop : Nat} (order : start ≤ stop)
    (inside : stop ≤ stream.buffer.length) : (access start stop).run stream =
      pure (Bytes.slice stream.buffer start (stop - start), stream) := by
  have sound := Fault.ofRange?_eq_none_iff.mpr ⟨order, inside⟩
  simp [access, sound, check]

theorem run_need {bits : Nat} (enough : bits ≤ stream.remaining) :
    (need bits).run stream = pure ((), stream) := by
  simp [need, BitStream.need, Nat.not_lt.mpr enough]

theorem run_need_short {bits : Nat} (short : stream.remaining < bits) :
    (need bits).run stream = throw (.refused (.truncated bits stream.remaining)) := by
  simp [need, BitStream.need, short]

/-- The byte of a bit that is left is in the buffer. -/
theorem run_bit (enough : 1 ≤ stream.remaining) :
    bit.run stream = pure (bitAt stream.buffer stream.cursor, stream.advance 1) := by
  have inside : stream.cursor / 8 + 1 ≤ stream.buffer.length := by
    unfold BitStream.remaining at enough
    omega
  have same : bitAt (Bytes.slice stream.buffer (stream.cursor / 8) 1) (stream.cursor % 8) =
      bitAt stream.buffer stream.cursor := by
    have first : stream.cursor % 8 / 8 = 0 := Nat.div_eq_of_lt (Nat.mod_lt _ (by decide))
    simp [bitAt, Bytes.slice, first]
  simp [bit, run_need enough, run_access (Nat.le_succ _) inside, advance, same]

theorem run_bits {count : Nat} (enough : count ≤ stream.remaining) : (bits count).run stream =
    pure (gather stream.buffer stream.cursor count, stream.advance count) := by
  induction count generalizing stream with
  | zero => rfl
  | succ count ih =>
      have first : 1 ≤ stream.remaining := by omega
      have later : count ≤ (stream.advance 1).remaining := by
        simp only [BitStream.remaining, BitStream.advance] at enough ⊢
        omega
      have moved : (stream.advance 1).advance count = stream.advance (count + 1) := by
        simp [BitStream.advance, Nat.add_assoc, Nat.add_comm 1]
      simp only [bits, StateT.run_bind, run_bit first, pure_bind, ih later, StateT.run_pure, moved,
        gather]
      rfl

/-- Numbers of 1 to 8 bytes are read as without checks. -/
theorem uint_eq {width : Nat} (nonzero : 1 ≤ width) (few : width ≤ 8) :
    uint width = unchecked (FrameSource.uint width) := by
  funext stream
  show (uint width).run stream = (stream.takeUInt width).mapError .refused
  by_cases short : stream.remaining < width * 8
  · simp [uint, run_need_short short, BitStream.takeUInt, BitStream.need, short]
  · have enough := Nat.le_of_not_lt short
    have fits := Fault.ofRange?_eq_none_iff.mpr ⟨nonzero, few⟩
    by_cases aligned : stream.isAligned
    · have inside : stream.cursor / 8 + width ≤ stream.buffer.length := by
        unfold BitStream.remaining at enough
        omega
      simp [uint, run_need enough, aligned, run_access (Nat.le_add_right _ _) inside, fits, check,
        advance, BitStream.takeUInt, BitStream.need, short, BitStream.peekUInt]
    · simp [uint, run_need enough, aligned, run_bits enough, BitStream.takeUInt, BitStream.need,
        short, BitStream.peekUInt]

theorem run_bytes {count : Nat} (enough : count * 8 ≤ stream.remaining) :
    (bytes count).run stream = pure (stream.takeBytes count) := by
  induction count generalizing stream with
  | zero => rfl
  | succ count ih =>
      have first : (uint 1).run stream = pure (stream.peekUInt 1, stream.advance 8) := by
        have short : ¬ stream.remaining < 8 := by omega
        rw [uint_eq (by decide) (by decide)]
        simp [unchecked, StateT.run, FrameSource.uint, BitStream.takeUInt, BitStream.need, short]
      have later : count * 8 ≤ (stream.advance 8).remaining := by
        simp only [BitStream.remaining, BitStream.advance] at enough ⊢
        omega
      simp [bytes, first, ih later, BitStream.takeBytes]

theorem text_eq (limit : Nat) : text limit = unchecked (FrameSource.text limit) := by
  funext stream
  show (text limit).run stream = (FrameSource.text (m := Reader) limit stream).mapError .refused
  have first : (uint 2).run stream = (stream.takeUInt 2).mapError .refused := by
    rw [uint_eq (by decide) (by decide)]
    rfl
  simp only [FrameSource.text, BitStream.takeText]
  rw [text, StateT.run_bind, first]
  cases stream.takeUInt 2 with
  | error error => rfl
  | ok taken =>
      obtain ⟨length, behind⟩ := taken
      rw [mapError_ok, pure_bind]
      by_cases long : BitStream.textLimit limit < length
      · simp [long]
      -- The limit is looked at before room is set aside, so the room is never too much.
      have small : Fault.ofSize? length = none := by
        have most : BitStream.textLimit limit ≤ 65535 := Nat.min_le_right _ _
        have room : 65535 ≤ Fault.maxRoom := by decide
        exact if_neg (by omega)
      by_cases short : behind.remaining < length * 8
      · simp [long, run_need_short short, BitStream.need, short]
      have enough := Nat.le_of_not_lt short
      simp only [long, if_false, StateT.run_bind, run_need enough, pure_bind, small, check,
        run_bytes enough, BitStream.need, short]
      cases Text.ofUtf8? (behind.takeBytes length).1 with
      | none => rfl
      | some text => rfl

/-- The bits that are left are the upper ones of the last byte. -/
theorem gather_last (few : stream.remaining < 8) (more : stream.remaining ≠ 0) :
    gather stream.buffer stream.cursor stream.remaining =
      Bytes.toNatLE (Bytes.slice stream.buffer (stream.buffer.length - 1) 1) >>>
        (8 - stream.remaining) := by
  have ahead : stream.ahead = (bitsOf (Bytes.slice stream.buffer (stream.buffer.length - 1) 1)).drop
      (8 - stream.remaining) := by
    have size : ((bitsOf stream.buffer).drop (8 * (stream.buffer.length - 1))).length ≤ 8 * 1 := by
      rw [List.length_drop, length_bitsOf]
      omega
    have position : 8 * (stream.buffer.length - 1) + (8 - stream.remaining) = stream.cursor := by
      unfold BitStream.remaining at few more ⊢
      omega
    rw [bitsOf_slice, List.take_of_length_le size, List.drop_drop, position]
    rfl
  rw [BitStream.gather_ahead (Nat.le_of_eq stream.length_ahead.symm), ← stream.length_ahead,
    List.take_length, toNatLE_eq_number, ← number_drop, stream.length_ahead, ← ahead]

theorem finish_eq : finish = unchecked FrameSource.finish := by
  funext stream
  show finish.run stream = (FrameSource.finish (m := Reader) stream).mapError .refused
  simp only [FrameSource.finish]
  by_cases surplus : 8 ≤ stream.remaining
  · simp [finish, BitStream.finish, surplus]
  by_cases done : stream.remaining = 0
  · simp [finish, BitStream.finish, done, gather]
  have inside : stream.buffer.length - 1 + 1 ≤ stream.buffer.length := by
    unfold BitStream.remaining at done
    omega
  have read := run_access (Nat.le_add_right _ 1) inside
  -- Both look at the same bits: one bit by bit, the other by a shift of the last byte.
  have last := gather_last (Nat.lt_of_not_le surplus) done
  rw [Nat.add_sub_cancel_left] at read
  simp only [finish, StateT.run_bind, StateT.run_get, pure_bind, surplus, done, if_false, read,
    ← last, BitStream.finish]
  split
  · rfl
  · rfl

end Guarded

/-! ### The walk over a frame -/

/-- A translation of readers that keeps how they are put together and what the walk over a
frame reads. -/
structure FrameSource.Morphism (m n : Type → Type) [FrameSource m] [FrameSource n] where
  map : {α : Type} → m α → n α
  map_pure : ∀ {α : Type} (value : α), map (pure value) = pure value
  map_bind : ∀ {α β : Type} (first : m α) (next : α → m β),
    map (first >>= next) = map first >>= fun value => map (next value)
  map_uint : ∀ width, 1 ≤ width → width ≤ 8 → map (FrameSource.uint width) = FrameSource.uint width
  map_text : ∀ limit, map (FrameSource.text limit) = FrameSource.text limit
  map_finish : map FrameSource.finish = FrameSource.finish
  map_refuse : ∀ {α : Type} (error : StreamError),
    map (FrameSource.refuse error : m α) = FrameSource.refuse error

namespace FrameSource.Morphism

variable {m n : Type → Type} [FrameSource m] [FrameSource n] [LawfulMonad m] [LawfulMonad n]
  (translation : Morphism m n)

theorem map_map {α β : Type} (change : α → β) (first : m α) :
    translation.map (change <$> first) = change <$> translation.map first := by
  rw [← bind_pure_comp, ← bind_pure_comp, translation.map_bind]
  simp only [translation.map_pure]

theorem map_u8 : translation.map Walk.u8 = Walk.u8 := by
  rw [Walk.u8, map_map, translation.map_uint 1 (by decide) (by decide), Walk.u8]

theorem map_u32 : translation.map Walk.u32 = Walk.u32 := by
  rw [Walk.u32, map_map, translation.map_uint 4 (by decide) (by decide), Walk.u32]

theorem map_u64 : translation.map Walk.u64 = Walk.u64 := by
  rw [Walk.u64, map_map, translation.map_uint 8 (by decide) (by decide), Walk.u64]

theorem map_i32 : translation.map Walk.i32 = Walk.i32 := by
  rw [Walk.i32, map_map, map_u32, Walk.i32]

theorem map_vec3 : translation.map Walk.vec3 = Walk.vec3 := by
  simp only [Walk.vec3, translation.map_bind, map_u32, translation.map_pure]

theorem map_quat : translation.map Walk.quat = Walk.quat := by
  simp only [Walk.quat, translation.map_bind, map_u32, translation.map_pure]

theorem map_avatar : translation.map Walk.avatar = Walk.avatar := by
  simp only [Walk.avatar, translation.map_bind, map_u32, map_u64, map_vec3, map_quat,
    translation.map_pure]

theorem map_payload (kind : MessageKind) :
    translation.map (Walk.payload kind) = Walk.payload kind := by
  cases kind <;>
    simp only [Walk.payload, map_map, map_avatar, map_u64, map_u8, map_i32, translation.map_text]

theorem map_kind : translation.map Walk.kind = Walk.kind := by
  rw [Walk.kind, translation.map_bind, map_u8, Walk.kind]
  congr 1
  funext tag
  cases MessageKind.ofTag? tag with
  | none => exact translation.map_refuse _
  | some kind => exact translation.map_pure kind

/-- A walk over a frame is the same walk over a translated source. -/
theorem map_frame : translation.map Walk.frame = Walk.frame := by
  simp only [Walk.frame, translation.map_bind, map_kind, map_payload, translation.map_finish,
    translation.map_pure]

end FrameSource.Morphism

/-- Reading without checks is reading with them. -/
def uncheckedMorphism : FrameSource.Morphism Reader Guarded where
  map := unchecked
  map_pure _ := rfl
  map_bind first next := by
    funext stream
    show ((first stream >>= fun taken => next taken.1 taken.2).mapError Halt.refused) =
      ((first stream).mapError Halt.refused >>= fun taken => unchecked (next taken.1) taken.2)
    cases first stream with
    | error error => rfl
    | ok taken => rfl
  map_uint _ nonzero few := (Guarded.uint_eq nonzero few).symm
  map_text limit := (Guarded.text_eq limit).symm
  map_finish := Guarded.finish_eq.symm
  map_refuse _ := rfl

/-- Decoding a byte string never unwinds. -/
theorem decodeGuarded_eq (frame : Bytes) :
    Message.decodeGuarded frame = (Message.decode frame).mapError .refused := by
  have walk : (Walk.frame : Guarded Message) = unchecked Walk.frame :=
    uncheckedMorphism.map_frame.symm
  rw [Message.decodeGuarded, Message.decode, walk]
  show ((Walk.frame (m := Reader) (BitStream.reader frame)).mapError Halt.refused).map (·.1) =
    ((Walk.frame (m := Reader) (BitStream.reader frame)).map (·.1)).mapError Halt.refused
  cases Walk.frame (m := Reader) (BitStream.reader frame) with
  | error error => rfl
  | ok taken => rfl

end ReplicaBridge.Wire
