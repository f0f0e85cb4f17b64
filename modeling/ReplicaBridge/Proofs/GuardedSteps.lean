/-
Module: ReplicaBridge.Proofs.GuardedSteps
Purpose: Stream steps with every access to the buffer checked.  A step that looks or writes
  outside of the buffer, shifts by more bits than a word has, converts a number that does not
  fit or asks for more room than there is, unwinds; and what a step did to the stream or to the
  caller's variable before it failed stays done.  On streams as steps leave them the checks
  change nothing.
Main exports: Bits.Bench, Bits.Careful, Bits.Careful.serialize, Bits.Careful.finish,
  Bits.BitStream.Sound, Bits.Bench.settled, Bits.Careful.run_serialize, Bits.Careful.run_finish
-/
import ReplicaBridge.Fault
import ReplicaBridge.Proofs.BlockBytes
import ReplicaBridge.Proofs.GuardedReading
import ReplicaBridge.Proofs.StreamRoundTrip

namespace ReplicaBridge.Bits

/-- A stream, and the variable that its caller lets it write or fill. -/
structure Bench where
  stream : BitStream
  held : Field
deriving Repr, Inhabited, DecidableEq

/-- Steps that can be refused and can unwind.  Either way the stream and the variable stay as
they were left. -/
abbrev Careful := EStateM (Halt StreamError) Bench

/-- How a step that looks at the stream only ends. -/
def Bench.answered {α : Type} (bench : Bench) :
    Except StreamError (α × BitStream) → EStateM.Result (Halt StreamError) Bench α
  | .error error => .error (.refused error) bench
  | .ok (value, after) => .ok value { bench with stream := after }

/-- How a step with the caller's variable ends: the variable is filled if the step succeeds. -/
def Bench.settled (bench : Bench) :
    BitStream × Except StreamError Field → EStateM.Result (Halt StreamError) Bench Unit
  | (after, .error error) => .error (.refused error) { bench with stream := after }
  | (after, .ok field) => .ok () { stream := after, held := field }

/-- Streams as steps leave them: what was written is packed, and what was read lies within the
buffer. -/
inductive BitStream.Sound : BitStream → Prop where
  | writing (bits : List Bool) : Sound (.ofBits bits)
  | reading {buffer : Bytes} {cursor : Nat} (inside : cursor ≤ 8 * buffer.length) :
      Sound { mode := .read, buffer, cursor }

namespace Careful

variable {α : Type}

def refuse (error : StreamError) : Careful α :=
  throw (.refused error)

/-- Unwind if something is wrong. -/
def check (fault? : Option Fault) : Careful Unit :=
  match fault? with
  | some fault => throw (.unwound fault)
  | none => return

def onStream (change : BitStream → BitStream) : Careful Unit :=
  modify fun bench => { bench with stream := change bench.stream }

/-- Put something into the caller's variable. -/
def assign (field : Field) : Careful Unit :=
  modify fun bench => { bench with held := field }

/-- The bytes of the buffer from `start` up to `stop`, which must lie in it. -/
def access (start stop : Nat) : Careful Bytes := do
  let { stream, .. } ← get
  check (Fault.ofRange? start stop stream.buffer.length)
  return Bytes.slice stream.buffer start (stop - start)

def need (bits : Nat) : Careful Unit := do
  match (← get).stream.need bits with
  | .error error => refuse error
  | .ok () => return

/-- A word is shifted by fewer bits than it has. -/
def checkShifts (count : Nat) : Careful Unit :=
  check (Fault.ofRange? 0 count 64)

/-! ### Writing -/

/-- Open a new byte when the last one is full. -/
def openByte : Careful Unit := do
  let { stream, .. } ← get
  if stream.cursor / 8 = stream.buffer.length then
    onStream fun stream => { stream with buffer := stream.buffer ++ [0] }

/-- Set the bit at the cursor. -/
def setBit : Careful Unit := do
  let { stream, .. } ← get
  let index := stream.cursor / 8
  let _ ← access index (index + 1)
  onStream fun stream => { stream with
    buffer := stream.buffer.modify index (· ||| UInt8.ofNat (1 <<< (stream.cursor % 8))) }

def putBit (bit : Bool) : Careful Unit := do
  openByte
  if bit then setBit
  onStream (·.advance 1)

def putEach : (value count : Nat) → Careful Unit
  | _, 0 => return
  | value, count + 1 => do
    putBit (value % 2 == 1)
    putEach (value / 2) count

def putBits (value count : Nat) : Careful Unit := do
  checkShifts count
  putEach value count

/-- A number of `width` bytes.  The conversion of a number to bytes makes up to 8 of them, and
the number must fit. -/
def putUInt (width value : Nat) : Careful Unit := do
  let { stream, .. } ← get
  if stream.isAligned then
    let start := stream.buffer.length
    onStream fun stream => { stream with buffer := stream.buffer ++ Bytes.zeros width }
    let _ ← access start (start + width)
    check (Fault.ofRange? (value.log2 / 8 + 1) width 8)
    onStream fun stream => { stream with
      buffer := Bytes.overwrite stream.buffer start (Bytes.ofNatLE width value) }
    onStream (·.advance (width * 8))
  else putBits value (width * 8)

def putBytes : Bytes → Careful Unit
  | [] => return
  | byte :: rest => do
    putUInt 1 byte.toNat
    putBytes rest

def putText (text : String) (limit : Nat) : Careful Unit := do
  let bytes := Text.utf8 text
  if BitStream.textLimit limit < bytes.length then
    refuse (.stringTooLong bytes.length (BitStream.textLimit limit))
  else
    putUInt 2 bytes.length
    putBytes bytes

/-! ### Reading -/

def takeBit : Careful Bool := do
  need 1
  let { stream, .. } ← get
  let byte ← access (stream.cursor / 8) (stream.cursor / 8 + 1)
  onStream (·.advance 1)
  return bitAt byte (stream.cursor % 8)

/-- The number made of the next bits, one by one. -/
def takeEach : (count : Nat) → Careful Nat
  | 0 => return 0
  | count + 1 => do
    let first ← takeBit
    let later ← takeEach count
    return first.toNat + 2 * later

def takeBits (count : Nat) : Careful Nat := do
  need count
  checkShifts count
  takeEach count

/-- A number of `width` bytes.  The conversion of bytes to a number takes from 1 to 8 of
them. -/
def takeUInt (width : Nat) : Careful Nat := do
  let { stream, .. } ← get
  if stream.isAligned then
    need (width * 8)
    let bytes ← access (stream.cursor / 8) (stream.cursor / 8 + width)
    check (Fault.ofRange? 1 width 8)
    onStream (·.advance (width * 8))
    return Bytes.toNatLE bytes
  else takeBits (width * 8)

/-- The next bytes, one by one. -/
def takeBytes : (count : Nat) → Careful Bytes
  | 0 => return []
  | count + 1 => do
    let first ← takeUInt 1
    let later ← takeBytes count
    return UInt8.ofNat first :: later

/-- A text; room is set aside for its bytes before they are read. -/
def takeText (limit : Nat) : Careful String := do
  let length ← takeUInt 2
  if BitStream.textLimit limit < length then
    refuse (.stringTooLong length (BitStream.textLimit limit))
  else
    need (length * 8)
    check (Fault.ofSize? length)
    match Text.ofUtf8? (← takeBytes length) with
    | some text => return text
    | none => refuse .invalidUtf8

/-! ### Steps -/

/-- A number that is written, or the number that is read. -/
def word (width value : Nat) : Careful Nat := do
  match (← get).stream.mode with
  | .write =>
    putUInt width value
    return value
  | .read => takeUInt width

/-- One step with the caller's variable. -/
def serialize : Careful Unit := do
  let { stream, held } ← get
  match held with
  | .bool value =>
    match stream.mode with
    | .write => putBit value
    | .read => assign (.bool (← takeBit))
  | .bits value count =>
    match stream.mode with
    | .write => putBits value.toNat (BitStream.wordBits count)
    | .read => assign (.bits (UInt32.ofNat (← takeBits (BitStream.wordBits count))) count)
  | .u8 value => assign (.u8 (UInt8.ofNat (← word 1 value.toNat)))
  | .u16 value => assign (.u16 (UInt16.ofNat (← word 2 value.toNat)))
  | .u32 value => assign (.u32 (UInt32.ofNat (← word 4 value.toNat)))
  | .u64 value => assign (.u64 (UInt64.ofNat (← word 8 value.toNat)))
  | .i32 value => assign (.i32 (UInt32.ofNat (← word 4 value.toUInt32.toNat)).toInt32)
  | .f32 value => assign (.f32 (UInt32.ofNat (← word 4 value.toNat)))
  | .text value limit =>
    match stream.mode with
    | .write => putText value limit
    | .read => assign (.text (← takeText limit) limit)

/-- The end of the stream: what is left of the last byte is shifted out of it. -/
def finish : Careful Unit := do
  let { stream, .. } ← get
  let left := stream.remaining
  if 8 ≤ left then refuse (.trailingBits left)
  else if left = 0 then return
  else
    let last := stream.buffer.length - 1
    let byte ← access last (last + 1)
    if Bytes.toNatLE byte >>> (8 - left) = 0 then return
    else refuse (.trailingBits left)

/-! ### Outcomes -/

section Outcomes

variable {β : Type} {bench after : Bench}

theorem run_bind_of_ok {first : Careful α} {next : α → Careful β} {value : α}
    (ran : first.run bench = .ok value after) :
    (first >>= next).run bench = (next value).run after := by
  rw [EStateM.run_bind, ran]

theorem run_bind_of_error {first : Careful α} {next : α → Careful β} {error : Halt StreamError}
    (ran : first.run bench = .error error after) :
    (first >>= next).run bench = .error error after := by
  rw [EStateM.run_bind, ran]

@[simp] theorem run_check_none : (check none).run bench = .ok () bench := rfl

@[simp] theorem run_refuse (error : StreamError) :
    (refuse error : Careful α).run bench = .error (.refused error) bench := rfl

@[simp] theorem run_onStream (change : BitStream → BitStream) :
    (onStream change).run bench = .ok () { bench with stream := change bench.stream } := rfl

@[simp] theorem run_assign (field : Field) :
    (assign field).run bench = .ok () { bench with held := field } := rfl

theorem run_access {start stop : Nat} (order : start ≤ stop)
    (inside : stop ≤ bench.stream.buffer.length) : (access start stop).run bench =
      .ok (Bytes.slice bench.stream.buffer start (stop - start)) bench := by
  have sound := Fault.ofRange?_eq_none_iff.mpr ⟨order, inside⟩
  simp [access, sound]

theorem run_checkShifts {count : Nat} (few : count ≤ 64) :
    (checkShifts count).run bench = .ok () bench := by
  have sound := Fault.ofRange?_eq_none_iff.mpr ⟨Nat.zero_le count, few⟩
  rw [checkShifts, sound, run_check_none]

theorem run_need (bits : Nat) : (need bits).run bench =
    match bench.stream.need bits with
    | .error error => .error (.refused error) bench
    | .ok () => .ok () bench := by
  simp only [need, EStateM.run_bind, EStateM.run_get]
  cases bench.stream.need bits <;> rfl

end Outcomes

/-! ### Writing raises no fault -/

section Writing

variable {bits : List Bool} {held : Field}

/-- The byte of the next bit is there, or is opened. -/
theorem run_putBit (bit : Bool) :
    (putBit bit).run ⟨.ofBits bits, held⟩ = .ok () ⟨.ofBits (bits ++ [bit]), held⟩ := by
  let stream := BitStream.ofBits bits
  let index := stream.cursor / 8
  let buffer := if index = stream.buffer.length then stream.buffer ++ [0] else stream.buffer
  have opened : openByte.run ⟨stream, held⟩ = .ok () ⟨{ stream with buffer }, held⟩ := by
    simp only [openByte, EStateM.run_bind, EStateM.run_get, buffer, index]
    split
    · rfl
    · rfl
  have size : stream.buffer.length = (bits.length + 7) / 8 := length_pack bits
  have position : index = bits.length / 8 := rfl
  have inside : index + 1 ≤ buffer.length := by
    simp only [buffer]
    split
    · rw [List.length_append, List.length_singleton]
      omega
    · omega
  rw [← BitStream.putBit_ofBits, putBit, run_bind_of_ok opened]
  cases bit with
  | false =>
      have unchanged : (fun byte : UInt8 => byte ||| 0) = id := funext fun byte => UInt8.or_zero
      have same : buffer.modify index (· ||| 0) = buffer := by
        rw [unchanged, List.modify_id]
      show EStateM.Result.ok () (Bench.mk (.mk stream.mode buffer (stream.cursor + 1)) held) =
        .ok () ⟨⟨stream.mode, buffer.modify index (· ||| 0), stream.cursor + 1⟩, held⟩
      rw [same]
  | true =>
      have set : setBit.run ⟨{ stream with buffer }, held⟩ = .ok () ⟨{ stream with
          buffer := buffer.modify index (· ||| UInt8.ofNat (1 <<< (stream.cursor % 8))) },
          held⟩ := by
        simp only [setBit, EStateM.run_bind, EStateM.run_get]
        rw [run_access (Nat.le_succ _) inside]
        rfl
      rw [if_pos rfl, run_bind_of_ok set]
      rfl

theorem run_putEach (value count : Nat) : (putEach value count).run ⟨.ofBits bits, held⟩ =
    .ok () ⟨.ofBits (bits ++ lowBits count value), held⟩ := by
  induction count generalizing bits value with
  | zero =>
      rw [lowBits, List.append_nil]
      rfl
  | succ count ih =>
      rw [putEach, run_bind_of_ok (run_putBit _), ih, List.append_assoc]
      rfl

theorem run_putBits (value : Nat) {count : Nat} (few : count ≤ 64) :
    (putBits value count).run ⟨.ofBits bits, held⟩ =
      .ok () ⟨.ofBits (bits ++ lowBits count value), held⟩ := by
  rw [putBits, run_bind_of_ok (run_checkShifts few), run_putEach]

/-- A number that fits is converted to bytes. -/
theorem ofRange?_of_fits {width value : Nat} (nonzero : 1 ≤ width) (few : width ≤ 8)
    (fits : value < 2 ^ (width * 8)) : Fault.ofRange? (value.log2 / 8 + 1) width 8 = none := by
  apply Fault.ofRange?_eq_none_iff.mpr
  refine ⟨?_, few⟩
  by_cases zero : value = 0
  · subst zero
    exact nonzero
  · have low := (Nat.log2_lt zero).mpr fits
    omega

theorem run_putUInt {width value : Nat} (nonzero : 1 ≤ width) (few : width ≤ 8)
    (fits : value < 2 ^ (width * 8)) : (putUInt width value).run ⟨.ofBits bits, held⟩ =
      .ok () ⟨.ofBits (bits ++ bitsOf (Bytes.ofNatLE width value)), held⟩ := by
  by_cases aligned : (BitStream.ofBits bits).isAligned
  · have replaced : Bytes.overwrite ((BitStream.ofBits bits).buffer ++ Bytes.zeros width)
        (BitStream.ofBits bits).buffer.length (Bytes.ofNatLE width value) =
          (BitStream.ofBits bits).buffer ++ Bytes.ofNatLE width value :=
      Bytes.overwrite_append _ (by rw [Bytes.zeros, List.length_replicate, Bytes.length_ofNatLE])
    rw [← BitStream.putUInt_ofBits]
    simp only [putUInt, EStateM.run_bind, EStateM.run_get, aligned, if_true, run_onStream]
    rw [run_access (Nat.le_add_right _ _) (by simp [Bytes.zeros])]
    simp only [ofRange?_of_fits nonzero few fits, run_check_none, replaced, BitStream.putUInt,
      aligned, if_true]
    rfl
  · have room : width * 8 ≤ 64 := by omega
    simp only [putUInt, EStateM.run_bind, EStateM.run_get, aligned]
    rw [bitsOf_ofNatLE]
    exact run_putBits value room

theorem run_putBytes (bytes : Bytes) : (putBytes bytes).run ⟨.ofBits bits, held⟩ =
    .ok () ⟨.ofBits (bits ++ bitsOf bytes), held⟩ := by
  induction bytes generalizing bits with
  | nil =>
      rw [bitsOf_nil, List.append_nil]
      rfl
  | cons byte rest ih =>
      have one : bitsOf (Bytes.ofNatLE 1 byte.toNat) = lowBits 8 byte.toNat :=
        bitsOf_ofNatLE 1 byte.toNat
      rw [putBytes, run_bind_of_ok (run_putUInt (by decide) (by decide) byte.toNat_lt), ih, one,
        bitsOf_cons, List.append_assoc]

/-- The length of a text within its limit fits into 16 bits. -/
theorem run_putText (text : String) (limit : Nat) :
    (putText text limit).run ⟨.ofBits bits, held⟩ =
      match (Field.text text limit).refusal? with
      | some error => .error (.refused error) ⟨.ofBits bits, held⟩
      | none => .ok () ⟨.ofBits (bits ++ (Field.text text limit).toBits), held⟩ := by
  simp only [putText, Field.refusal?]
  by_cases long : BitStream.textLimit limit < (Text.utf8 text).length
  · rw [if_pos long, if_pos long, run_refuse]
  · have most : BitStream.textLimit limit ≤ 65535 := Nat.min_le_right _ _
    have fits : (Text.utf8 text).length < 2 ^ (2 * 8) := by omega
    rw [if_neg long, if_neg long, run_bind_of_ok (run_putUInt (by decide) (by decide) fits),
      run_putBytes, Field.toBits, List.append_assoc]

/-- A number that is written goes back into the variable that it came from. -/
theorem run_word_ofBits {width value : Nat} (make : Nat → Field) (nonzero : 1 ≤ width)
    (few : width ≤ 8) (fits : value < 2 ^ (width * 8)) (made : make value = held) :
    (do assign (make (← word width value)) : Careful Unit).run ⟨.ofBits bits, held⟩ =
      .ok () ⟨.ofBits (bits ++ bitsOf (Bytes.ofNatLE width value)), held⟩ := by
  have mode : (BitStream.ofBits bits).mode = .write := rfl
  have written : (word width value).run ⟨.ofBits bits, held⟩ =
      .ok value ⟨.ofBits (bits ++ bitsOf (Bytes.ofNatLE width value)), held⟩ := by
    simp only [word, EStateM.run_bind, EStateM.run_get, mode, run_putUInt nonzero few fits,
      EStateM.run_pure]
  rw [run_bind_of_ok written, made, run_assign]

/-- A field adds its bits, unless it is refused, and the variable keeps it. -/
theorem run_serialize_ofBits (field : Field) : serialize.run ⟨.ofBits bits, field⟩ =
    match field.refusal? with
    | some error => .error (.refused error) ⟨.ofBits bits, field⟩
    | none => .ok () ⟨.ofBits (bits ++ field.toBits), field⟩ := by
  cases field with
  | bool value => exact run_putBit value
  | bits value count =>
      have room : BitStream.wordBits count ≤ 64 :=
        Nat.le_trans (Nat.min_le_right _ _) (by decide)
      exact run_putBits value.toNat room
  | u8 value =>
      exact run_word_ofBits (fun number => .u8 (UInt8.ofNat number)) (by decide) (by decide)
        value.toNat_lt (congrArg Field.u8 UInt8.ofNat_toNat)
  | u16 value =>
      exact run_word_ofBits (fun number => .u16 (UInt16.ofNat number)) (by decide) (by decide)
        value.toNat_lt (congrArg Field.u16 UInt16.ofNat_toNat)
  | u32 value =>
      exact run_word_ofBits (fun number => .u32 (UInt32.ofNat number)) (by decide) (by decide)
        value.toNat_lt (congrArg Field.u32 UInt32.ofNat_toNat)
  | u64 value =>
      exact run_word_ofBits (fun number => .u64 (UInt64.ofNat number)) (by decide) (by decide)
        value.toNat_lt (congrArg Field.u64 UInt64.ofNat_toNat)
  | i32 value =>
      exact run_word_ofBits (fun number => .i32 (UInt32.ofNat number).toInt32) (by decide)
        (by decide) value.toUInt32.toNat_lt (by simp)
  | f32 value =>
      exact run_word_ofBits (fun number => .f32 (UInt32.ofNat number)) (by decide) (by decide)
        value.toNat_lt (congrArg Field.f32 UInt32.ofNat_toNat)
  | text value limit => exact run_putText value limit

end Writing

/-! ### Reading raises no fault -/

section Reading

variable {α : Type} {stream : BitStream} {held : Field}

theorem run_need_enough {bits : Nat} (enough : bits ≤ stream.remaining) :
    (need bits).run ⟨stream, held⟩ = .ok () ⟨stream, held⟩ := by
  rw [run_need, BitStream.need, if_neg (Nat.not_lt.mpr enough)]

theorem run_need_short {bits : Nat} (short : stream.remaining < bits) :
    (need bits).run ⟨stream, held⟩ =
      .error (.refused (.truncated bits stream.remaining)) ⟨stream, held⟩ := by
  rw [run_need, BitStream.need, if_pos short]

/-- The byte of a bit that is left is in the buffer. -/
theorem run_takeBit (enough : 1 ≤ stream.remaining) : takeBit.run ⟨stream, held⟩ =
    .ok (bitAt stream.buffer stream.cursor) ⟨stream.advance 1, held⟩ := by
  have inside : stream.cursor / 8 + 1 ≤ stream.buffer.length := by
    unfold BitStream.remaining at enough
    omega
  have same : bitAt (Bytes.slice stream.buffer (stream.cursor / 8) 1) (stream.cursor % 8) =
      bitAt stream.buffer stream.cursor := by
    have first : stream.cursor % 8 / 8 = 0 := Nat.div_eq_of_lt (Nat.mod_lt _ (by decide))
    simp [bitAt, Bytes.slice, first]
  rw [takeBit, run_bind_of_ok (run_need_enough enough), EStateM.run_bind, EStateM.run_get]
  dsimp only
  rw [run_bind_of_ok (run_access (Nat.le_add_right _ 1) inside), Nat.add_sub_cancel_left,
    run_bind_of_ok (run_onStream _), EStateM.run_pure, same]

theorem run_takeEach {count : Nat} (enough : count ≤ stream.remaining) :
    (takeEach count).run ⟨stream, held⟩ =
      .ok (gather stream.buffer stream.cursor count) ⟨stream.advance count, held⟩ := by
  induction count generalizing stream with
  | zero => rfl
  | succ count ih =>
      have first : 1 ≤ stream.remaining := by omega
      have later : count ≤ (stream.advance 1).remaining := by
        simp only [BitStream.remaining, BitStream.advance] at enough ⊢
        omega
      have moved : (stream.advance 1).advance count = stream.advance (count + 1) := by
        simp [BitStream.advance, Nat.add_assoc, Nat.add_comm 1]
      rw [takeEach, run_bind_of_ok (run_takeBit first), run_bind_of_ok (ih later), moved]
      rfl

theorem run_takeBits {count : Nat} (few : count ≤ 64) : (takeBits count).run ⟨stream, held⟩ =
    Bench.answered ⟨stream, held⟩ (stream.takeBits count) := by
  rw [takeBits, BitStream.takeBits, BitStream.need]
  by_cases short : stream.remaining < count
  · rw [run_bind_of_error (run_need_short short), if_pos short]
    rfl
  · have enough := Nat.le_of_not_lt short
    rw [run_bind_of_ok (run_need_enough enough), run_bind_of_ok (run_checkShifts few),
      run_takeEach enough, if_neg short]
    rfl

theorem run_takeUInt {width : Nat} (nonzero : 1 ≤ width) (few : width ≤ 8) :
    (takeUInt width).run ⟨stream, held⟩ =
      Bench.answered ⟨stream, held⟩ (stream.takeUInt width) := by
  simp only [takeUInt, EStateM.run_bind, EStateM.run_get]
  by_cases aligned : stream.isAligned
  · rw [if_pos aligned, BitStream.takeUInt, BitStream.need, BitStream.peekUInt, if_pos aligned]
    by_cases short : stream.remaining < width * 8
    · rw [run_bind_of_error (run_need_short short), if_pos short]
      rfl
    · have enough := Nat.le_of_not_lt short
      have fits := Fault.ofRange?_eq_none_iff.mpr ⟨nonzero, few⟩
      have inside : stream.cursor / 8 + width ≤ stream.buffer.length := by
        unfold BitStream.remaining at enough
        omega
      rw [run_bind_of_ok (run_need_enough enough),
        run_bind_of_ok (run_access (Nat.le_add_right _ _) inside), fits,
        run_bind_of_ok run_check_none, run_bind_of_ok (run_onStream _), EStateM.run_pure,
        Nat.add_sub_cancel_left, if_neg short]
      rfl
  · rw [if_neg aligned, run_takeBits (by omega), BitStream.takeUInt_eq_takeBits]

theorem run_takeBytes {count : Nat} (enough : count * 8 ≤ stream.remaining) :
    (takeBytes count).run ⟨stream, held⟩ =
      .ok (stream.takeBytes count).1 ⟨(stream.takeBytes count).2, held⟩ := by
  induction count generalizing stream with
  | zero => rfl
  | succ count ih =>
      have first : (takeUInt 1).run ⟨stream, held⟩ =
          .ok (stream.peekUInt 1) ⟨stream.advance 8, held⟩ := by
        have one : ¬ stream.remaining < 1 * 8 := by omega
        rw [run_takeUInt (by decide) (by decide), BitStream.takeUInt, BitStream.need, if_neg one]
        rfl
      have later : count * 8 ≤ (stream.advance 8).remaining := by
        simp only [BitStream.remaining, BitStream.advance] at enough ⊢
        omega
      rw [takeBytes, run_bind_of_ok first, run_bind_of_ok (ih later)]
      rfl

/-- The limit is looked at before room is set aside, so the room is never too much. -/
theorem run_takeText (limit : Nat) : (takeText limit).run ⟨stream, held⟩ =
    match stream.takeText limit with
    | (after, .error error) => .error (.refused error) ⟨after, held⟩
    | (after, .ok text) => .ok text ⟨after, held⟩ := by
  have first : (takeUInt 2).run ⟨stream, held⟩ =
      Bench.answered ⟨stream, held⟩ (stream.takeUInt 2) := run_takeUInt (by decide) (by decide)
  rw [takeText, BitStream.takeText]
  cases taken : stream.takeUInt 2 with
  | error error =>
      rw [taken] at first
      rw [run_bind_of_error first]
  | ok result =>
      obtain ⟨length, behind⟩ := result
      rw [taken] at first
      rw [run_bind_of_ok first]
      dsimp only
      by_cases long : BitStream.textLimit limit < length
      · rw [if_pos long, if_pos long, run_refuse]
      have small : Fault.ofSize? length = none := by
        have most : BitStream.textLimit limit ≤ 65535 := Nat.min_le_right _ _
        have room : 65535 ≤ Fault.maxRoom := by decide
        exact if_neg (by omega)
      rw [if_neg long, if_neg long, BitStream.need]
      by_cases short : behind.remaining < length * 8
      · rw [run_bind_of_error (run_need_short short), if_pos short]
      have enough := Nat.le_of_not_lt short
      rw [run_bind_of_ok (run_need_enough enough), small, run_bind_of_ok run_check_none,
        run_bind_of_ok (run_takeBytes enough), if_neg short]
      dsimp only
      cases Text.ofUtf8? (behind.takeBytes length).1 with
      | none => rfl
      | some text => rfl

/-- What is read goes into the variable, unless reading fails. -/
theorem run_assign_answered {first : Careful Nat} {result : Except StreamError (Nat × BitStream)}
    (make : Nat → Field)
    (ran : first.run ⟨stream, held⟩ = Bench.answered ⟨stream, held⟩ result) :
    (do assign (make (← first)) : Careful Unit).run ⟨stream, held⟩ =
      Bench.settled ⟨stream, held⟩ (BitStream.settle stream make result) := by
  cases result with
  | error error => exact run_bind_of_error ran
  | ok taken => exact run_bind_of_ok ran

theorem run_word_reading {width : Nat} (value : Nat) (make : Nat → Field)
    (reading : stream.mode = .read) (nonzero : 1 ≤ width) (few : width ≤ 8) :
    (do assign (make (← word width value)) : Careful Unit).run ⟨stream, held⟩ =
      Bench.settled ⟨stream, held⟩ (BitStream.settle stream make (stream.takeUInt width)) := by
  apply run_assign_answered
  simp only [word, EStateM.run_bind, EStateM.run_get, reading]
  exact run_takeUInt nonzero few

theorem run_serialize_reading (reading : stream.mode = .read) (field : Field) :
    serialize.run ⟨stream, field⟩ = Bench.settled ⟨stream, field⟩ (stream.read field) := by
  cases field with
  | bool value =>
      simp only [serialize, EStateM.run_bind, EStateM.run_get, reading, BitStream.read,
        BitStream.takeBit, BitStream.need]
      by_cases short : stream.remaining < 1
      · have failed : takeBit.run ⟨stream, .bool value⟩ =
            .error (.refused (.truncated 1 stream.remaining)) ⟨stream, .bool value⟩ :=
          run_bind_of_error (run_need_short short)
        rw [failed, if_pos short]
        rfl
      · rw [run_takeBit (Nat.le_of_not_lt short), if_neg short]
        rfl
  | bits value count =>
      have room : BitStream.wordBits count ≤ 64 :=
        Nat.le_trans (Nat.min_le_right _ _) (by decide)
      simp only [serialize, EStateM.run_bind, EStateM.run_get, reading]
      exact run_assign_answered _ (run_takeBits room)
  | u8 value => exact run_word_reading _ _ reading (by decide) (by decide)
  | u16 value => exact run_word_reading _ _ reading (by decide) (by decide)
  | u32 value => exact run_word_reading _ _ reading (by decide) (by decide)
  | u64 value => exact run_word_reading _ _ reading (by decide) (by decide)
  | i32 value => exact run_word_reading _ _ reading (by decide) (by decide)
  | f32 value => exact run_word_reading _ _ reading (by decide) (by decide)
  | text value limit =>
      simp only [serialize, EStateM.run_bind, EStateM.run_get, reading, BitStream.read,
        run_takeText]
      rcases stream.takeText limit with ⟨after, answer⟩
      cases answer with
      | error error => rfl
      | ok text => rfl

end Reading


/-! ### Steps and the end of the stream -/

/-- On a stream as steps leave it a step with checks is the step itself. -/
theorem run_serialize {stream : BitStream} (sound : stream.Sound) (field : Field) :
    serialize.run ⟨stream, field⟩ = Bench.settled ⟨stream, field⟩ (stream.serialize field) := by
  cases sound with
  | writing bits =>
      have step : (BitStream.ofBits bits).serialize field =
          (.ofBits (bits ++ field.written), BitStream.writeAnswer field) :=
        Prod.ext (BitStream.serialize_ofBits bits field)
          (BitStream.serialize_ofBits_snd bits field)
      rw [run_serialize_ofBits, step, BitStream.writeAnswer, Field.written]
      cases field.refusal? with
      | none => rfl
      | some error =>
          rw [List.append_nil]
          rfl
  | reading inside => exact run_serialize_reading rfl field

theorem run_finish (stream : BitStream) (held : Field) : finish.run ⟨stream, held⟩ =
    match stream.finish with
    | .error error => .error (.refused error) ⟨stream, held⟩
    | .ok () => .ok () ⟨stream, held⟩ := by
  simp only [finish, EStateM.run_bind, EStateM.run_get, BitStream.finish]
  by_cases surplus : 8 ≤ stream.remaining
  · rw [if_pos surplus, if_pos surplus, run_refuse]
  rw [if_neg surplus, if_neg surplus]
  by_cases done : stream.remaining = 0
  · rw [if_pos done, done]
    rfl
  have inside : stream.buffer.length - 1 + 1 ≤ stream.buffer.length := by
    unfold BitStream.remaining at done
    omega
  -- Both look at the same bits: one bit by bit, the other by a shift of the last byte.
  have last := Wire.Guarded.gather_last (Nat.lt_of_not_le surplus) done
  rw [if_neg done, run_bind_of_ok (run_access (Nat.le_add_right _ 1) inside), last,
    Nat.add_sub_cancel_left]
  split
  · rfl
  · rfl

end Careful

end ReplicaBridge.Bits
