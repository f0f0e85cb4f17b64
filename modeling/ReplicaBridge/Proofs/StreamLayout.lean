/-
Module: ReplicaBridge.Proofs.StreamLayout
Purpose: What streams write and read, as bit strings.  Whatever fields were written, at
  whatever alignment, the buffer is the packing of their bits one after another; and a
  field that is read is the one whose bits lie at the cursor.  Whole bytes that move at once
  and bits that move one by one are the same here.
Main exports: Bits.Field.toBits, Bits.Field.written, Bits.Field.blank, Bits.BitStream.ofBits,
  Bits.BitStream.ahead, Bits.BitStream.write_ofBits, Bits.BitStream.takeUInt_eq_takeBits,
  Bits.BitStream.read_eq_ok_iff, Bits.BitStream.layout_of_steps
-/
import ReplicaBridge.Bits.Field
import ReplicaBridge.Proofs.BitLayout

namespace ReplicaBridge.Bits

/-! ### Fields as bits -/

namespace Field

/-- The bits of a field in stream order: numbers are little-endian, and a text is its length
as 16 bits and then its bytes. -/
def toBits : Field → List Bool
  | .bool value => [value]
  | .bits value count => lowBits (BitStream.wordBits count) value.toNat
  | .u8 value => bitsOf (Bytes.ofNatLE 1 value.toNat)
  | .u16 value => bitsOf (Bytes.ofNatLE 2 value.toNat)
  | .u32 value => bitsOf (Bytes.ofNatLE 4 value.toNat)
  | .u64 value => bitsOf (Bytes.ofNatLE 8 value.toNat)
  | .i32 value => bitsOf (Bytes.ofNatLE 4 value.toUInt32.toNat)
  | .f32 value => bitsOf (Bytes.ofNatLE 4 value.toNat)
  | .text value _ =>
    bitsOf (Bytes.ofNatLE 2 (Text.utf8 value).length) ++ bitsOf (Text.utf8 value)

/-- Why a field cannot be written, if it cannot: a text may be longer than its limit. -/
def refusal? : Field → Option StreamError
  | .text value limit =>
    if BitStream.textLimit limit < (Text.utf8 value).length then
      some (.stringTooLong (Text.utf8 value).length (BitStream.textLimit limit))
    else none
  | _ => none

/-- What a step to write the field adds to the stream: nothing when it is refused. -/
def written (field : Field) : List Bool :=
  match field.refusal? with
  | some _ => []
  | none => field.toBits

/-- The type of a field, as a field without content. -/
def blank : Field → Field
  | .bool _ => .bool false
  | .bits _ count => .bits 0 count
  | .u8 _ => .u8 0
  | .u16 _ => .u16 0
  | .u32 _ => .u32 0
  | .u64 _ => .u64 0
  | .i32 _ => .i32 0
  | .f32 _ => .f32 0
  | .text _ limit => .text "" limit

/-- A field as streams give it back: a bit field has no bits but those it is read from, and
a text is within its limit. -/
def Exact : Field → Prop
  | .bits value count => value.toNat < 2 ^ BitStream.wordBits count
  | .text value limit => (Text.utf8 value).length ≤ BitStream.textLimit limit
  | _ => True

end Field

namespace BitStream

/-! ### Writing -/

/-- A stream to which the bits were written. -/
def ofBits (bits : List Bool) : BitStream :=
  { mode := .write, buffer := pack bits, cursor := bits.length }

theorem putBit_ofBits (bits : List Bool) (bit : Bool) :
    (ofBits bits).putBit bit = ofBits (bits ++ [bit]) := by
  simp [putBit, ofBits, pack_concat]

theorem putBits_ofBits (bits : List Bool) (value count : Nat) :
    (ofBits bits).putBits value count = ofBits (bits ++ lowBits count value) := by
  induction count generalizing bits value with
  | zero => simp [putBits, lowBits]
  | succ count ih =>
      rw [putBits, putBit_ofBits, ih, lowBits, List.append_assoc]
      rfl

/-- At a byte boundary whole bytes are appended, elsewhere their bits; the stream is the
same. -/
theorem putUInt_ofBits (bits : List Bool) (width value : Nat) :
    (ofBits bits).putUInt width value = ofBits (bits ++ bitsOf (Bytes.ofNatLE width value)) := by
  unfold putUInt
  split
  · rename_i aligned
    have whole : bits.length % 8 = 0 := eq_of_beq aligned
    simp only [ofBits, pack_append_bitsOf whole, List.length_append, length_bitsOf,
      Bytes.length_ofNatLE]
    rw [Nat.mul_comm width 8]
  · rw [putBits_ofBits, bitsOf_ofNatLE]

theorem putBytes_ofBits (bits : List Bool) (bytes : Bytes) :
    (ofBits bits).putBytes bytes = ofBits (bits ++ bitsOf bytes) := by
  induction bytes generalizing bits with
  | nil => simp [putBytes]
  | cons byte rest ih =>
      have one : bitsOf (Bytes.ofNatLE 1 byte.toNat) = lowBits 8 byte.toNat :=
        bitsOf_ofNatLE 1 byte.toNat
      rw [putBytes, List.foldl_cons, putUInt_ofBits, one]
      have later := ih (bits ++ lowBits 8 byte.toNat)
      rw [putBytes] at later
      rw [later, bitsOf_cons, List.append_assoc]

/-- A field adds its bits, unless it is refused. -/
theorem write_ofBits (bits : List Bool) (field : Field) :
    (ofBits bits).write field = match field.refusal? with
      | some error => .error error
      | none => .ok (ofBits (bits ++ field.toBits)) := by
  cases field with
  | bool value => simp only [write, putBit_ofBits, Field.refusal?, Field.toBits]
  | bits value count => simp only [write, putBits_ofBits, Field.refusal?, Field.toBits]
  | text value limit =>
      simp only [write, putText, Field.refusal?, Field.toBits]
      split
      · rfl
      · rw [putUInt_ofBits, putBytes_ofBits, List.append_assoc]
  | _ => simp only [write, putUInt_ofBits, Field.refusal?, Field.toBits]

theorem serialize_ofBits (bits : List Bool) (field : Field) :
    ((ofBits bits).serialize field).1 = ofBits (bits ++ field.written) := by
  have writing : (ofBits bits).mode = .write := rfl
  simp only [serialize, writing, write_ofBits, Field.written]
  cases field.refusal? with
  | none => rfl
  | some error => simp

/-- Take steps one after another; after a step that fails the next one is taken. -/
def serializeAll (stream : BitStream) (fields : List Field) : BitStream :=
  fields.foldl (fun stream field => (stream.serialize field).1) stream

theorem serializeAll_ofBits (bits : List Bool) (fields : List Field) :
    (ofBits bits).serializeAll fields = ofBits (bits ++ fields.flatMap Field.written) := by
  induction fields generalizing bits with
  | nil => simp [serializeAll]
  | cons field rest ih =>
      have later := ih (bits ++ field.written)
      rw [serializeAll] at later ⊢
      rw [List.foldl_cons, serialize_ofBits, later, List.flatMap_cons, List.append_assoc]

/-- Writing stops at the first field that is refused. -/
theorem writeAll_ofBits (bits : List Bool) (fields : List Field) :
    (ofBits bits).writeAll fields = match fields.findSome? Field.refusal? with
      | some error => .error error
      | none => .ok (ofBits (bits ++ fields.flatMap Field.toBits)) := by
  induction fields generalizing bits with
  | nil => simp [writeAll, pure, Except.pure]
  | cons field rest ih =>
      rw [writeAll, List.foldlM_cons, write_ofBits, List.findSome?_cons]
      cases field.refusal? with
      | some error => rfl
      | none =>
          have later := ih (bits ++ field.toBits)
          rw [writeAll, List.append_assoc] at later
          exact later

/-! ### Reading -/

/-- The bits that are still to be read. -/
def ahead (stream : BitStream) : List Bool :=
  (bitsOf stream.buffer).drop stream.cursor

theorem length_ahead (stream : BitStream) : stream.ahead.length = stream.remaining := by
  rw [ahead, List.length_drop, length_bitsOf, remaining, Nat.mul_comm]

@[simp] theorem ahead_advance (stream : BitStream) (bits : Nat) :
    (stream.advance bits).ahead = stream.ahead.drop bits := by
  simp [ahead, advance, List.drop_drop]

theorem need_eq (stream : BitStream) (bits : Nat) : stream.need bits =
    if stream.ahead.length < bits then .error (.truncated bits stream.ahead.length)
    else .ok () := by
  rw [need, length_ahead]

/-- Bits that are ahead lie within the buffer, unless there are none. -/
theorem inside_of_le {stream : BitStream} {bits : Nat} (enough : bits ≤ stream.ahead.length) :
    bits = 0 ∨ stream.cursor + bits ≤ 8 * stream.buffer.length := by
  rw [length_ahead, remaining] at enough
  omega

theorem gather_ahead {stream : BitStream} {bits : Nat} (enough : bits ≤ stream.ahead.length) :
    gather stream.buffer stream.cursor bits = number (stream.ahead.take bits) := by
  rcases inside_of_le enough with empty | inside
  · rw [empty]
    rfl
  · exact gather_eq_number stream.buffer stream.cursor bits inside

theorem takeBits_eq (stream : BitStream) (count : Nat) : stream.takeBits count =
    if stream.ahead.length < count then .error (.truncated count stream.ahead.length)
    else .ok (number (stream.ahead.take count), stream.advance count) := by
  rw [takeBits, need_eq]
  by_cases short : stream.ahead.length < count
  · rw [if_pos short, if_pos short]
  · rw [if_neg short, if_neg short, gather_ahead (Nat.le_of_not_lt short)]

/-- The number in whole bytes is the number of their bits. -/
theorem peekUInt_eq {stream : BitStream} {width : Nat}
    (enough : width * 8 ≤ stream.ahead.length) :
    stream.peekUInt width = number (stream.ahead.take (width * 8)) := by
  unfold peekUInt
  split
  · rename_i aligned
    have whole : stream.cursor % 8 = 0 := eq_of_beq aligned
    have position : 8 * (stream.cursor / 8) = stream.cursor := by omega
    rw [toNatLE_eq_number, bitsOf_slice, position, Nat.mul_comm 8 width]
    rfl
  · exact gather_ahead enough

/-- Reading whole bytes at once is reading their bits. -/
theorem takeUInt_eq_takeBits (stream : BitStream) (width : Nat) :
    stream.takeUInt width = stream.takeBits (width * 8) := by
  rw [takeUInt, takeBits_eq, need_eq]
  by_cases short : stream.ahead.length < width * 8
  · rw [if_pos short, if_pos short]
  · rw [if_neg short, if_neg short, peekUInt_eq (Nat.le_of_not_lt short)]

theorem takeBytes_eq {stream : BitStream} {count : Nat}
    (enough : 8 * count ≤ stream.ahead.length) :
    stream.takeBytes count =
      (pack (stream.ahead.take (8 * count)), stream.advance (8 * count)) := by
  induction count generalizing stream with
  | zero => simp [takeBytes, pack, advance]
  | succ count ih =>
      have later : 8 * count ≤ (stream.advance 8).ahead.length := by
        rw [ahead_advance, List.length_drop]
        omega
      have full : (stream.ahead.take 8).length = 8 := by
        rw [List.length_take]
        omega
      have front : stream.ahead.take (8 * (count + 1)) =
          stream.ahead.take 8 ++ (stream.ahead.drop 8).take (8 * count) := by
        rw [Nat.mul_succ, Nat.add_comm, List.take_add]
      rw [takeBytes, ih later, peekUInt_eq (by omega), front, pack_byte_append _ _ full,
        ahead_advance]
      simp [advance, Nat.mul_succ, Nat.add_assoc, Nat.add_comm 8]

/-- Reading a text: its length is looked at first, then whether its bytes are there, then
whether they are UTF-8. -/
theorem takeText_eq (stream : BitStream) (limit : Nat) : stream.takeText limit =
    if stream.ahead.length < 16 then (stream, .error (.truncated 16 stream.ahead.length))
    else
      let length := number (stream.ahead.take 16)
      if textLimit limit < length then
        (stream.advance 16, .error (.stringTooLong length (textLimit limit)))
      else if stream.ahead.length - 16 < 8 * length then
        (stream.advance 16, .error (.truncated (8 * length) (stream.ahead.length - 16)))
      else
        (stream.advance (16 + 8 * length),
          match Text.ofUtf8? (pack ((stream.ahead.drop 16).take (8 * length))) with
          | some text => .ok text
          | none => .error .invalidUtf8) := by
  have sixteen : 2 * 8 = 16 := rfl
  unfold takeText
  rw [takeUInt_eq_takeBits, takeBits_eq, sixteen]
  by_cases short : stream.ahead.length < 16
  · rw [if_pos short, if_pos short]
  · rw [if_neg short, if_neg short]
    dsimp only
    generalize number (stream.ahead.take 16) = length
    by_cases long : textLimit limit < length
    · rw [if_pos long, if_pos long]
    · rw [if_neg long, if_neg long, need_eq, ahead_advance, List.length_drop,
        Nat.mul_comm length 8]
      by_cases cut : stream.ahead.length - 16 < 8 * length
      · rw [if_pos cut, if_pos cut]
      · have enough : 8 * length ≤ (stream.advance 16).ahead.length := by
          rw [ahead_advance, List.length_drop]
          exact Nat.le_of_not_lt cut
        rw [if_neg cut, if_neg cut]
        dsimp only
        rw [takeBytes_eq enough, ahead_advance]
        have position : (stream.advance 16).advance (8 * length) =
            stream.advance (16 + 8 * length) := by
          simp [advance, Nat.add_assoc]
        dsimp only
        rw [position]
        cases Text.ofUtf8? (pack ((stream.ahead.drop 16).take (8 * length))) with
        | none => rfl
        | some text => rfl

theorem length_toBits_text (text : String) (limit : Nat) :
    (Field.text text limit).toBits.length = 16 + 8 * (Text.utf8 text).length := by
  rw [Field.toBits, List.length_append, length_bitsOf, length_bitsOf, Bytes.length_ofNatLE]

/-- A text that was decoded has the bits it was decoded from. -/
theorem toBits_of_decoded {bits : List Bool} {text : String} (limit : Nat) {length : Nat}
    (enough : 16 + 8 * length ≤ bits.length) (length_eq : number (bits.take 16) = length)
    (decoded : Text.ofUtf8? (pack ((bits.drop 16).take (8 * length))) = some text) :
    (Text.utf8 text).length = length ∧
      (Field.text text limit).toBits = bits.take (16 + 8 * length) := by
  have bytes := Text.ofUtf8?_eq_some_iff.mp decoded
  have size : ((bits.drop 16).take (8 * length)).length = 8 * length := by
    rw [List.length_take, List.length_drop]
    omega
  have front : (bits.take 16).length = 2 * 8 := by
    rw [List.length_take]
    omega
  have count : (Text.utf8 text).length = length := by
    rw [bytes, length_pack, size]
    omega
  have content : bitsOf (Text.utf8 text) = (bits.drop 16).take (8 * length) := by
    rw [bytes, bitsOf_pack]
    rw [size]
    exact Nat.mul_mod_right 8 length
  refine ⟨count, ?_⟩
  rw [Field.toBits, count, ← length_eq, bitsOf_ofNatLE_number front, length_eq, content,
    ← List.take_add]

/-- Where the bits of a text come first, its length and its bytes are found. -/
theorem decoded_of_toBits {bits : List Bool} {text : String} {limit : Nat}
    (short : (Text.utf8 text).length < 65536) (front : (Field.text text limit).toBits <+: bits) :
    16 + 8 * (Text.utf8 text).length ≤ bits.length ∧
      number (bits.take 16) = (Text.utf8 text).length ∧
      (bits.drop 16).take (8 * (Text.utf8 text).length) = bitsOf (Text.utf8 text) := by
  obtain ⟨rest, rfl⟩ := front
  have sixteen : (bitsOf (Bytes.ofNatLE 2 (Text.utf8 text).length)).length = 16 := by
    rw [length_bitsOf, Bytes.length_ofNatLE]
  have whole : (bitsOf (Text.utf8 text)).length = 8 * (Text.utf8 text).length := length_bitsOf _
  rw [List.length_append, length_toBits_text, Field.toBits, List.append_assoc]
  refine ⟨Nat.le_add_right _ _, ?_, ?_⟩
  · rw [List.take_left' sixteen, number_bitsOf_ofNatLE]
    exact Nat.mod_eq_of_lt short
  · rw [List.drop_left' sixteen, List.take_left' whole]

/-- The text that is read is the one whose bits lie ahead. -/
theorem takeText_eq_ok_iff {stream after : BitStream} {limit : Nat} {text : String} :
    stream.takeText limit = (after, .ok text) ↔
      (Text.utf8 text).length ≤ textLimit limit ∧
        (Field.text text limit).toBits <+: stream.ahead ∧
        after = stream.advance (Field.text text limit).toBits.length := by
  rw [takeText_eq, length_toBits_text]
  constructor
  · intro taken
    split at taken
    · cases taken
    · dsimp only at taken
      split at taken
      · cases taken
      · split at taken
        · cases taken
        · rename_i enough short full
          obtain ⟨moved, found⟩ := Prod.mk.inj taken
          split at found
          · rename_i string decoded
            cases found
            obtain ⟨count, bits⟩ := toBits_of_decoded limit (by omega) rfl decoded
            rw [bits, count]
            exact ⟨Nat.le_of_not_lt short, List.take_prefix _ _, moved.symm⟩
          · cases found
  · rintro ⟨fits, front, rfl⟩
    have short : (Text.utf8 text).length < 65536 :=
      Nat.lt_succ_of_le (Nat.le_trans fits (Nat.min_le_right _ _))
    obtain ⟨enough, length_eq, content⟩ := decoded_of_toBits short front
    have decoded : Text.ofUtf8? (Text.utf8 text) = some text :=
      Text.ofUtf8?_eq_some_iff.mpr rfl
    rw [if_neg (by omega)]
    dsimp only
    rw [length_eq, if_neg (Nat.not_lt.mpr fits), if_neg (by omega), content, pack_bitsOf, decoded]

/-- The bit that is read is the one that lies ahead. -/
theorem takeBit_eq_ok_iff {stream after : BitStream} {bit : Bool} :
    stream.takeBit = .ok (bit, after) ↔
      [bit] <+: stream.ahead ∧ after = stream.advance 1 := by
  rw [takeBit, need_eq]
  cases bits : stream.ahead with
  | nil => simp
  | cons first rest =>
      have inside : stream.cursor + 1 ≤ 8 * stream.buffer.length := by
        have enough : 1 ≤ stream.ahead.length := by simp [bits]
        exact (inside_of_le enough).resolve_left Nat.one_ne_zero
      have here : bitAt stream.buffer stream.cursor = first := by
        have found := getElem?_bitsOf stream.buffer stream.cursor inside
        have head : stream.ahead[0]? = some first := by simp [bits]
        rw [ahead, List.getElem?_drop, Nat.add_zero, found] at head
        exact Option.some.inj head
      rw [if_neg (by simp), here]
      simp only [Except.ok.injEq, Prod.mk.injEq, List.cons_prefix_cons, List.nil_prefix,
        and_true]
      constructor
      · rintro ⟨same, moved⟩
        exact ⟨same.symm, moved.symm⟩
      · rintro ⟨same, moved⟩
        exact ⟨same.symm, moved.symm⟩

theorem settle_takeBits {stream after : BitStream} {make : Nat → Field} {count : Nat}
    {value : Field} :
    settle stream make (stream.takeBits count) = (after, .ok value) ↔
      count ≤ stream.ahead.length ∧ make (number (stream.ahead.take count)) = value ∧
        after = stream.advance count := by
  rw [takeBits_eq]
  by_cases short : stream.ahead.length < count
  · rw [if_pos short]
    simp only [settle, Prod.mk.injEq, reduceCtorEq, and_false, false_iff]
    rintro ⟨enough, _⟩
    exact Nat.not_lt.mpr enough short
  · rw [if_neg short]
    simp only [settle, Prod.mk.injEq, Except.ok.injEq]
    constructor
    · rintro ⟨moved, made⟩
      exact ⟨Nat.le_of_not_lt short, made, moved.symm⟩
    · rintro ⟨_, made, moved⟩
      exact ⟨moved.symm, made⟩

/-- What is read from so many bits is the field with these bits, if every string of so many
bits makes exactly one field of the type. -/
theorem settle_eq_ok_iff {stream after : BitStream} {make : Nat → Field} {count : Nat}
    {shape value : Field} (size : value.blank = shape.blank → value.toBits.length = count)
    (made : ∀ bits : List Bool, bits.length = count → (make (number bits) = value ↔
      value.blank = shape.blank ∧ value.Exact ∧ value.toBits = bits)) :
    settle stream make (stream.takeBits count) = (after, .ok value) ↔
      value.blank = shape.blank ∧ value.Exact ∧ value.toBits <+: stream.ahead ∧
        after = stream.advance value.toBits.length := by
  rw [settle_takeBits]
  constructor
  · rintro ⟨enough, same, moved⟩
    obtain ⟨typed, canonical, bits⟩ := (made _ (List.length_take_of_le enough)).mp same
    rw [size typed, bits]
    exact ⟨typed, canonical, List.take_prefix _ _, moved⟩
  · rintro ⟨typed, canonical, front, moved⟩
    have enough := front.length_le
    have bits := List.prefix_iff_eq_take.mp front
    rw [size typed] at enough bits moved
    exact ⟨enough, (made _ (List.length_take_of_le enough)).mpr ⟨typed, canonical, bits⟩, moved⟩

/-- The case of a type whose content is a number of whole bytes. -/
theorem settle_whole {β : Type} {stream after : BitStream} {width : Nat} {shape value : Field}
    (wrap : β → Field) (ofNat : Nat → β) (toNat : β → Nat)
    (typed : ∀ field : Field, field.blank = shape.blank ↔ ∃ content, wrap content = field)
    (bits : ∀ content, (wrap content).toBits = bitsOf (Bytes.ofNatLE width (toNat content)))
    (canonical : ∀ content, (wrap content).Exact)
    (bound : ∀ content, toNat content < 2 ^ (width * 8))
    (back : ∀ content, ofNat (toNat content) = content)
    (forth : ∀ number < 2 ^ (width * 8), toNat (ofNat number) = number) :
    settle stream (fun number => wrap (ofNat number)) (stream.takeUInt width) =
        (after, .ok value) ↔
      value.blank = shape.blank ∧ value.Exact ∧ value.toBits <+: stream.ahead ∧
        after = stream.advance value.toBits.length := by
  rw [takeUInt_eq_takeBits]
  apply settle_eq_ok_iff
  · intro same
    obtain ⟨content, rfl⟩ := (typed value).mp same
    rw [bits, length_bitsOf, Bytes.length_ofNatLE, Nat.mul_comm]
  · intro window full
    have small : number window < 2 ^ (width * 8) := full ▸ number_lt window
    constructor
    · rintro rfl
      refine ⟨(typed _).mpr ⟨_, rfl⟩, canonical _, ?_⟩
      rw [bits, forth _ small, bitsOf_ofNatLE_number full]
    · rintro ⟨same, _, rfl⟩
      obtain ⟨content, rfl⟩ := (typed value).mp same
      rw [bits, number_bitsOf_ofNatLE, Nat.mod_eq_of_lt (bound content), back]

theorem read_bool_eq_ok_iff {stream after : BitStream} {content : Bool} {value : Field} :
    stream.read (.bool content) = (after, .ok value) ↔
      value.blank = (Field.bool content).blank ∧ value.Exact ∧ value.toBits <+: stream.ahead ∧
        after = stream.advance value.toBits.length := by
  have step : stream.read (.bool content) = (after, .ok value) ↔
      ∃ bit, stream.takeBit = .ok (bit, after) ∧ Field.bool bit = value := by
    unfold read
    dsimp only
    cases stream.takeBit with
    | error error => simp
    | ok taken =>
        simp only [Prod.mk.injEq, Except.ok.injEq]
        constructor
        · rintro ⟨moved, same⟩
          exact ⟨taken.1, Prod.ext rfl moved, same⟩
        · rintro ⟨bit, rfl, same⟩
          exact ⟨rfl, same⟩
  rw [step]
  constructor
  · rintro ⟨bit, taken, rfl⟩
    obtain ⟨front, moved⟩ := takeBit_eq_ok_iff.mp taken
    exact ⟨rfl, trivial, front, moved⟩
  · rintro ⟨typed, _, front, moved⟩
    cases value with
    | bool bit => exact ⟨bit, takeBit_eq_ok_iff.mpr ⟨front, moved⟩, rfl⟩
    | _ => cases typed

theorem read_bits_eq_ok_iff {stream after : BitStream} {content : UInt32} {count : Nat}
    {value : Field} :
    stream.read (.bits content count) = (after, .ok value) ↔
      value.blank = (Field.bits content count).blank ∧ value.Exact ∧
        value.toBits <+: stream.ahead ∧ after = stream.advance value.toBits.length := by
  apply settle_eq_ok_iff
  · intro typed
    cases value with
    | bits word _ =>
        cases typed
        exact length_lowBits _ _
    | _ => cases typed
  · intro window full
    have small : number window < 2 ^ wordBits count := full ▸ number_lt window
    have word : number window < 2 ^ 32 :=
      Nat.lt_of_lt_of_le small (Nat.pow_le_pow_right (by decide) (Nat.min_le_right _ _))
    constructor
    · rintro rfl
      have same : (UInt32.ofNat (number window)).toNat = number window :=
        UInt32.toNat_ofNat_of_lt word
      refine ⟨rfl, ?_, ?_⟩
      · rw [Field.Exact, same]
        exact small
      · rw [Field.toBits, same, ← full, lowBits_number]
    · rintro ⟨typed, canonical, bits⟩
      cases value with
      | bits content _ =>
          cases typed
          rw [Field.Exact] at canonical
          rw [← bits, Field.toBits, number_lowBits, Nat.mod_eq_of_lt canonical, UInt32.ofNat_toNat]
      | _ => cases typed

theorem read_text_eq_ok_iff {stream after : BitStream} {content : String} {limit : Nat}
    {value : Field} :
    stream.read (.text content limit) = (after, .ok value) ↔
      value.blank = (Field.text content limit).blank ∧ value.Exact ∧
        value.toBits <+: stream.ahead ∧ after = stream.advance value.toBits.length := by
  have step : stream.read (.text content limit) = (after, .ok value) ↔
      ∃ text, stream.takeText limit = (after, .ok text) ∧ Field.text text limit = value := by
    unfold read
    dsimp only
    rcases stream.takeText limit with ⟨left, outcome⟩
    cases outcome with
    | error error => simp
    | ok text => simp [and_assoc]
  rw [step]
  constructor
  · rintro ⟨text, taken, rfl⟩
    obtain ⟨fits, front, moved⟩ := takeText_eq_ok_iff.mp taken
    exact ⟨rfl, fits, front, moved⟩
  · rintro ⟨typed, fits, front, moved⟩
    cases value with
    | text string _ =>
        cases typed
        exact ⟨string, takeText_eq_ok_iff.mpr ⟨fits, front, moved⟩, rfl⟩
    | _ => cases typed

/-- A field that is read is the one of its type whose bits lie ahead, and none is read only
if no such bits lie there. -/
theorem read_eq_ok_iff {stream after : BitStream} {shape value : Field} :
    stream.read shape = (after, .ok value) ↔
      value.blank = shape.blank ∧ value.Exact ∧ value.toBits <+: stream.ahead ∧
        after = stream.advance value.toBits.length := by
  cases shape with
  | bool content => exact read_bool_eq_ok_iff
  | bits content count => exact read_bits_eq_ok_iff
  | u8 content =>
      exact settle_whole .u8 UInt8.ofNat UInt8.toNat
        (fun field => by cases field <;> simp [Field.blank]) (fun _ => rfl) (fun _ => trivial)
        UInt8.toNat_lt (fun _ => UInt8.ofNat_toNat) (fun _ small => UInt8.toNat_ofNat_of_lt small)
  | u16 content =>
      exact settle_whole .u16 UInt16.ofNat UInt16.toNat
        (fun field => by cases field <;> simp [Field.blank]) (fun _ => rfl) (fun _ => trivial)
        UInt16.toNat_lt (fun _ => UInt16.ofNat_toNat)
        (fun _ small => UInt16.toNat_ofNat_of_lt small)
  | u32 content =>
      exact settle_whole .u32 UInt32.ofNat UInt32.toNat
        (fun field => by cases field <;> simp [Field.blank]) (fun _ => rfl) (fun _ => trivial)
        UInt32.toNat_lt (fun _ => UInt32.ofNat_toNat)
        (fun _ small => UInt32.toNat_ofNat_of_lt small)
  | u64 content =>
      exact settle_whole .u64 UInt64.ofNat UInt64.toNat
        (fun field => by cases field <;> simp [Field.blank]) (fun _ => rfl) (fun _ => trivial)
        UInt64.toNat_lt (fun _ => UInt64.ofNat_toNat)
        (fun _ small => UInt64.toNat_ofNat_of_lt small)
  | i32 content =>
      exact settle_whole .i32 (fun word => (UInt32.ofNat word).toInt32)
        (fun content => content.toUInt32.toNat)
        (fun field => by cases field <;> simp [Field.blank]) (fun _ => rfl) (fun _ => trivial)
        (fun content => content.toUInt32.toNat_lt) (fun content => by simp)
        (fun _ small => by
          rw [UInt32.toUInt32_toInt32]
          exact UInt32.toNat_ofNat_of_lt' small)
  | f32 content =>
      exact settle_whole .f32 UInt32.ofNat UInt32.toNat
        (fun field => by cases field <;> simp [Field.blank]) (fun _ => rfl) (fun _ => trivial)
        UInt32.toNat_lt (fun _ => UInt32.ofNat_toNat)
        (fun _ small => UInt32.toNat_ofNat_of_lt small)
  | text content limit => exact read_text_eq_ok_iff

/-! ### Both directions -/

/-- Steps to write, in any order and at any alignment, leave the packing of the bits of all
fields that were not refused; and a step to read, wherever the cursor stands, gives a field
exactly if the bits of that field lie at the cursor, and moves the cursor past them. -/
theorem layout_of_steps :
    (∀ fields : List Field,
      (writer.serializeAll fields).cursor = (fields.flatMap Field.written).length ∧
      (writer.serializeAll fields).buffer.length =
        ((writer.serializeAll fields).cursor + 7) / 8 ∧
      (writer.serializeAll fields).buffer = pack (fields.flatMap Field.written)) ∧
    ∀ (buffer : Bytes) (cursor : Nat) (shape value : Field) (after : BitStream),
      ({ mode := .read, buffer, cursor } : BitStream).serialize shape = (after, .ok value) ↔
        value.blank = shape.blank ∧ value.Exact ∧
          value.toBits <+: (bitsOf buffer).drop cursor ∧
          after = { mode := .read, buffer, cursor := cursor + value.toBits.length } := by
  constructor
  · intro fields
    have written : writer.serializeAll fields = ofBits (fields.flatMap Field.written) :=
      serializeAll_ofBits [] fields
    rw [written]
    exact ⟨rfl, length_pack _, rfl⟩
  · intro buffer cursor shape value after
    exact read_eq_ok_iff

end BitStream

end ReplicaBridge.Bits
