/-
Module: ReplicaBridge.Proofs.BlockAccess
Purpose: Access to a parameter block at offsets that a host hands out, which may be any word.  The
  end of a range is summed without wrapping, so the words are checked exactly as numbers would
  be and no byte outside of the block is ever asked for.  A write that is refused leaves the
  block; one that is not changes its own bytes only, is read back, and can be exchanged with any
  write that shares no byte with it.
Main exports: Params.Place, Params.Place.Spans, Params.Place.Apart, ParameterBlock.writeAt,
  ParameterBlock.readAt, ParameterBlock.writeStaged?, ParameterBlock.readStaged?,
  ParameterBlock.lawful_access
-/
import ReplicaBridge.Params.Block
import ReplicaBridge.Proofs.BlockBytes

namespace ReplicaBridge.Params

/-- The width of a type as a word. -/
theorem ScalarType.toNat_ofNat_width (type : ScalarType) :
    (UInt64.ofNat type.width).toNat = type.width := by
  cases type <;> rfl

/-! ### Places -/

/-- Where a value is looked for: at a bare offset, or in a slot. -/
inductive Place where
  | bare (offset : UInt64)
  | inSlot (slot : ParamSlot)
deriving Repr, DecidableEq

namespace Place

/-- Where the bytes of a value start. -/
def offset : Place → UInt64
  | .bare offset => offset
  | .inSlot slot => slot.offset

/-- A slot takes only a type of exactly its size. -/
def Takes : Place → ScalarType → Prop
  | .bare _, _ => True
  | .inSlot slot, type => slot.size.toNat = type.width

/-- One past the last byte of a value, as a number. -/
def bound (place : Place) (type : ScalarType) : Nat :=
  place.offset.toNat + type.width

/-- A byte is one of the value's. -/
def Spans (place : Place) (type : ScalarType) (index : Nat) : Prop :=
  place.offset.toNat ≤ index ∧ index < place.bound type

/-- Two values share no byte. -/
def Apart (place : Place) (type : ScalarType) (other : Place) (kind : ScalarType) : Prop :=
  ∀ index, place.Spans type index → ¬other.Spans kind index

end Place

namespace ParameterBlock

variable {block after : ParameterBlock} {place other : Place} {value second : Scalar}
  {type kind : ScalarType}

/-- Write a value at a place. -/
def writeAt (block : ParameterBlock) : Place → Scalar → Except InvokeError ParameterBlock
  | .bare offset, value => block.write offset.toNat value
  | .inSlot slot, value => block.writeSlot slot value

/-- Read a value at a place. -/
def readAt (block : ParameterBlock) : Place → ScalarType → Except InvokeError Scalar
  | .bare offset, type => block.read offset.toNat type
  | .inSlot slot, type => block.readSlot slot type

/-- The block with the bytes of a value from where a place starts. -/
def putAt (block : ParameterBlock) (place : Place) (value : Scalar) : ParameterBlock :=
  { bytes := Bytes.overwrite block.bytes place.offset.toNat value.toBytes }

/-- The bytes of a type from where a place starts. -/
def bytesAt (block : ParameterBlock) (place : Place) (type : ScalarType) : Bytes :=
  Bytes.slice block.bytes place.offset.toNat type.width

/-! ### Bounds -/

theorem write_ok_iff {offset : Nat} :
    block.write offset value = .ok after ↔ offset + value.type.width ≤ block.length ∧
      after = { bytes := Bytes.overwrite block.bytes offset value.toBytes } := by
  unfold write checkRange
  by_cases outside : block.length < offset + value.type.width
  · rw [if_pos outside]
    exact ⟨nofun, fun ⟨within, _⟩ => absurd within (Nat.not_le_of_lt outside)⟩
  · rw [if_neg outside]
    constructor
    · rintro ⟨⟩
      exact ⟨Nat.le_of_not_lt outside, rfl⟩
    · rintro ⟨-, rfl⟩
      rfl

theorem read_ok_iff {offset : Nat} {found : Scalar} :
    block.read offset type = .ok found ↔ offset + type.width ≤ block.length ∧
      found = type.ofBytes (Bytes.slice block.bytes offset type.width) := by
  unfold read checkRange
  by_cases outside : block.length < offset + type.width
  · rw [if_pos outside]
    exact ⟨nofun, fun ⟨within, _⟩ => absurd within (Nat.not_le_of_lt outside)⟩
  · rw [if_neg outside]
    constructor
    · rintro ⟨⟩
      exact ⟨Nat.le_of_not_lt outside, rfl⟩
    · rintro ⟨-, rfl⟩
      rfl

theorem checkSlot_ok_iff {slot : ParamSlot} :
    checkSlot slot type = .ok () ↔ slot.size.toNat = type.width := by
  unfold checkSlot
  split
  · rename_i same
    exact iff_of_true rfl same
  · rename_i differs
    exact iff_of_false nofun differs

/-- A value is written at a place that takes its type and lies in the block. -/
theorem writeAt_ok_iff :
    block.writeAt place value = .ok after ↔
      place.Takes value.type ∧ place.bound value.type ≤ block.length ∧
        after = block.putAt place value := by
  cases place with
  | bare offset => exact write_ok_iff.trans (iff_of_eq (true_and _)).symm
  | inSlot slot =>
      rw [writeAt, writeSlot]
      cases checked : checkSlot slot value.type with
      | error error =>
          refine ⟨nofun, fun ⟨takes, _⟩ => ?_⟩
          cases checked.symm.trans (checkSlot_ok_iff.mpr takes)
      | ok =>
          exact write_ok_iff.trans (and_iff_right (checkSlot_ok_iff.mp checked)).symm

/-- A value is read at a place that takes its type and lies in the block. -/
theorem readAt_ok_iff {found : Scalar} :
    block.readAt place type = .ok found ↔
      place.Takes type ∧ place.bound type ≤ block.length ∧
        found = type.ofBytes (block.bytesAt place type) := by
  cases place with
  | bare offset => exact read_ok_iff.trans (iff_of_eq (true_and _)).symm
  | inSlot slot =>
      rw [readAt, readSlot]
      cases checked : checkSlot slot type with
      | error error =>
          refine ⟨nofun, fun ⟨takes, _⟩ => ?_⟩
          cases checked.symm.trans (checkSlot_ok_iff.mpr takes)
      | ok =>
          exact read_ok_iff.trans (and_iff_right (checkSlot_ok_iff.mp checked)).symm

/-- What is read depends on the size of the block and on the bytes of the value only. -/
theorem read_congr {left right : ParameterBlock} {offset : Nat}
    (length : left.length = right.length)
    (same : Bytes.slice left.bytes offset type.width = Bytes.slice right.bytes offset type.width) :
    left.read offset type = right.read offset type := by
  simp only [read, checkRange, length, same]

theorem readAt_congr {left right : ParameterBlock} (length : left.length = right.length)
    (same : left.bytesAt place type = right.bytesAt place type) :
    left.readAt place type = right.readAt place type := by
  cases place with
  | bare offset => exact read_congr length same
  | inSlot slot =>
      have read : left.read slot.offset.toNat type = _ := read_congr length same
      rw [readAt, readAt, readSlot, readSlot, read]

/-! ### Writes -/

@[simp] theorem length_putAt (block : ParameterBlock) (place : Place) (value : Scalar) :
    (block.putAt place value).length = block.length :=
  Bytes.length_overwrite _ _ _

/-- The bytes of a value that is in bounds, as a patch. -/
theorem patch_within (within : place.bound value.type ≤ block.length) :
    place.offset.toNat + value.toBytes.length ≤ block.bytes.length := by
  rw [value.length_toBytes]
  exact within

theorem putAt_outside (within : place.bound value.type ≤ block.length) {index : Nat}
    (outside : ¬place.Spans value.type index) :
    (block.putAt place value).bytes[index]? = block.bytes[index]? := by
  rw [Place.Spans, Place.bound, ← value.length_toBytes] at outside
  exact (Bytes.getElem?_overwrite (patch_within within) index).trans (if_neg outside)

theorem bytesAt_putAt_self (within : place.bound value.type ≤ block.length)
    (back : other.offset = place.offset) :
    (block.putAt place value).bytesAt other value.type = value.toBytes := by
  rw [bytesAt, putAt, back, ← value.length_toBytes]
  exact Bytes.slice_overwrite (patch_within within)

theorem bytesAt_putAt_apart (within : place.bound value.type ≤ block.length)
    (apart : place.Apart value.type other kind) :
    (block.putAt place value).bytesAt other kind = block.bytesAt other kind :=
  Bytes.slice_congr fun index least below =>
    putAt_outside within fun inside => apart index inside ⟨least, below⟩

theorem putAt_comm (within : place.bound value.type ≤ block.length)
    (fits : other.bound second.type ≤ block.length)
    (apart : place.Apart value.type other second.type) :
    (block.putAt place value).putAt other second =
      (block.putAt other second).putAt place value := by
  refine congrArg mk (Bytes.overwrite_comm (patch_within within) (patch_within fits) ?_)
  rw [value.length_toBytes, second.length_toBytes]
  intro index least below least' below'
  exact apart index ⟨least, below⟩ ⟨least', below'⟩

/-! ### With words, and every access checked -/

/-- The sum of two words, unless it goes past the greatest. -/
def checkedSum (left right : UInt64) : Option UInt64 :=
  if left.toNat + right.toNat < UInt64.size then some (left + right) else none

/-- From where to where a range goes, if it lies in the block.  The greatest word stands for a
stop past it. -/
def wordRange (block : ParameterBlock) (offset size : UInt64) :
    Except InvokeError (UInt64 × UInt64) :=
  let stop := (checkedSum offset size).getD (UInt64.ofNat (UInt64.size - 1))
  if block.length < stop.toNat then .error (.outOfBounds offset.toNat size.toNat block.length)
  else .ok (offset, stop)

/-- Write to the bytes that a range of words goes over; nothing if they are not all in the block
or not as many as the value's.  The block is changed in place, so one is left by a refusal too. -/
def writeWords? (block : ParameterBlock) (offset : UInt64) (value : Scalar) :
    Option (ParameterBlock × Except InvokeError Unit) :=
  match block.wordRange offset (UInt64.ofNat value.type.width) with
  | .error error => some (block, .error error)
  | .ok (start, stop) => do
    let bytes ← block.bytes.copyInto? start.toNat stop.toNat value.toBytes
    return ({ bytes }, .ok ())

/-- Read from the bytes that a range of words goes over, by way of room for a value of the type;
nothing if they are not all in the block or do not fill that room. -/
def readWords? (block : ParameterBlock) (offset : UInt64) (type : ScalarType) :
    Option (Except InvokeError Scalar) :=
  match block.wordRange offset (UInt64.ofNat type.width) with
  | .error error => some (.error error)
  | .ok (start, stop) => do
    let taken ← block.bytes.slice? start.toNat stop.toNat
    let room ← (Bytes.zeros type.width).copyInto? 0 type.width taken
    return .ok (type.ofBytes room)

/-- Write at a place, every access checked. -/
def writeStaged? (block : ParameterBlock) :
    Place → Scalar → Option (ParameterBlock × Except InvokeError Unit)
  | .bare offset, value => block.writeWords? offset value
  | .inSlot slot, value =>
    match checkSlot slot value.type with
    | .error error => some (block, .error error)
    | .ok () => block.writeWords? slot.offset value

/-- Read at a place, every access checked. -/
def readStaged? (block : ParameterBlock) : Place → ScalarType → Option (Except InvokeError Scalar)
  | .bare offset, type => block.readWords? offset type
  | .inSlot slot, type =>
    match checkSlot slot type with
    | .error error => some (.error error)
    | .ok () => block.readWords? slot.offset type

/-- What a write leaves: the block with the value, or the block as it was and why. -/
def leave (block : ParameterBlock) :
    Except InvokeError ParameterBlock → ParameterBlock × Except InvokeError Unit
  | .ok after => (after, .ok ())
  | .error error => (block, .error error)

section Room

variable (room : block.length ≤ Fault.maxRoom) {offset size : UInt64}

include room

/-- No block reaches the greatest word, so a stop past it is past the block. -/
theorem wordRange_of_past (past : block.length < offset.toNat + size.toNat) :
    block.wordRange offset size =
      .error (.outOfBounds offset.toNat size.toNat block.length) := by
  have short : block.length < UInt64.size - 1 := Nat.lt_of_le_of_lt room (by decide)
  unfold wordRange checkedSum
  split
  · rename_i fits
    have sum : (offset + size).toNat = offset.toNat + size.toNat := by
      rw [UInt64.toNat_add, Nat.mod_eq_of_lt fits]
    exact if_pos (sum ▸ past)
  · exact if_pos short

theorem wordRange_of_within (within : offset.toNat + size.toNat ≤ block.length) :
    ∃ stop, block.wordRange offset size = .ok (offset, stop) ∧
      stop.toNat = offset.toNat + size.toNat := by
  have fits : offset.toNat + size.toNat < UInt64.size :=
    Nat.lt_of_le_of_lt (within.trans room) (by decide)
  have sum : (offset + size).toNat = offset.toNat + size.toNat := by
    rw [UInt64.toNat_add, Nat.mod_eq_of_lt fits]
  refine ⟨offset + size, ?_, sum⟩
  unfold wordRange checkedSum
  rw [if_pos fits, Option.getD_some, if_neg (by omega)]

theorem writeWords?_eq : block.writeWords? offset value =
    some (block.leave (block.write offset.toNat value)) := by
  have width := value.type.toNat_ofNat_width
  unfold writeWords? write checkRange
  by_cases past : block.length < offset.toNat + value.type.width
  · rw [if_pos past, wordRange_of_past room (by rwa [width]), width]
    rfl
  · obtain ⟨stop, range, ends⟩ := wordRange_of_within room
      (show offset.toNat + (UInt64.ofNat value.type.width).toNat ≤ block.length by omega)
    have inside : offset.toNat ≤ stop.toNat ∧ stop.toNat ≤ block.bytes.length ∧
        value.toBytes.length = stop.toNat - offset.toNat := by
      rw [ends, width, value.length_toBytes]
      exact ⟨Nat.le_add_right _ _, Nat.le_of_not_lt past, by omega⟩
    rw [if_neg past, range]
    simp only [Bytes.copyInto?, if_pos inside]
    rfl

theorem readWords?_eq : block.readWords? offset type = some (block.read offset.toNat type) := by
  have width := type.toNat_ofNat_width
  unfold readWords? read checkRange
  by_cases past : block.length < offset.toNat + type.width
  · rw [if_pos past, wordRange_of_past room (by rwa [width]), width]
  · obtain ⟨stop, range, ends⟩ := wordRange_of_within room
      (show offset.toNat + (UInt64.ofNat type.width).toNat ≤ block.length by omega)
    have inside : offset.toNat ≤ stop.toNat ∧ stop.toNat ≤ block.bytes.length := by
      rw [ends, width]
      exact ⟨Nat.le_add_right _ _, Nat.le_of_not_lt past⟩
    have many : stop.toNat - offset.toNat = type.width := by omega
    have taken : (Bytes.slice block.bytes offset.toNat type.width).length = type.width :=
      Bytes.length_slice (Nat.le_of_not_lt past)
    have zeros : (Bytes.zeros type.width).length = type.width := List.length_replicate
    rw [if_neg past, range]
    simp only [Bytes.slice?, if_pos inside, many, Option.bind_eq_bind, Option.bind_some,
      Bytes.copyInto?, zeros, taken, Nat.zero_le, Nat.le_refl, Nat.sub_zero, and_self, if_true,
      Bytes.overwrite_all (zeros.trans taken.symm)]
    rfl

/-- No access goes outside of the block, and what comes of a write is as with plain numbers. -/
theorem writeStaged?_eq : block.writeStaged? place value =
    some (block.leave (block.writeAt place value)) := by
  cases place with
  | bare offset => exact writeWords?_eq room
  | inSlot slot =>
      rw [writeStaged?, writeAt, writeSlot]
      cases checkSlot slot value.type with
      | error error => rfl
      | ok => exact writeWords?_eq room

theorem readStaged?_eq : block.readStaged? place type = some (block.readAt place type) := by
  cases place with
  | bare offset => exact readWords?_eq room
  | inSlot slot =>
      rw [readStaged?, readAt, readSlot]
      cases checkSlot slot type with
      | error error => rfl
      | ok => exact readWords?_eq room

end Room

/-! ### The laws of access -/

/-- A value is written, or read, just when its type is one that the place takes and its end, as a
number, is in the block.  Words come to the same, for no block is larger than memory: no byte
outside of it is asked for, and a refused write leaves the block.  Any other write keeps the size
and all bytes but the value's own, and the value is read back; what shares no byte with it is
read as before, and is written before or after it alike. -/
theorem lawful_access (block : ParameterBlock) (place : Place) (value : Scalar) :
    ((∃ after, block.writeAt place value = .ok after) ↔
      place.Takes value.type ∧ place.bound value.type ≤ block.length) ∧
    (∀ type, (∃ found, block.readAt place type = .ok found) ↔
      place.Takes type ∧ place.bound type ≤ block.length) ∧
    (block.length ≤ Fault.maxRoom →
      block.writeStaged? place value = some (block.leave (block.writeAt place value)) ∧
      (∀ left error, block.writeStaged? place value = some (left, .error error) → left = block) ∧
      ∀ type, block.readStaged? place type = some (block.readAt place type)) ∧
    ∀ after, block.writeAt place value = .ok after →
      after.length = block.length ∧
      (∀ index, ¬place.Spans value.type index → after.bytes[index]? = block.bytes[index]?) ∧
      (∀ back : Place, back.offset = place.offset → back.Takes value.type →
        after.readAt back value.type = .ok value) ∧
      ∀ (other : Place),
        (∀ kind, place.Apart value.type other kind →
          after.readAt other kind = block.readAt other kind) ∧
        ∀ second beside, place.Apart value.type other second.type →
          block.writeAt other second = .ok beside → ∃ both,
            after.writeAt other second = .ok both ∧ beside.writeAt place value = .ok both := by
  refine ⟨?_, fun type => ?_, fun room => ⟨writeStaged?_eq room, ?_, fun _ => readStaged?_eq room⟩,
    fun after written => ?_⟩
  · exact ⟨fun ⟨_, written⟩ => ⟨(writeAt_ok_iff.mp written).1, (writeAt_ok_iff.mp written).2.1⟩,
      fun ⟨takes, within⟩ => ⟨_, writeAt_ok_iff.mpr ⟨takes, within, rfl⟩⟩⟩
  · exact ⟨fun ⟨_, found⟩ => ⟨(readAt_ok_iff.mp found).1, (readAt_ok_iff.mp found).2.1⟩,
      fun ⟨takes, within⟩ => ⟨_, readAt_ok_iff.mpr ⟨takes, within, rfl⟩⟩⟩
  · intro left error refused
    rw [writeStaged?_eq room] at refused
    cases answer : block.writeAt place value with
    | ok after =>
        rw [answer] at refused
        cases refused
    | error _ =>
        rw [answer] at refused
        cases refused
        rfl
  · obtain ⟨takes, within, rfl⟩ := writeAt_ok_iff.mp written
    refine ⟨length_putAt .., fun index => putAt_outside within, fun back start fits => ?_,
      fun other => ⟨fun kind apart => ?_, fun second beside apart also => ?_⟩⟩
    · refine readAt_ok_iff.mpr ⟨fits, ?_, ?_⟩
      · rwa [length_putAt, Place.bound, start]
      · rw [bytesAt_putAt_self within start, value.ofBytes_toBytes]
    · exact readAt_congr (length_putAt ..) (bytesAt_putAt_apart within apart)
    · obtain ⟨takes', within', rfl⟩ := writeAt_ok_iff.mp also
      refine ⟨(block.putAt place value).putAt other second, writeAt_ok_iff.mpr ⟨takes', ?_, rfl⟩,
        writeAt_ok_iff.mpr ⟨takes, ?_, putAt_comm within within' apart⟩⟩
      · rwa [length_putAt]
      · rwa [length_putAt]

/-- A quiet NaN with a payload goes into a slot at the end of the block, and keeps its bits; a
number beside it is written before or after alike.  From the greatest word on there is no room
for two bytes, though the sum would wrap to one. -/
theorem lawful_access_at_the_ends :
    let block := ofSize 8
    let speed : Place := .inSlot { name := "speed", offset := 4, size := 4, flags := 0 }
    let count : Place := .bare 2
    let last : Place := .bare 0xFFFFFFFFFFFFFFFF
    (∃ after, block.writeAt speed (.f32 0x7FC00001) = .ok after ∧
      after.readAt speed .f32 = .ok (.f32 0x7FC00001) ∧
      after.readAt count .u16 = .ok (.u16 0) ∧
      ∃ both, after.writeAt count (.u16 7) = .ok both ∧
        both.bytes = [0, 0, 7, 0, 1, 0, 0xC0, 0x7F]) ∧
    block.writeStaged? last (.u16 7) =
      some (block, .error (.outOfBounds 0xFFFFFFFFFFFFFFFF 2 8)) := by
  intro block speed count last
  obtain ⟨writes, -, -, keeps⟩ := lawful_access block speed (.f32 0x7FC00001)
  obtain ⟨after, written⟩ := writes.mpr ⟨rfl, by decide⟩
  obtain ⟨-, -, back, others⟩ := keeps after written
  have apart (index : Nat) (inside : speed.Spans .f32 index) : ¬count.Spans .u16 index := by
    have least : 4 ≤ index := inside.1
    intro within
    have below : index < 4 := within.2
    omega
  obtain ⟨beside, also⟩ := (lawful_access block count (.u16 7)).1.mpr ⟨trivial, by decide⟩
  obtain ⟨both, later, -⟩ := (others count).2 (.u16 7) beside apart also
  refine ⟨⟨after, written, back speed rfl rfl, ?_, both, later, ?_⟩, ?_⟩
  · exact ((others count).1 .u16 apart).trans (by decide)
  · cases written
    cases later
    decide
  · exact ((lawful_access block last (.u16 7)).2.2.1 (by decide)).1

end ParameterBlock

end ReplicaBridge.Params
