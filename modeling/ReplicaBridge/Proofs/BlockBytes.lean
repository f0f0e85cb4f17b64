/-
Module: ReplicaBridge.Proofs.BlockBytes
Purpose: What a write does to a block, byte by byte: the bytes from its start on are those of
  the patch, and all others are as they were, so writes that share no byte can be exchanged.  And
  the bytes of a scalar: as many as its type is wide, and reading them gives the scalar back.
Main exports: Bytes.slice?, Bytes.copyInto?, Bytes.getElem?_overwrite, Bytes.overwrite_comm,
  Bytes.slice_overwrite, Bytes.slice_congr, Scalar.ofBytes_toBytes, Scalar.StoredAs,
  Scalar.StoredAs.eq_of_toBytes, ScalarType.storedAs_ofBytes
-/
import Mathlib
import ReplicaBridge.Params.Scalar

namespace ReplicaBridge

namespace Bytes

/-! ### With every access checked -/

/-- The bytes from `start` up to `stop`, which must lie in the string. -/
def slice? (bytes : Bytes) (start stop : Nat) : Option Bytes :=
  if start ≤ stop ∧ stop ≤ bytes.length then some (slice bytes start (stop - start)) else none

/-- Copy bytes over those from `start` up to `stop`, which must lie in the string and be as
many. -/
def copyInto? (bytes : Bytes) (start stop : Nat) (source : Bytes) : Option Bytes :=
  if start ≤ stop ∧ stop ≤ bytes.length ∧ source.length = stop - start then
    some (overwrite bytes start source)
  else none

/-! ### Writes -/

/-- A patch as long as the bytes replaces them all. -/
theorem overwrite_all {bytes patch : Bytes} (same : bytes.length = patch.length) :
    overwrite bytes 0 patch = patch := by
  induction bytes generalizing patch with
  | nil => exact (List.length_eq_zero_iff.1 same.symm).symm
  | cons byte rest ih =>
      cases patch with
      | nil => cases same
      | cons new more =>
          have shorter : rest.length = more.length := by simpa using same
          rw [overwrite, ih shorter]

/-- A patch as long as what comes behind the start replaces all of that. -/
theorem overwrite_append (front : Bytes) {back patch : Bytes}
    (same : back.length = patch.length) :
    overwrite (front ++ back) front.length patch = front ++ patch := by
  induction front with
  | nil => exact overwrite_all same
  | cons byte rest ih => rw [List.cons_append, List.length_cons, overwrite, ih, List.cons_append]

/-- A patch that lies within the bytes changes those from its start on. -/
theorem getElem?_overwrite {bytes : Bytes} {start : Nat} {patch : Bytes}
    (within : start + patch.length ≤ bytes.length) (index : Nat) :
    (overwrite bytes start patch)[index]? =
      if start ≤ index ∧ index < start + patch.length then patch[index - start]?
      else bytes[index]? := by
  induction bytes generalizing start patch index with
  | nil =>
      have outside : ¬(start ≤ index ∧ index < start + patch.length) := by
        rw [List.length_nil] at within
        omega
      rw [if_neg outside, overwrite]
  | cons byte rest ih =>
      rw [List.length_cons] at within
      cases start with
      | succ start =>
          cases index with
          | zero => rw [if_neg (by omega), overwrite, List.getElem?_cons_zero,
              List.getElem?_cons_zero]
          | succ index =>
              rw [overwrite, List.getElem?_cons_succ, List.getElem?_cons_succ, ih (by omega)]
              simp only [Nat.add_sub_add_right, Nat.succ_le_succ_iff, Nat.add_right_comm start 1,
                Nat.succ_lt_succ_iff]
      | zero =>
          cases patch with
          | nil => rw [if_neg (by simp), overwrite]
          | cons new more =>
              rw [List.length_cons] at within
              cases index with
              | zero => simp [overwrite]
              | succ index =>
                  rw [overwrite, List.getElem?_cons_succ, ih (by omega)]
                  simp

/-- Of two patches that share no byte either can be written first. -/
theorem overwrite_comm {bytes patch other : Bytes} {start place : Nat}
    (within : start + patch.length ≤ bytes.length) (fits : place + other.length ≤ bytes.length)
    (apart : ∀ index, start ≤ index → index < start + patch.length → place ≤ index →
      ¬index < place + other.length) :
    overwrite (overwrite bytes start patch) place other =
      overwrite (overwrite bytes place other) start patch := by
  have left : place + other.length ≤ (overwrite bytes start patch).length := by
    rwa [length_overwrite]
  have right : start + patch.length ≤ (overwrite bytes place other).length := by
    rwa [length_overwrite]
  apply List.ext_getElem?
  intro index
  rw [getElem?_overwrite left, getElem?_overwrite within, getElem?_overwrite right,
    getElem?_overwrite fits]
  by_cases first : start ≤ index ∧ index < start + patch.length
  · have second : ¬(place ≤ index ∧ index < place + other.length) :=
      fun inside => apart index first.1 first.2 inside.1 inside.2
    rw [if_neg second, if_pos first, if_pos first]
  · rw [if_neg first, if_neg first]

/-! ### Slices -/

theorem getElem?_slice (bytes : Bytes) (start count index : Nat) :
    (slice bytes start count)[index]? = if index < count then bytes[start + index]? else none := by
  rw [slice, List.getElem?_take]
  split
  · rw [List.getElem?_drop]
  · rfl

theorem length_slice {bytes : Bytes} {start count : Nat} (within : start + count ≤ bytes.length) :
    (slice bytes start count).length = count := by
  rw [slice, List.length_take, List.length_drop]
  omega

/-- Bytes that agree where a slice is taken give the same slice. -/
theorem slice_congr {left right : Bytes} {start count : Nat}
    (same : ∀ index, start ≤ index → index < start + count → left[index]? = right[index]?) :
    slice left start count = slice right start count := by
  apply List.ext_getElem?
  intro index
  rw [getElem?_slice, getElem?_slice]
  split
  · exact same (start + index) (by omega) (by omega)
  · rfl

/-- What was written is there. -/
theorem slice_overwrite {bytes : Bytes} {start : Nat} {patch : Bytes}
    (within : start + patch.length ≤ bytes.length) :
    slice (overwrite bytes start patch) start patch.length = patch := by
  apply List.ext_getElem?
  intro index
  rw [getElem?_slice]
  split
  · rw [getElem?_overwrite within, if_pos (by omega), Nat.add_sub_cancel_left]
  · exact (List.getElem?_eq_none (by omega)).symm

end Bytes

namespace Params

/-! ### Scalars -/

namespace Scalar

theorem length_toBytes (value : Scalar) : value.toBytes.length = value.type.width :=
  Bytes.length_ofNatLE _ _

theorem bits_lt (value : Scalar) : value.bits < 2 ^ (8 * value.type.width) := by
  cases value with
  | u8 value => exact value.toNat_lt
  | i8 value => exact value.toUInt8.toNat_lt
  | u16 value => exact value.toNat_lt
  | i16 value => exact value.toUInt16.toNat_lt
  | u32 value => exact value.toNat_lt
  | i32 value => exact value.toUInt32.toNat_lt
  | u64 value => exact value.toNat_lt
  | i64 value => exact value.toUInt64.toNat_lt
  | f32 bits => exact bits.toNat_lt
  | f64 bits => exact bits.toNat_lt
  | bool value => cases value <;> decide

theorem ofBits_bits (value : Scalar) : value.type.ofBits value.bits = value := by
  cases value with
  | bool value => cases value <;> rfl
  | _ => simp [type, bits, ScalarType.ofBits]

/-- Reading the bytes of a value gives it back; floating-point numbers keep their bits. -/
theorem ofBytes_toBytes (value : Scalar) : value.type.ofBytes value.toBytes = value := by
  rw [ScalarType.ofBytes, toBytes, Bytes.toNatLE_ofNatLE, Nat.one_shiftLeft,
    Nat.mod_eq_of_lt value.bits_lt, ofBits_bits]

/-- The bytes hold the value: they are its own, or they are a byte that is not zero, which holds
what is true. -/
def StoredAs : Scalar → Bytes → Prop
  | .bool flag, bytes => ∃ byte, bytes = [byte] ∧ (flag = true ↔ byte ≠ 0)
  | value, bytes => value.toBytes = bytes

/-- Of one type only one value is stored as another's bytes. -/
theorem StoredAs.eq_of_toBytes {left right : Scalar} (stored : left.StoredAs right.toBytes)
    (type : left.type = right.type) : left = right := by
  have same (written : left.toBytes = right.toBytes) : left = right := by
    rw [← left.ofBytes_toBytes, ← right.ofBytes_toBytes, type, written]
  cases left with
  | bool flag =>
      cases right with
      | bool other =>
          obtain ⟨byte, written, iff⟩ := stored
          have set : byte ≠ 0 ↔ other = true := by
            cases other <;> (cases written; decide)
          exact congrArg bool (Bool.eq_iff_iff.mpr (iff.trans set))
      | _ => cases type
  | _ => exact same stored

end Scalar

namespace ScalarType

theorem toNatLE_lt (bytes : Bytes) : Bytes.toNatLE bytes < 2 ^ (8 * bytes.length) := by
  have back := Bytes.toNatLE_ofNatLE bytes.length (Bytes.toNatLE bytes)
  rw [Bytes.ofNatLE_toNatLE, Nat.one_shiftLeft] at back
  rw [back]
  exact Nat.mod_lt _ (Nat.two_pow_pos _)

/-- What is read from bytes is what they hold. -/
theorem storedAs_ofBytes {type : ScalarType} {bytes : Bytes} (full : bytes.length = type.width) :
    (type.ofBytes bytes).StoredAs bytes := by
  have small := toNatLE_lt bytes
  have back := Bytes.ofNatLE_toNatLE bytes
  rw [full] at small back
  cases type with
  | bool =>
      obtain ⟨byte, rfl⟩ := List.length_eq_one_iff.mp full
      refine ⟨byte, rfl, ?_⟩
      simp [Bytes.toNatLE, ← UInt8.toNat_inj]
  | _ =>
      simp only [width, Nat.reduceMul, Nat.reducePow] at small back
      simp [ofBytes, ofBits, Scalar.StoredAs, Scalar.toBytes, Scalar.type, Scalar.bits, width,
        Nat.mod_eq_of_lt small, back]

end ScalarType

end Params

end ReplicaBridge
