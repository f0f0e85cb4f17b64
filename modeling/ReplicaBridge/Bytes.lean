/-
Module: ReplicaBridge.Bytes
Purpose: Byte strings and the little-endian reading and writing of natural numbers,
  shared by the bit stream and by parameter blocks.
Main exports: Bytes, Bytes.ofNatLE, Bytes.toNatLE, Bytes.overwrite, Bytes.slice
-/

namespace ReplicaBridge

/-- A byte string. Frames and parameter blocks are short, so a list serves. -/
abbrev Bytes := List UInt8

namespace Bytes

/-- The `count` low bytes of `value`, least significant first. -/
def ofNatLE : (count : Nat) → (value : Nat) → Bytes
  | 0, _ => []
  | count + 1, value => UInt8.ofNat value :: ofNatLE count (value / 256)

/-- The number whose base-256 digits, least significant first, are the bytes. -/
def toNatLE : Bytes → Nat
  | [] => 0
  | byte :: rest => byte.toNat + 256 * toNatLE rest

/-- The `count` bytes from `start` on, fewer if the string ends before. -/
def slice (bytes : Bytes) (start count : Nat) : Bytes :=
  (bytes.drop start).take count

/-- Replace the bytes from `start` on by `patch`, keeping the length: what would
lie past the end is dropped. -/
def overwrite : (bytes : Bytes) → (start : Nat) → (patch : Bytes) → Bytes
  | [], _, _ => []
  | byte :: rest, start + 1, patch => byte :: overwrite rest start patch
  | byte :: rest, 0, [] => byte :: rest
  | _ :: rest, 0, new :: patch => new :: overwrite rest 0 patch

/-- A byte string of zeros. -/
def zeros (count : Nat) : Bytes :=
  List.replicate count 0

theorem length_ofNatLE (count value : Nat) : (ofNatLE count value).length = count := by
  induction count generalizing value with
  | zero => rfl
  | succ count ih => simp [ofNatLE, ih]

theorem length_overwrite (bytes : Bytes) (start : Nat) (patch : Bytes) :
    (overwrite bytes start patch).length = bytes.length := by
  induction bytes generalizing start patch with
  | nil => cases start <;> rfl
  | cons byte rest ih =>
    cases start with
    | succ start => simp [overwrite, ih]
    | zero => cases patch <;> simp [overwrite, ih]

/-- Reading back what was written gives the value, reduced to the bytes written. -/
theorem toNatLE_ofNatLE (count value : Nat) :
    toNatLE (ofNatLE count value) = value % (1 <<< (8 * count)) := by
  induction count generalizing value with
  | zero => simp [ofNatLE, toNatLE, Nat.mod_one]
  | succ count ih =>
    have bound : 1 <<< (8 * (count + 1)) = 256 * (1 <<< (8 * count)) := by
      calc
        1 <<< (8 * (count + 1)) = 2 ^ (8 * count + 8) := Nat.one_shiftLeft _
        _ = 2 ^ (8 * count) * 2 ^ 8 := Nat.pow_add 2 (8 * count) 8
        _ = 256 * 2 ^ (8 * count) := Nat.mul_comm _ _
        _ = 256 * (1 <<< (8 * count)) := congrArg (256 * ·) (Nat.one_shiftLeft _).symm
    simp only [ofNatLE, toNatLE, ih, bound]
    rw [UInt8.toNat_ofNat', Nat.mod_mul]

/-- Writing the number of a byte string gives it back. -/
theorem ofNatLE_toNatLE (bytes : Bytes) : ofNatLE bytes.length (toNatLE bytes) = bytes := by
  induction bytes with
  | nil => rfl
  | cons byte rest ih =>
    have small := byte.toNat_lt
    have low : UInt8.ofNat (byte.toNat + 256 * toNatLE rest) = byte := by
      rw [← UInt8.toNat_inj, UInt8.toNat_ofNat']
      omega
    have high : (byte.toNat + 256 * toNatLE rest) / 256 = toNatLE rest := by omega
    rw [List.length_cons, toNatLE, ofNatLE, low, high, ih]

end Bytes

end ReplicaBridge
