/-
Module: ReplicaBridge.Proofs.BitLayout
Purpose: Bit strings: the bits of numbers and of bytes, low bit first, and the packing of
  bits into bytes.  Reading bits out of a byte string and packing them again agree.
Main exports: Bits.lowBits, Bits.number, Bits.bitsOf, Bits.pack, Bits.pack_bitsOf,
  Bits.pack_append_bitsOf, Bits.pack_concat, Bits.gather_eq_number, Bits.toNatLE_eq_number,
  Bits.padding, Bits.bitsOf_pack_eq
-/
import Mathlib
import ReplicaBridge.Bits.Stream

namespace ReplicaBridge.Bits

/-! ### The bits of a number -/

/-- The `count` low bits of a number, low bit first. -/
def lowBits : (count value : Nat) → List Bool
  | 0, _ => []
  | count + 1, value => (value % 2 == 1) :: lowBits count (value / 2)

/-- The number whose binary digits are the bits, low bit first. -/
def number : List Bool → Nat
  | [] => 0
  | bit :: rest => bit.toNat + 2 * number rest

@[simp] theorem length_lowBits (count value : Nat) : (lowBits count value).length = count := by
  induction count generalizing value with
  | zero => rfl
  | succ count ih => simp [lowBits, ih]

theorem number_lt (bits : List Bool) : number bits < 2 ^ bits.length := by
  induction bits with
  | nil => simp [number]
  | cons bit rest ih =>
      have low : bit.toNat ≤ 1 := Bool.toNat_le bit
      simp only [number, List.length_cons, Nat.pow_succ]
      omega

theorem number_append (low high : List Bool) :
    number (low ++ high) = number low + 2 ^ low.length * number high := by
  induction low with
  | nil => simp [number]
  | cons bit rest ih =>
      simp only [List.cons_append, number, ih, List.length_cons, Nat.pow_succ]
      rw [Nat.mul_add, Nat.mul_right_comm, Nat.mul_comm (2 ^ rest.length * number high) 2,
        Nat.add_assoc]

/-- Bits are dropped by shifting them out. -/
theorem number_drop (count : Nat) (bits : List Bool) :
    number (bits.drop count) = number bits >>> count := by
  induction count generalizing bits with
  | zero => rfl
  | succ count ih =>
      cases bits with
      | nil => simp [number]
      | cons bit rest =>
          have low : bit.toNat / 2 = 0 := Nat.div_eq_of_lt (Bool.toNat_lt bit)
          rw [List.drop_succ_cons, ih, Nat.shiftRight_succ_inside, number,
            Nat.add_mul_div_left _ _ (by decide), low, Nat.zero_add]

/-- The low bits of a number make the number again, reduced to so many bits. -/
theorem number_lowBits (count value : Nat) : number (lowBits count value) = value % 2 ^ count := by
  induction count generalizing value with
  | zero => simp [lowBits, number, Nat.mod_one]
  | succ count ih =>
      have low : (value % 2 == 1).toNat = value % 2 := by
        rcases Nat.mod_two_eq_zero_or_one value with even | odd
        · simp [even]
        · simp [odd]
      rw [lowBits, number, ih, low, Nat.pow_succ, Nat.mul_comm (2 ^ count) 2, Nat.mod_mul]

/-- Bits are the low bits of the number they make. -/
theorem lowBits_number (bits : List Bool) : lowBits bits.length (number bits) = bits := by
  induction bits with
  | nil => rfl
  | cons bit rest ih =>
      have half : (bit.toNat + 2 * number rest) / 2 = number rest := by
        have low : bit.toNat ≤ 1 := Bool.toNat_le bit
        omega
      have parity : ((bit.toNat + 2 * number rest) % 2 == 1) = bit := by
        cases bit <;> simp [Nat.add_mod]
      simp only [List.length_cons, number, lowBits, half, parity, ih]

/-- Bits of one length that make the same number are the same. -/
theorem number_inj {left right : List Bool} (lengths : left.length = right.length)
    (numbers : number left = number right) : left = right := by
  rw [← lowBits_number left, ← lowBits_number right, lengths, numbers]

theorem lowBits_add (low high value : Nat) :
    lowBits (low + high) value = lowBits low value ++ lowBits high (value / 2 ^ low) := by
  induction low generalizing value with
  | zero => simp [lowBits]
  | succ low ih =>
      have halves : value / 2 / 2 ^ low = value / 2 ^ (low + 1) := by
        rw [Nat.div_div_eq_div_mul, Nat.pow_succ, Nat.mul_comm]
      rw [Nat.succ_add, lowBits, ih, halves]
      rfl

/-- Only the low bits count. -/
theorem lowBits_mod (count value : Nat) : lowBits count (value % 2 ^ count) =
    lowBits count value := by
  apply number_inj
  · simp
  · simp [number_lowBits]

/-! ### The bits of bytes -/

/-- The bits of a byte string, from the low bit of its first byte on. -/
def bitsOf (bytes : Bytes) : List Bool :=
  bytes.flatMap fun byte => lowBits 8 byte.toNat

@[simp] theorem bitsOf_nil : bitsOf [] = [] := rfl

@[simp] theorem bitsOf_cons (byte : UInt8) (rest : Bytes) :
    bitsOf (byte :: rest) = lowBits 8 byte.toNat ++ bitsOf rest := rfl

@[simp] theorem bitsOf_append (front back : Bytes) :
    bitsOf (front ++ back) = bitsOf front ++ bitsOf back :=
  List.flatMap_append

@[simp] theorem length_bitsOf (bytes : Bytes) : (bitsOf bytes).length = 8 * bytes.length := by
  induction bytes with
  | nil => rfl
  | cons byte rest ih =>
      rw [bitsOf_cons, List.length_append, length_lowBits, ih, List.length_cons]
      omega

/-- A little-endian number has its low bits first. -/
theorem bitsOf_ofNatLE (width value : Nat) :
    bitsOf (Bytes.ofNatLE width value) = lowBits (width * 8) value := by
  induction width generalizing value with
  | zero => rfl
  | succ width ih =>
      have byte : lowBits 8 (UInt8.ofNat value).toNat = lowBits 8 value := by
        rw [UInt8.toNat_ofNat']
        exact lowBits_mod 8 value
      have both : lowBits (8 + width * 8) value =
          lowBits 8 value ++ lowBits (width * 8) (value / 256) := lowBits_add 8 (width * 8) value
      rw [Bytes.ofNatLE, bitsOf_cons, byte, ih, Nat.succ_mul, Nat.add_comm (width * 8) 8, both]

/-- Bits that fill whole bytes are those of the little-endian number they make. -/
theorem bitsOf_ofNatLE_number {bits : List Bool} {width : Nat} (full : bits.length = width * 8) :
    bitsOf (Bytes.ofNatLE width (number bits)) = bits := by
  rw [bitsOf_ofNatLE, ← full, lowBits_number]

theorem number_bitsOf_ofNatLE (width value : Nat) :
    number (bitsOf (Bytes.ofNatLE width value)) = value % 2 ^ (width * 8) := by
  rw [bitsOf_ofNatLE, number_lowBits]

/-- The number of the bits of a byte string is the little-endian number of the bytes. -/
theorem toNatLE_eq_number (bytes : Bytes) : Bytes.toNatLE bytes = number (bitsOf bytes) := by
  induction bytes with
  | nil => rfl
  | cons byte rest ih =>
      have both : number (lowBits 8 byte.toNat ++ bitsOf rest) =
          byte.toNat % 256 + 256 * number (bitsOf rest) := by
        have appended := number_append (lowBits 8 byte.toNat) (bitsOf rest)
        rw [number_lowBits, length_lowBits] at appended
        exact appended
      rw [Bytes.toNatLE, bitsOf_cons, both, ih, Nat.mod_eq_of_lt byte.toNat_lt]

theorem bitsOf_drop (count : Nat) (bytes : Bytes) :
    bitsOf (bytes.drop count) = (bitsOf bytes).drop (8 * count) := by
  induction bytes generalizing count with
  | nil => simp
  | cons byte rest ih =>
      cases count with
      | zero => rfl
      | succ count =>
          rw [List.drop_succ_cons, ih, bitsOf_cons, Nat.mul_succ, Nat.add_comm,
            ← List.drop_drop, List.drop_left' (length_lowBits 8 _)]

theorem bitsOf_take (count : Nat) (bytes : Bytes) :
    bitsOf (bytes.take count) = (bitsOf bytes).take (8 * count) := by
  induction bytes generalizing count with
  | nil => simp
  | cons byte rest ih =>
      cases count with
      | zero => rfl
      | succ count =>
          have more : 8 * (count + 1) = (lowBits 8 byte.toNat).length + 8 * count := by
            rw [length_lowBits]
            omega
          rw [List.take_succ_cons, bitsOf_cons, ih, bitsOf_cons, more, List.take_length_add_append]

/-- A range of whole bytes is a range of bits. -/
theorem bitsOf_slice (bytes : Bytes) (start count : Nat) :
    bitsOf (Bytes.slice bytes start count) =
      ((bitsOf bytes).drop (8 * start)).take (8 * count) := by
  rw [Bytes.slice, bitsOf_take, bitsOf_drop]

/-! ### Looking at single bits -/

theorem getElem?_lowBits {count index : Nat} (inside : index < count) (value : Nat) :
    (lowBits count value)[index]? = some (value.testBit index) := by
  induction index generalizing count value with
  | zero =>
      obtain ⟨rest, rfl⟩ := Nat.exists_eq_succ_of_ne_zero (Nat.ne_of_gt inside)
      rw [lowBits, List.getElem?_cons_zero, Nat.testBit_zero]
      rfl
  | succ index ih =>
      obtain ⟨rest, rfl⟩ := Nat.exists_eq_succ_of_ne_zero (Nat.ne_of_gt (Nat.zero_lt_of_lt inside))
      rw [lowBits, List.getElem?_cons_succ, ih (Nat.lt_of_succ_lt_succ inside), Nat.testBit_succ]

/-- A bit looked up in the bytes is the bit at that place of the bit string. -/
theorem getElem?_bitsOf (bytes : Bytes) (index : Nat) (inside : index < 8 * bytes.length) :
    (bitsOf bytes)[index]? = some (bitAt bytes index) := by
  induction bytes generalizing index with
  | nil => simp at inside
  | cons byte rest ih =>
      by_cases first : index < 8
      · rw [bitsOf_cons, List.getElem?_append_left (by simpa using first),
          getElem?_lowBits first, bitAt, Nat.div_eq_of_lt first, Nat.mod_eq_of_lt first]
        rfl
      · obtain ⟨later, rfl⟩ := Nat.exists_eq_add_of_le (Nat.le_of_not_lt first)
        have quotient : (8 + later) / 8 = later / 8 + 1 := by omega
        have remainder : (8 + later) % 8 = later % 8 := by omega
        rw [bitsOf_cons, List.getElem?_append_right (by simp), length_lowBits,
          Nat.add_sub_cancel_left, ih later (by simp at inside; omega), bitAt, bitAt, quotient,
          remainder, List.getD_cons_succ]

/-- Gathering bits one by one gives the number of the bits at that place. -/
theorem gather_eq_number (bytes : Bytes) (position count : Nat)
    (inside : position + count ≤ 8 * bytes.length) :
    gather bytes position count = number (((bitsOf bytes).drop position).take count) := by
  induction count generalizing position with
  | zero => rfl
  | succ count ih =>
      have here : position < (bitsOf bytes).length := by
        rw [length_bitsOf]
        omega
      have bit : (bitsOf bytes)[position] = bitAt bytes position := by
        apply Option.some.inj
        rw [← List.getElem?_eq_getElem here]
        exact getElem?_bitsOf bytes position (by omega)
      rw [gather, ih (position + 1) (by omega), List.drop_eq_getElem_cons here, bit]
      rfl

/-! ### Packing -/

/-- Bits packed into bytes, low bit first; zeros fill up the last byte. -/
def pack (bits : List Bool) : Bytes :=
  (List.range ((bits.length + 7) / 8)).map fun index =>
    UInt8.ofNat (number ((bits.drop (8 * index)).take 8))

@[simp] theorem length_pack (bits : List Bool) : (pack bits).length = (bits.length + 7) / 8 := by
  simp [pack]

/-- A full byte in front is packed on its own. -/
theorem pack_byte_append (byte bits : List Bool) (full : byte.length = 8) :
    pack (byte ++ bits) = UInt8.ofNat (number byte) :: pack bits := by
  have count : ((byte ++ bits).length + 7) / 8 = (bits.length + 7) / 8 + 1 := by
    rw [List.length_append, full]
    omega
  have head : (((byte ++ bits).drop (8 * 0)).take 8) = byte := by
    rw [Nat.mul_zero, List.drop_zero, List.take_left' full]
  have tail : ∀ index, (byte ++ bits).drop (8 * (index + 1)) = bits.drop (8 * index) := by
    intro index
    rw [Nat.mul_succ, Nat.add_comm, ← List.drop_drop, List.drop_left' full]
  rw [pack, count, List.range_succ_eq_map, List.map_cons, head, List.map_map]
  congr 1
  apply List.map_congr_left
  intro index _
  simp only [Function.comp_apply, Nat.succ_eq_add_one, tail]

/-- Bytes in front of packed bits stand there unchanged. -/
theorem pack_bitsOf_append (bytes : Bytes) (bits : List Bool) :
    pack (bitsOf bytes ++ bits) = bytes ++ pack bits := by
  induction bytes with
  | nil => rfl
  | cons byte rest ih =>
      have same : UInt8.ofNat (number (lowBits 8 byte.toNat)) = byte := by
        rw [number_lowBits, Nat.mod_eq_of_lt byte.toNat_lt, UInt8.ofNat_toNat]
      rw [bitsOf_cons, List.append_assoc, pack_byte_append _ _ (length_lowBits 8 _), same, ih,
        List.cons_append]

/-- Packing the bits of a byte string gives the byte string. -/
theorem pack_bitsOf (bytes : Bytes) : pack (bitsOf bytes) = bytes := by
  have packed := pack_bitsOf_append bytes []
  simpa [pack] using packed

/-- Bits that fill whole bytes are the bits of these bytes. -/
theorem bitsOf_pack {bits : List Bool} (whole : bits.length % 8 = 0) :
    bitsOf (pack bits) = bits := by
  generalize size : bits.length / 8 = count
  induction count generalizing bits with
  | zero =>
      have empty : bits = [] := by
        apply List.length_eq_zero_iff.mp
        omega
      rw [empty]
      rfl
  | succ count ih =>
      have full : (bits.take 8).length = 8 := by
        rw [List.length_take]
        omega
      have rest : (bits.drop 8).length = bits.length - 8 := List.length_drop
      have later : bitsOf (pack (bits.drop 8)) = bits.drop 8 := ih (by omega) (by omega)
      have byte : lowBits 8 (UInt8.ofNat (number (bits.take 8))).toNat = bits.take 8 := by
        rw [UInt8.toNat_ofNat', lowBits_mod]
        have same := lowBits_number (bits.take 8)
        rwa [full] at same
      rw [← List.take_append_drop 8 bits, pack_byte_append _ _ full, bitsOf_cons, later, byte,
        List.take_append_drop]

/-- Bytes behind whole bytes are appended. -/
theorem pack_append_bitsOf {bits : List Bool} (whole : bits.length % 8 = 0) (bytes : Bytes) :
    pack (bits ++ bitsOf bytes) = pack bits ++ bytes := by
  calc
    pack (bits ++ bitsOf bytes) = pack (bitsOf (pack bits) ++ bitsOf bytes) := by
      rw [bitsOf_pack whole]
    _ = pack bits ++ bytes := by rw [pack_bitsOf_append, pack_bitsOf]

/-- Bits that do not fill a byte make one byte, unless there are none. -/
theorem pack_short {bits : List Bool} (short : bits.length < 8) :
    pack bits = if bits = [] then [] else [UInt8.ofNat (number bits)] := by
  cases bits with
  | nil => rfl
  | cons bit rest =>
      have one : ((bit :: rest).length + 7) / 8 = 1 := by
        rw [List.length_cons] at short ⊢
        omega
      have all : (bit :: rest).take 8 = bit :: rest :=
        List.take_of_length_le (Nat.le_of_lt short)
      rw [pack, one, if_neg (List.cons_ne_nil bit rest)]
      simp only [List.range_one, List.map_cons, List.map_nil, Nat.mul_zero, List.drop_zero, all]

/-- The byte that a bit is set in: one bit more makes the number of the longer string. -/
theorem or_mask (bits : List Bool) (bit : Bool) :
    UInt8.ofNat (number bits) ||| (if bit then UInt8.ofNat (1 <<< bits.length) else 0) =
      UInt8.ofNat (number (bits ++ [bit])) := by
  cases bit with
  | false => simp [number_append, number]
  | true =>
      have set : number (bits ++ [true]) = number bits ||| 1 <<< bits.length := by
        have disjoint := Nat.two_pow_add_eq_or_of_lt (number_lt bits) 1
        rw [Nat.mul_one] at disjoint
        rw [number_append, Nat.one_shiftLeft, Nat.or_comm, ← disjoint, Nat.add_comm]
        simp [number]
      rw [set, if_pos rfl]
      exact (UInt8.ofNat_or _ _).symm

theorem modify_concat {α : Type} (front : List α) (last : α) (change : α → α) :
    (front ++ [last]).modify front.length change = front ++ [change last] := by
  induction front with
  | nil => rfl
  | cons head rest ih =>
      rw [List.cons_append, List.length_cons, List.modify_succ_cons, ih, List.cons_append]

/-- Bits are whole bytes and then fewer than eight. -/
theorem exists_bitsOf_append (bits : List Bool) :
    ∃ bytes part, part.length < 8 ∧ bits = bitsOf bytes ++ part := by
  refine ⟨pack (bits.take (8 * (bits.length / 8))), bits.drop (8 * (bits.length / 8)), ?_, ?_⟩
  · rw [List.length_drop]
    omega
  · rw [bitsOf_pack, List.take_append_drop]
    rw [List.length_take]
    omega

/-- One bit more opens a new byte when the last one is full, and is set there. -/
theorem pack_concat (bits : List Bool) (bit : Bool) :
    pack (bits ++ [bit]) =
      (if bits.length / 8 = (pack bits).length then pack bits ++ [0] else pack bits).modify
        (bits.length / 8)
        (· ||| (if bit then UInt8.ofNat (1 <<< (bits.length % 8)) else 0)) := by
  obtain ⟨bytes, part, short, rfl⟩ := exists_bitsOf_append bits
  have quotient : (bitsOf bytes ++ part).length / 8 = bytes.length := by
    rw [List.length_append, length_bitsOf]
    omega
  have remainder : (bitsOf bytes ++ part).length % 8 = part.length := by
    rw [List.length_append, length_bitsOf]
    omega
  have longer : pack (part ++ [bit]) = [UInt8.ofNat (number (part ++ [bit]))] := by
    by_cases full : part.length = 7
    · have packed := pack_byte_append (part ++ [bit]) [] (by simp [full])
      simpa [pack] using packed
    · rw [pack_short, if_neg (by simp)]
      rw [List.length_append, List.length_singleton]
      omega
  rw [quotient, remainder, List.append_assoc, pack_bitsOf_append, pack_bitsOf_append, longer,
    pack_short short, ← or_mask part bit]
  by_cases empty : part = []
  · subst empty
    rw [if_pos rfl, List.append_nil, if_pos rfl, modify_concat]
    rfl
  · have started : bytes.length ≠ (bytes ++ [UInt8.ofNat (number part)]).length := by simp
    rw [if_neg empty, if_neg started, modify_concat]

/-! ### Padding -/

/-- The zeros that fill up the last byte of so many bits. -/
def padding (count : Nat) : List Bool :=
  List.replicate ((8 - count % 8) % 8) false

theorem length_padding_lt (count : Nat) : (padding count).length < 8 := by
  rw [padding, List.length_replicate]
  omega

theorem number_replicate_false (count : Nat) : number (List.replicate count false) = 0 := by
  induction count with
  | zero => rfl
  | succ count ih => simp [List.replicate_succ, number, ih]

/-- More low bits of a number than it was made of are zeros. -/
theorem lowBits_number_of_le {bits : List Bool} {count : Nat} (enough : bits.length ≤ count) :
    lowBits count (number bits) = bits ++ List.replicate (count - bits.length) false := by
  apply number_inj
  · simp [enough]
  · have small : number bits < 2 ^ count :=
      Nat.lt_of_lt_of_le (number_lt bits) (Nat.pow_le_pow_right (by decide) enough)
    rw [number_lowBits, Nat.mod_eq_of_lt small, number_append, number_replicate_false,
      Nat.mul_zero, Nat.add_zero]

/-- The bits of packed bits are the bits and the padding. -/
theorem bitsOf_pack_eq (bits : List Bool) :
    bitsOf (pack bits) = bits ++ padding bits.length := by
  obtain ⟨bytes, part, short, rfl⟩ := exists_bitsOf_append bits
  have left : (8 - (bitsOf bytes ++ part).length % 8) % 8 = (8 - part.length) % 8 := by
    rw [List.length_append, length_bitsOf]
    omega
  rw [pack_bitsOf_append, bitsOf_append, pack_short short, padding, left, List.append_assoc]
  by_cases empty : part = []
  · subst empty
    rfl
  · have last : lowBits 8 (UInt8.ofNat (number part)).toNat =
        part ++ List.replicate (8 - part.length) false := by
      rw [UInt8.toNat_ofNat']
      exact (lowBits_mod 8 _).trans (lowBits_number_of_le (Nat.le_of_lt short))
    have started : 0 < part.length := List.length_pos_of_ne_nil empty
    have filled : (8 - part.length) % 8 = 8 - part.length := Nat.mod_eq_of_lt (by omega)
    rw [if_neg empty, bitsOf_cons, last, bitsOf_nil, List.append_nil, filled]

end ReplicaBridge.Bits
