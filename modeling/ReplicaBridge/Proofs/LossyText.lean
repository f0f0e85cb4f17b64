/-
Module: ReplicaBridge.Proofs.LossyText
Purpose: The lossy decoding of bytes that are well formed.  Each character of one to four bytes
  is split off as itself, so what is decoded from the bytes of a text is that text.
Main exports: Text.splitLead_encodeChar, Text.decodeLossy_encode, Text.ofUtf8Lossy_utf8
-/
import Mathlib.Data.List.Basic
import ReplicaBridge.Text.Utf8

namespace ReplicaBridge.Text

/-! ### Leads and what may follow them -/

section Leads

variable {lead second third fourth : UInt8}

theorem splitLead_one (ascii : lead.toNat < 0x80) (rest : Bytes) :
    splitLead lead rest = .char (Char.ofNat lead.toNat) rest := by
  unfold splitLead
  rw [if_pos (UInt8.lt_iff_toNat_lt.mpr ascii)]

theorem splitLead_two (least : 0xC2 ≤ lead.toNat) (greatest : lead.toNat ≤ 0xDF)
    (continues : isContinuation second = true) (rest : Bytes) :
    splitLead lead (second :: rest) =
      .char (Char.ofNat (lead.toNat % 32 * 64 + continuationBits second)) rest := by
  have above : ¬lead.toNat < 0x80 := by omega
  simp [splitLead, UInt8.lt_iff_toNat_lt, UInt8.le_iff_toNat_le, above, least, greatest, continues]

theorem splitLead_three (least : 0xE0 ≤ lead.toNat) (greatest : lead.toNat ≤ 0xEF)
    (within : (secondOfThree lead).1 ≤ second ∧ second ≤ (secondOfThree lead).2)
    (continues : isContinuation third = true) (rest : Bytes) :
    splitLead lead (second :: third :: rest) =
      .char (Char.ofNat (lead.toNat % 16 * 4096 + continuationBits second * 64
        + continuationBits third)) rest := by
  have above : ¬lead.toNat < 0x80 := by omega
  have past : ¬lead.toNat ≤ 0xDF := by omega
  -- The bounds of the second byte stay words, for `within` is about those.
  simp [splitLead, UInt8.lt_iff_toNat_lt (a := lead), UInt8.le_iff_toNat_le (a := lead),
    UInt8.le_iff_toNat_le (b := lead), above, past, least, greatest, within, continues]

theorem splitLead_four (least : 0xF0 ≤ lead.toNat) (greatest : lead.toNat ≤ 0xF4)
    (within : (secondOfFour lead).1 ≤ second ∧ second ≤ (secondOfFour lead).2)
    (continues : isContinuation third = true) (ends : isContinuation fourth = true)
    (rest : Bytes) :
    splitLead lead (second :: third :: fourth :: rest) =
      .char (Char.ofNat (lead.toNat % 8 * 262144 + continuationBits second * 4096
        + continuationBits third * 64 + continuationBits fourth)) rest := by
  have above : ¬lead.toNat < 0x80 := by omega
  have past : ¬lead.toNat ≤ 0xDF := by omega
  have further : ¬lead.toNat ≤ 0xEF := by omega
  simp [splitLead, UInt8.lt_iff_toNat_lt (a := lead), UInt8.le_iff_toNat_le (a := lead),
    UInt8.le_iff_toNat_le (b := lead), above, past, further, least, greatest, within, continues,
    ends]

end Leads

/-! ### The bytes of a character -/

theorem toNat_ofNat_of_lt {n : Nat} (small : n < 256) : (UInt8.ofNat n).toNat = n := by
  rw [UInt8.toNat_ofNat', Nat.mod_eq_of_lt small]

theorem isContinuation_ofNat (number : Nat) :
    isContinuation (UInt8.ofNat (number % 64 + 128)) = true := by
  have byte : (UInt8.ofNat (number % 64 + 128)).toNat = number % 64 + 128 :=
    toNat_ofNat_of_lt (by omega)
  simp only [isContinuation, UInt8.le_iff_toNat_le, byte, Bool.and_eq_true, decide_eq_true_eq]
  constructor
  · exact Nat.le_add_left _ _
  · change _ ≤ 191
    omega

theorem continuationBits_ofNat (number : Nat) :
    continuationBits (UInt8.ofNat (number % 64 + 128)) = number % 64 := by
  rw [continuationBits, toNat_ofNat_of_lt (by omega)]
  omega

/-- The second of the three bytes of a number is within its bounds: the number needs no fewer
bytes and is no surrogate. -/
theorem secondOfThree_ofNat {number : Nat} (least : 0x800 ≤ number) (greatest : number ≤ 0xFFFF)
    (scalar : number < 0xD800 ∨ 0xDFFF < number) :
    let lead := UInt8.ofNat (number / 4096 % 16 + 224)
    let second := UInt8.ofNat (number / 64 % 64 + 128)
    (secondOfThree lead).1 ≤ second ∧ second ≤ (secondOfThree lead).2 := by
  intro lead second
  have first : lead.toNat = number / 4096 % 16 + 224 := toNat_ofNat_of_lt (by omega)
  have next : second.toNat = number / 64 % 64 + 128 := toNat_ofNat_of_lt (by omega)
  simp only [secondOfThree, UInt8.le_iff_toNat_le, ← UInt8.toNat_inj (a := lead), first, next]
  split
  · rename_i overlong
    simp only [UInt8.reduceToNat] at overlong ⊢
    omega
  · split
    · rename_i _ surrogate
      simp only [UInt8.reduceToNat] at surrogate ⊢
      omega
    · simp only [UInt8.reduceToNat]
      omega

/-- The second of the four bytes of a number is within its bounds: the number needs no fewer
bytes and is that of a character. -/
theorem secondOfFour_ofNat {number : Nat} (least : 0x10000 ≤ number)
    (greatest : number ≤ 0x10FFFF) :
    let lead := UInt8.ofNat (number / 262144 % 8 + 240)
    let second := UInt8.ofNat (number / 4096 % 64 + 128)
    (secondOfFour lead).1 ≤ second ∧ second ≤ (secondOfFour lead).2 := by
  intro lead second
  have first : lead.toNat = number / 262144 % 8 + 240 := toNat_ofNat_of_lt (by omega)
  have next : second.toNat = number / 4096 % 64 + 128 := toNat_ofNat_of_lt (by omega)
  simp only [secondOfFour, UInt8.le_iff_toNat_le, ← UInt8.toNat_inj (a := lead), first, next]
  split
  · rename_i overlong
    simp only [UInt8.reduceToNat] at overlong ⊢
    omega
  · split
    · rename_i _ last
      simp only [UInt8.reduceToNat] at last ⊢
      omega
    · simp only [UInt8.reduceToNat]
      omega

/-- The bytes of a character are split off as that character, whatever follows them. -/
theorem splitLead_encodeChar (value : Char) (rest : Bytes) : ∃ lead tail,
    String.utf8EncodeChar value = lead :: tail ∧
      splitLead lead (tail ++ rest) = .char value rest := by
  have scalar : value.toNat < 0xD800 ∨ 0xDFFF < value.toNat ∧ value.toNat < 0x110000 :=
    value.valid
  have back {number : Nat} (same : number = value.toNat) : Char.ofNat number = value :=
    same ▸ value.ofNat_toNat
  simp only [String.utf8EncodeChar, Char.toNat_val]
  split
  · refine ⟨_, _, rfl, ?_⟩
    have lead := toNat_ofNat_of_lt (n := value.toNat) (by omega)
    rw [List.nil_append, splitLead_one (by omega), back lead]
  · split
    · refine ⟨_, _, rfl, ?_⟩
      have lead := toNat_ofNat_of_lt (n := value.toNat / 64 % 32 + 192) (by omega)
      rw [List.cons_append, List.nil_append, splitLead_two (by omega) (by omega)
        (isContinuation_ofNat _), continuationBits_ofNat, back (by omega)]
    · split
      · refine ⟨_, _, rfl, ?_⟩
        have lead := toNat_ofNat_of_lt (n := value.toNat / 4096 % 16 + 224) (by omega)
        rw [List.cons_append, List.cons_append, List.nil_append,
          splitLead_three (by omega) (by omega)
            (secondOfThree_ofNat (by omega) (by omega) (by omega)) (isContinuation_ofNat _),
          continuationBits_ofNat, continuationBits_ofNat, back (by omega)]
      · refine ⟨_, _, rfl, ?_⟩
        have lead := toNat_ofNat_of_lt (n := value.toNat / 262144 % 8 + 240) (by omega)
        rw [List.cons_append, List.cons_append, List.cons_append, List.nil_append,
          splitLead_four (by omega) (by omega) (secondOfFour_ofNat (by omega) (by omega))
            (isContinuation_ofNat _) (isContinuation_ofNat _),
          continuationBits_ofNat, continuationBits_ofNat, continuationBits_ofNat,
          back (by omega)]

/-! ### The bytes of a text -/

/-- Decoding takes a character off at a time, as many as were encoded. -/
theorem decodeLossy_encode (chars : List Char) {fuel : Nat}
    (enough : (chars.flatMap String.utf8EncodeChar).length ≤ fuel) :
    decodeLossy fuel (chars.flatMap String.utf8EncodeChar) = chars := by
  induction chars generalizing fuel with
  | nil => cases fuel <;> rfl
  | cons value rest ih =>
      obtain ⟨lead, tail, encoded, split⟩ :=
        splitLead_encodeChar value (rest.flatMap String.utf8EncodeChar)
      rw [List.flatMap_cons, encoded, List.cons_append] at enough ⊢
      cases fuel with
      | zero => cases enough
      | succ fuel =>
          rw [decodeLossy, split]
          rw [List.length_cons, List.length_append] at enough
          exact congrArg (value :: ·) (ih (by omega))

/-- The lossy decoding loses nothing of a text. -/
theorem ofUtf8Lossy_utf8 (text : String) : ofUtf8Lossy (utf8 text) = text := by
  have bytes : utf8 text = text.toList.flatMap String.utf8EncodeChar := by
    have encoded : text.toByteArray = text.toList.utf8Encode := by
      rw [← String.toByteArray_ofList, String.ofList_toList]
    rw [utf8, String.toUTF8_eq_toByteArray, encoded]
    simp [List.utf8Encode]
  rw [ofUtf8Lossy, bytes, decodeLossy_encode _ (Nat.le_refl _), String.ofList_toList]

end ReplicaBridge.Text
