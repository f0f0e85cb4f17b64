/-
Module: ReplicaBridge.Proofs.LoaderLayouts
Purpose: The parameter blocks of functions that a loader describes.  A loader's offsets, element
  sizes and array dimensions are signed 32-bit numbers; whatever they are, no word wraps in the
  properties and the layout built from them, and the block is the least one that holds all slots
  and keeps the largest alignment.
Main exports: Host.PropertyRecord.describe, Host.Loaded.chain, Host.Loaded.readableProperties_eq,
  Params.ParamLayout.isLeast_room, Params.ParamLayout.loader_layout_sound
-/
import ReplicaBridge.Host.FunctionTable
import ReplicaBridge.Proofs.BlockLayout

namespace ReplicaBridge

namespace Host

/-! ### What a loader describes -/

namespace PropertyRecord

/-- The parameters that a loader's records describe; those that cannot be read are skipped. -/
def describe (records : List (Option PropertyRecord)) : List Property :=
  records.filterMap (·.map toProperty)

theorem mem_describe {records : List (Option PropertyRecord)} {property : Property} :
    property ∈ describe records ↔
      ∃ record, some record ∈ records ∧ record.toProperty = property := by
  simp [describe]

/-- A clamped number is the number itself or its bound, which is below the words' end. -/
theorem toNat_atLeast {bound : Nat} (small : bound < 2 ^ 31) (value : Int32) :
    (atLeast bound value).toNat = max bound value.toInt.toNat := by
  have upper := value.toInt_lt
  apply UInt64.toNat_ofNat_of_lt'
  rw [UInt64.size]
  omega

theorem atLeast_lt {bound : Nat} (small : bound < 2 ^ 31) (value : Int32) :
    (atLeast bound value).toNat < 2 ^ 31 := by
  have upper := value.toInt_lt
  rw [toNat_atLeast small]
  omega

theorem offset_lt (record : PropertyRecord) : record.toProperty.offset.toNat < 2 ^ 31 :=
  atLeast_lt (by decide) record.offset

theorem product_le (record : PropertyRecord) :
    (atLeast 0 record.elementSize).toNat * (atLeast 1 record.arrayDim).toNat ≤
      (2 ^ 31 - 1) * (2 ^ 31 - 1) :=
  Nat.mul_le_mul (Nat.le_pred_of_lt (atLeast_lt (by decide) record.elementSize))
    (Nat.le_pred_of_lt (atLeast_lt (by decide) record.arrayDim))

/-- The product of element size and dimension never wraps. -/
theorem toNat_size (record : PropertyRecord) : record.toProperty.size.toNat =
    (atLeast 0 record.elementSize).toNat * (atLeast 1 record.arrayDim).toNat := by
  have most := record.product_le
  exact (UInt64.toNat_mul _ _).trans (Nat.mod_eq_of_lt (by omega))

/-- The numbers of a parameter are those of its record, clamped. -/
theorem toProperty_exact (record : PropertyRecord) :
    (record.toProperty.offset.toNat : Int) = max 0 record.offset.toInt ∧
      (record.toProperty.size.toNat : Int) =
        max 0 record.elementSize.toInt * max 1 record.arrayDim.toInt := by
  constructor
  · have same : record.toProperty.offset.toNat = _ := toNat_atLeast (by decide) record.offset
    rw [same]
    omega
  · have element : ((atLeast 0 record.elementSize).toNat : Int) =
        max 0 record.elementSize.toInt := by
      rw [toNat_atLeast (by decide)]
      omega
    have dimension : ((atLeast 1 record.arrayDim).toNat : Int) = max 1 record.arrayDim.toInt := by
      rw [toNat_atLeast (by decide)]
      omega
    rw [toNat_size, Nat.cast_mul, element, dimension]

end PropertyRecord

namespace Loaded

variable {T : Type} [FunctionTable T]

/-- What the table answers along the parameter chain of a function; none have no chain but the
functions there are. -/
def chain (table : T) (function : Object) : List (Option PropertyRecord) :=
  if function.isNull then []
  else (List.range (FunctionTable.propertyCount table function)).map
    (FunctionTable.propertyAt table function)

/-- A loaded table's parameters are those that its records describe. -/
theorem readableProperties_eq (table : T) (function : Object) :
    readableProperties (Loaded.mk table) function =
      PropertyRecord.describe (chain table function) := by
  have answered : ReflectionHost.properties (Loaded.mk table) function =
      properties table function := rfl
  rw [readableProperties, answered, properties, chain, PropertyRecord.describe]
  split
  · rfl
  · rw [List.filterMap_map, List.filterMap_map]
    rfl

end Loaded

end Host

namespace Params

open Host (FunctionTable Loaded Object PropertyRecord)

/-! ### Alignments -/

/-- The alignment of a slot is the largest power of two that exceeds neither its size nor
eight, and one where there is no such power. -/
theorem ParamSlot.isGreatest_alignment (slot : ParamSlot) :
    IsGreatest {power | (∃ exponent, power = 2 ^ exponent) ∧
      power ≤ max 1 (min slot.size.toNat 8)} slot.alignment.toNat := by
  have sizes : ∀ bound : UInt64, slot.size ≤ bound ↔ slot.size.toNat ≤ bound.toNat :=
    fun bound => UInt64.le_iff_toNat_le
  have one : (1 : UInt64).toNat = 1 := rfl
  have three : (3 : UInt64).toNat = 3 := rfl
  have seven : (7 : UInt64).toNat = 7 := rfl
  -- Below twice the alignment there is no power of two but those up to the alignment.
  have isGreatest {bound : Nat} (exponent : Nat) (le : 2 ^ exponent ≤ bound)
      (lt : bound < 2 ^ (exponent + 1)) :
      IsGreatest {power | (∃ exponent, power = 2 ^ exponent) ∧ power ≤ bound} (2 ^ exponent) := by
    refine ⟨⟨⟨exponent, rfl⟩, le⟩, ?_⟩
    rintro power ⟨⟨other, rfl⟩, within⟩
    have below : other < exponent + 1 :=
      (Nat.pow_lt_pow_iff_right (by decide)).mp (Nat.lt_of_le_of_lt within lt)
    exact Nat.pow_le_pow_right (by decide) (Nat.le_of_lt_succ below)
  unfold ParamSlot.alignment
  simp only [sizes, one, three, seven]
  split
  · exact isGreatest 0 (by omega) (by omega)
  · split
    · exact isGreatest 1 (by omega) (by omega)
    · split
      · exact isGreatest 2 (by omega) (by omega)
      · exact isGreatest 3 (by omega) (by omega)

namespace ParamLayout

theorem isGreatest_foldl_max (start : Nat) (numbers : List Nat) :
    IsGreatest {number | number = start ∨ number ∈ numbers} (numbers.foldl max start) := by
  induction numbers generalizing start with
  | nil => simp [IsGreatest, upperBounds]
  | cons first rest ih =>
      obtain ⟨among, upper⟩ := ih (max start first)
      have least : max start first ≤ rest.foldl max (max start first) := upper (.inl rfl)
      refine ⟨?_, ?_⟩
      · rcases among with same | later
        · rw [List.foldl_cons, same]
          rcases Nat.le_total start first with le | le
          · rw [Nat.max_eq_right le]
            exact .inr (.head _)
          · rw [Nat.max_eq_left le]
            exact .inl rfl
        · exact .inr (.tail _ later)
      · rintro number (rfl | mem)
        · exact Nat.le_trans (Nat.le_max_left _ _) least
        · cases mem with
          | head => exact Nat.le_trans (Nat.le_max_right _ _) least
          | tail _ later => exact upper (.inr later)

/-- The largest alignment is that of a slot, or one. -/
theorem isGreatest_widest (slots : List ParamSlot) :
    IsGreatest {alignment | alignment = 1 ∨ ∃ slot ∈ slots, slot.alignment.toNat = alignment}
      (widest slots) := by
  rw [widest]
  simpa only [List.mem_map] using isGreatest_foldl_max 1 (slots.map (·.alignment.toNat))

theorem reach_le_iff {slots : List ParamSlot} {bound : Nat} :
    reach slots ≤ bound ↔ ∀ slot ∈ slots, slot.bound ≤ bound := by
  rw [reach, isLUB_le_iff (isGreatest_foldl_max 0 (slots.map (·.bound))).isLUB]
  simp [upperBounds]

/-- Of two powers of two the smaller divides the larger. -/
theorem alignment_dvd_widest {slots : List ParamSlot} {slot : ParamSlot} (among : slot ∈ slots) :
    slot.alignment.toNat ∣ widest slots := by
  have le := (isGreatest_widest slots).2 (.inr ⟨slot, among, rfl⟩)
  obtain ⟨exponent, own⟩ := slot.isGreatest_alignment.1.1
  have ⟨largest, all⟩ : ∃ largest, widest slots = 2 ^ largest := by
    rcases (isGreatest_widest slots).1 with one | ⟨other, _, same⟩
    · exact ⟨0, one⟩
    · obtain ⟨largest, power⟩ := other.isGreatest_alignment.1.1
      exact ⟨largest, same.symm.trans power⟩
  rw [own, all] at le ⊢
  exact Nat.pow_dvd_pow 2 ((Nat.pow_le_pow_iff_right (by decide)).mp le)

/-- The room for slots is the least multiple of the largest alignment that no slot exceeds. -/
theorem isLeast_room (slots : List ParamSlot) :
    IsLeast {size | widest slots ∣ size ∧ ∀ slot ∈ slots, slot.bound ≤ size} (room slots) := by
  refine ⟨⟨Nat.dvd_mul_left _ _, reach_le_iff.mp (reach_le_room slots)⟩, ?_⟩
  rintro size ⟨⟨count, rfl⟩, holds⟩
  have far := reach_le_iff.mpr holds
  have positive : 0 < widest slots := Nat.lt_of_lt_of_le Nat.zero_lt_one
    ((isGreatest_widest slots).2 (.inl rfl))
  rw [room, Nat.mul_comm (widest slots) count]
  apply Nat.mul_le_mul_right
  apply Nat.le_of_lt_succ
  rw [Nat.div_lt_iff_lt_mul positive, Nat.succ_mul, Nat.mul_comm count]
  omega

/-- Slots that all end below a word's half leave enough room for rounding up. -/
theorem unwrapped_of_bounded {slots : List ParamSlot}
    (bounded : ∀ slot ∈ slots, slot.bound < 2 ^ 63) : Unwrapped slots where
  bounds := fun slot among => Nat.lt_trans (bounded slot among) (by decide)
  room := by
    have far : reach slots ≤ 2 ^ 63 - 1 :=
      reach_le_iff.mpr fun slot among => Nat.le_pred_of_lt (bounded slot among)
    have all := widest_mem slots
    have within : room slots ≤ reach slots + widest slots - 1 := Nat.div_mul_le_self _ _
    simp only [List.mem_cons, List.not_mem_nil, or_false] at all
    omega

/-- The order of slots does not matter for the room they need. -/
theorem room_perm {slots others : List ParamSlot} (same : slots.Perm others) :
    room slots = room others := by
  have farthest : reach slots = reach others := (same.map _).foldl_eq 0
  have widests : widest slots = widest others := (same.map _).foldl_eq 1
  rw [room, room, farthest, widests]

/-! ### Layouts of a loader -/

/-- The slots of a loader's records end far below the end of the words. -/
theorem bound_lt_of_record (record : PropertyRecord) :
    (ParamSlot.ofProperty record.toProperty).bound < 2 ^ 63 := by
  have start := record.offset_lt
  have most := record.product_le
  have size := record.toNat_size
  have bound : (ParamSlot.ofProperty record.toProperty).bound =
      record.toProperty.offset.toNat + record.toProperty.size.toNat := rfl
  omega

theorem unwrapped_describe (records : List (Option PropertyRecord)) :
    Unwrapped ((PropertyRecord.describe records).map ParamSlot.ofProperty) := by
  apply unwrapped_of_bounded
  intro slot among
  obtain ⟨property, described, rfl⟩ := List.mem_map.mp among
  obtain ⟨record, _, rfl⟩ := PropertyRecord.mem_describe.mp described
  exact bound_lt_of_record record

/-- A loader may answer whatever it likes along the chain of a function, any numbers and any
records that cannot be read: clamping and multiplying, the ends of the slots and rounding up are
the plain arithmetic of numbers.  The block is the least one whose size is a multiple of the
largest alignment and that holds every slot; it is empty for a chain without parameters, and the
order of the chain does not matter for its size. -/
theorem loader_layout_sound :
    (∀ {T : Type} [FunctionTable T] (table : T) (function : Object),
      Host.readableProperties (Loaded.mk table) function =
        PropertyRecord.describe (Loaded.chain table function)) ∧
    (∀ record : PropertyRecord,
      (record.toProperty.offset.toNat : Int) = max 0 record.offset.toInt ∧
      (record.toProperty.size.toNat : Int) =
        max 0 record.elementSize.toInt * max 1 record.arrayDim.toInt) ∧
    ∀ records : List (Option PropertyRecord),
      let layout := ofProperties (PropertyRecord.describe records)
      (∀ slot ∈ layout.slots,
        slot.stop.toNat = slot.offset.toNat + slot.size.toNat ∧
        slot.offset.toNat + slot.size.toNat ≤ layout.size.toNat ∧
        IsGreatest {power | (∃ exponent, power = 2 ^ exponent) ∧
          power ≤ max 1 (min slot.size.toNat 8)} slot.alignment.toNat ∧
        slot.alignment.toNat ∣ layout.size.toNat) ∧
      (∃ largest,
        IsGreatest {alignment | alignment = 1 ∨
          ∃ slot ∈ layout.slots, slot.alignment.toNat = alignment} largest ∧
        IsLeast {size | largest ∣ size ∧
          ∀ slot ∈ layout.slots, slot.offset.toNat + slot.size.toNat ≤ size}
            layout.size.toNat) ∧
      Unwrapped layout.slots ∧
      (PropertyRecord.describe records = [] → layout.size = 0) ∧
      ∀ others, records.Perm others →
        (ofProperties (PropertyRecord.describe others)).size = layout.size := by
  refine ⟨Loaded.readableProperties_eq, PropertyRecord.toProperty_exact, ?_⟩
  intro records layout
  have unwrapped : Unwrapped layout.slots := unwrapped_describe records
  have size : layout.size.toNat = room layout.slots := unwrapped.size_ofSlots
  have least : IsLeast {size | widest layout.slots ∣ size ∧ ∀ slot ∈ layout.slots,
      slot.bound ≤ size} layout.size.toNat := size ▸ isLeast_room layout.slots
  refine ⟨?_, ⟨widest layout.slots, isGreatest_widest layout.slots, least⟩, unwrapped, ?_, ?_⟩
  · intro slot among
    exact ⟨ParamSlot.toNat_stop (unwrapped.bounds slot among), least.1.2 slot among,
      slot.isGreatest_alignment, (alignment_dvd_widest among).trans least.1.1⟩
  · intro bare
    simp only [layout, bare]
    rfl
  · intro others same
    have slots : layout.slots.Perm
        ((PropertyRecord.describe others).map ParamSlot.ofProperty) :=
      (same.filterMap _).map _
    have other : (ofProperties (PropertyRecord.describe others)).size.toNat =
        room ((PropertyRecord.describe others).map ParamSlot.ofProperty) :=
      (unwrapped_describe others).size_ofSlots
    rw [← UInt64.toNat_inj, other, size, room_perm slots]

/-- The largest numbers that a record can hold come to less than a word, also beside a parameter
that cannot be read and one whose numbers are negative. -/
theorem loader_layout_sound_at_extremes :
    let wide : PropertyRecord :=
      { name := [97], offset := 2147483646, elementSize := 2147483647, arrayDim := 2147483647,
        flags := 0x80 }
    let negative : PropertyRecord :=
      { name := [98], offset := -1, elementSize := -4, arrayDim := 0, flags := 0x80 }
    let layout := ofProperties (PropertyRecord.describe [some wide, none, some negative])
    layout.size = 4611686016279904256 ∧
      (ofProperties (PropertyRecord.describe [some negative, none, some wide])).size =
        layout.size ∧
      (ofProperties (PropertyRecord.describe [none])).size = 0 := by
  intro wide negative layout
  obtain ⟨_, _, sound⟩ := loader_layout_sound
  obtain ⟨_, _, _, _, order⟩ := sound [some wide, none, some negative]
  obtain ⟨_, _, _, empty, _⟩ := sound [none]
  refine ⟨by decide, order [some negative, none, some wide] ?_, empty rfl⟩
  have toFront : ([some wide, none] ++ [some negative]).Perm [some negative, some wide, none] :=
    List.perm_append_comm
  exact toFront.trans ((List.Perm.swap none (some wide) []).cons (some negative))

end ParamLayout

end Params

end ReplicaBridge
