/-
Module: ReplicaBridge.Proofs.BlockLayout
Purpose: The sizes of parameter blocks.  Offsets and sizes are words, which wrap; where nothing
  wraps the size of a block is a plain number, the least room for all slots that keeps the
  largest alignment, and every slot lies in the block.  Where something does, a slot still
  stops within the block, unless the size of the block wraps to nothing.
Main exports: ParamSlot.bound, ParamSlot.covers, ParamLayout.stop_le_size, ParamLayout.room,
  ParamLayout.Unwrapped, ParamLayout.Unwrapped.size_ofSlots, FunctionDescriptor.Laid,
  FunctionDescriptor.Laid.bound_le_blockSize
-/
import Mathlib
import ReplicaBridge.Params.Layout

namespace ReplicaBridge.Params

namespace ParamSlot

/-- One past the last byte of the slot, as a number that does not wrap. -/
def bound (slot : ParamSlot) : Nat :=
  slot.offset.toNat + slot.size.toNat

/-- The byte at an index is one of the slot's. -/
def covers (slot : ParamSlot) (index : Nat) : Bool :=
  decide (slot.offset.toNat ≤ index ∧ index < slot.bound)

theorem toNat_stop {slot : ParamSlot} (fits : slot.bound < 2 ^ 64) :
    slot.stop.toNat = slot.bound :=
  (UInt64.toNat_add _ _).trans (Nat.mod_eq_of_lt fits)

theorem offset_le_bound (slot : ParamSlot) : slot.offset.toNat ≤ slot.bound :=
  Nat.le_add_right _ _

theorem alignment_mem (slot : ParamSlot) : slot.alignment ∈ ([1, 2, 4, 8] : List UInt64) := by
  unfold alignment
  split
  · decide
  · split
    · decide
    · split <;> decide

end ParamSlot

namespace ParamLayout

/-! ### The greatest of some words -/

theorem toNat_max (left right : UInt64) :
    (max left right).toNat = max left.toNat right.toNat := by
  have same : max left right = if left ≤ right then right else left := rfl
  rw [same]
  split
  · rename_i le
    exact (Nat.max_eq_right (UInt64.le_iff_toNat_le.1 le)).symm
  · rename_i gt
    have lt : ¬left.toNat ≤ right.toNat := fun le => gt (UInt64.le_iff_toNat_le.2 le)
    omega

theorem toNat_greatest (least : UInt64) (words : List UInt64) :
    (greatest least words).toNat = (words.map (·.toNat)).foldl max least.toNat := by
  unfold greatest
  induction words generalizing least with
  | nil => rfl
  | cons word rest ih => rw [List.foldl_cons, ih, toNat_max, List.map_cons, List.foldl_cons]

theorem le_greatest (least : UInt64) (words : List UInt64) :
    least.toNat ≤ (greatest least words).toNat := by
  unfold greatest
  induction words generalizing least with
  | nil => exact Nat.le_refl _
  | cons word rest ih =>
      have le := ih (max least word)
      rw [toNat_max] at le
      exact Nat.le_trans (Nat.le_max_left _ _) le

theorem mem_le_greatest (least : UInt64) {words : List UInt64} {word : UInt64}
    (among : word ∈ words) : word.toNat ≤ (greatest least words).toNat := by
  induction words generalizing least with
  | nil => cases among
  | cons first rest ih =>
      rcases List.mem_cons.1 among with rfl | later
      · have le := le_greatest (max least word) rest
        rw [toNat_max] at le
        exact Nat.le_trans (Nat.le_max_right _ _) le
      · exact ih (max least first) later

/-- What the least and all words are, the greatest is. -/
theorem greatest_of_forall (holds : UInt64 → Prop) {least : UInt64} {words : List UInt64}
    (first : holds least) (all : ∀ word ∈ words, holds word) : holds (greatest least words) := by
  induction words generalizing least with
  | nil => exact first
  | cons word rest ih =>
      have same : max least word = if least ≤ word then word else least := rfl
      refine ih ?_ fun other among => all other (List.mem_cons_of_mem word among)
      rw [same]
      split
      · exact all word List.mem_cons_self
      · exact first

/-- Blocks are aligned to a power of two up to eight. -/
theorem greatest_alignment_mem (slots : List ParamSlot) :
    greatest 1 (slots.map (·.alignment)) ∈ ([1, 2, 4, 8] : List UInt64) := by
  apply greatest_of_forall (· ∈ ([1, 2, 4, 8] : List UInt64))
  · decide
  · intro word among
    obtain ⟨slot, _, rfl⟩ := List.mem_map.1 among
    exact slot.alignment_mem

/-! ### Rounding up -/

theorem toNat_roundUp (size alignment : UInt64) : (roundUp size alignment).toNat =
    ((size.toNat / alignment.toNat +
      if size.toNat % alignment.toNat = 0 then 0 else 1) % 2 ^ 64 * alignment.toNat) % 2 ^ 64 := by
  have divides : size % alignment = 0 ↔ size.toNat % alignment.toNat = 0 := by
    rw [← UInt64.toNat_inj, UInt64.toNat_mod]
    rfl
  simp only [roundUp, divides]
  split <;> simp [UInt64.toNat_mul, UInt64.toNat_add, UInt64.toNat_div]

/-- Rounding up to a power of two that alignments can be gives no less, unless the word
wraps. -/
theorem roundUp_eq_zero_or_le (size : UInt64) {alignment : UInt64}
    (aligned : alignment ∈ [1, 2, 4, 8]) :
    (roundUp size alignment).toNat = 0 ∨ size.toNat ≤ (roundUp size alignment).toNat := by
  have small := size.toNat_lt
  rw [toNat_roundUp]
  simp only [List.mem_cons, List.not_mem_nil, or_false] at aligned
  rcases aligned with rfl | rfl | rfl | rfl
  · have one : (1 : UInt64).toNat = 1 := rfl
    rw [one]
    split <;> omega
  · have two : (2 : UInt64).toNat = 2 := rfl
    rw [two]
    split <;> omega
  · have four : (4 : UInt64).toNat = 4 := rfl
    rw [four]
    split <;> omega
  · have eight : (8 : UInt64).toNat = 8 := rfl
    rw [eight]
    split <;> omega

/-- Every slot stops within the block, unless the size of the block wraps to nothing. -/
theorem stop_le_size (slots : List ParamSlot) {slot : ParamSlot} (among : slot ∈ slots) :
    (ofSlots slots).size.toNat = 0 ∨ slot.stop.toNat ≤ (ofSlots slots).size.toNat := by
  have furthest := mem_le_greatest 0 (List.mem_map_of_mem (f := ParamSlot.stop) among)
  rcases roundUp_eq_zero_or_le (greatest 0 (slots.map (·.stop))) (greatest_alignment_mem slots)
    with wraps | le
  · exact Or.inl wraps
  · exact Or.inr (Nat.le_trans furthest le)

/-! ### Where nothing wraps -/

/-- Where the furthest slot ends. -/
def reach (slots : List ParamSlot) : Nat :=
  (slots.map (·.bound)).foldl max 0

/-- The largest alignment of any slot, at least one. -/
def widest (slots : List ParamSlot) : Nat :=
  (slots.map (·.alignment.toNat)).foldl max 1

/-- The end of the furthest slot, rounded up to the largest alignment. -/
def room (slots : List ParamSlot) : Nat :=
  (reach slots + widest slots - 1) / widest slots * widest slots

/-- No slot ends past the last word, and neither does the block. -/
structure Unwrapped (slots : List ParamSlot) : Prop where
  bounds : ∀ slot ∈ slots, slot.bound < 2 ^ 64
  room : room slots < 2 ^ 64

theorem toNat_greatest_alignment (slots : List ParamSlot) :
    (greatest 1 (slots.map (·.alignment))).toNat = widest slots := by
  rw [toNat_greatest, List.map_map]
  rfl

theorem widest_mem (slots : List ParamSlot) : widest slots ∈ [1, 2, 4, 8] := by
  have aligned := List.mem_map_of_mem (f := UInt64.toNat) (greatest_alignment_mem slots)
  rw [toNat_greatest_alignment] at aligned
  exact aligned

theorem reach_le_room (slots : List ParamSlot) : reach slots ≤ room slots := by
  have aligned := widest_mem slots
  unfold room
  generalize widest slots = alignment at aligned
  simp only [List.mem_cons, List.not_mem_nil, or_false] at aligned
  rcases aligned with rfl | rfl | rfl | rfl <;> omega

namespace Unwrapped

variable {slots : List ParamSlot} (unwrapped : Unwrapped slots)

include unwrapped

theorem toNat_greatest_stop : (greatest 0 (slots.map (·.stop))).toNat = reach slots := by
  rw [toNat_greatest, List.map_map]
  have same : slots.map (UInt64.toNat ∘ ParamSlot.stop) = slots.map (·.bound) :=
    List.map_congr_left fun slot among => ParamSlot.toNat_stop (unwrapped.bounds slot among)
  rw [same]
  rfl

theorem size_ofSlots : (ofSlots slots).size.toNat = ParamLayout.room slots := by
  have fits := unwrapped.room
  have aligned := widest_mem slots
  have size : (ofSlots slots).size.toNat = _ := toNat_roundUp _ _
  rw [size, unwrapped.toNat_greatest_stop, toNat_greatest_alignment]
  unfold ParamLayout.room at fits ⊢
  generalize widest slots = alignment at aligned fits ⊢
  generalize reach slots = far at fits ⊢
  simp only [List.mem_cons, List.not_mem_nil, or_false] at aligned
  rcases aligned with rfl | rfl | rfl | rfl <;> (split <;> omega)

/-- Every slot lies in the block. -/
theorem bound_le_size {slot : ParamSlot} (among : slot ∈ slots) :
    slot.bound ≤ (ofSlots slots).size.toNat := by
  rw [unwrapped.size_ofSlots]
  refine Nat.le_trans ?_ (reach_le_room slots)
  rw [← unwrapped.toNat_greatest_stop, ← ParamSlot.toNat_stop (unwrapped.bounds slot among)]
  exact mem_le_greatest 0 (List.mem_map_of_mem among)

end Unwrapped

theorem slot?_mem {layout : ParamLayout} {name : String} {slot : ParamSlot}
    (found : layout.slot? name = some slot) : slot ∈ layout.slots :=
  List.mem_of_find?_eq_some found

end ParamLayout

/-! ### Functions -/

namespace FunctionDescriptor

/-- The layout of the function was built from a property chain, and nothing wrapped. -/
structure Laid (descriptor : FunctionDescriptor) : Prop where
  built : descriptor.layout = ParamLayout.ofSlots descriptor.layout.slots
  unwrapped : ParamLayout.Unwrapped descriptor.layout.slots

theorem laid_of_properties {descriptor : FunctionDescriptor} {properties : List Host.Property}
    (built : descriptor.layout = ParamLayout.ofProperties properties)
    (unwrapped : ParamLayout.Unwrapped descriptor.layout.slots) : descriptor.Laid where
  built := by
    rw [built]
    rfl
  unwrapped := unwrapped

theorem Laid.bound_le_blockSize {descriptor : FunctionDescriptor} (laid : descriptor.Laid)
    {slot : ParamSlot} (among : slot ∈ descriptor.layout.slots) :
    slot.bound ≤ descriptor.blockSize := by
  have within := laid.unwrapped.bound_le_size among
  rw [← laid.built] at within
  exact within

end FunctionDescriptor

end ReplicaBridge.Params
