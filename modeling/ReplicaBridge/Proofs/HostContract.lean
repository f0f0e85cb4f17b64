/-
Module: ReplicaBridge.Proofs.HostContract
Purpose: What a session relies on from a host: nothing that the host hands out is null, and
  the outputs of a function end within the words that offsets are counted in.  A loaded
  function table keeps this contract whatever its entries answer.  With a host that keeps
  it, an output never lies outside the block of a call that passed its checks.
Main exports: Host.Contract, Host.Loaded.contract, FunctionDescriptor.Sound,
  Host.Contract.sound_descriptor, Bridge.copyOutputs_ok, Bridge.dispatch_within,
  ParamSchema.Carries
-/
import ReplicaBridge.Proofs.ParamStructs
import ReplicaBridge.Proofs.SessionRun

namespace ReplicaBridge

open Host (Object Property ReflectionHost)
open Params (FunctionDescriptor ParamField ParamLayout ParamSchema ParamSlot ParameterBlock Scalar)

/-- What a session relies on from a host; `sound` holds of the stores that it can be met
with. -/
structure Host.Contract {H : Type} [ReflectionHost H] (sound : H → Prop) : Prop where
  live : ∀ store, sound store → ∀ object ∈ Host.liveObjects store, object.isNull = false
  method : ∀ store owner name function, sound store →
    ReflectionHost.findFunction store owner name = some function → function.isNull = false
  outputs : ∀ store function, sound store → ∀ property ∈ Host.readableProperties store function,
    (ParamSlot.ofProperty property).isOutput = true →
      property.offset.toNat + property.size.toNat < 2 ^ 64
  dispatch : ∀ store target function frame, sound store →
    sound (ReflectionHost.dispatch store target function frame).1

/-- The instances of a class are live entries. -/
theorem Host.Contract.instances {H : Type} [ReflectionHost H] {sound : H → Prop}
    (contract : Host.Contract sound) {store : H} (fine : sound store) {owner object : Object}
    (among : object ∈ Host.instances store owner) : object.isNull = false := by
  unfold Host.instances at among
  split at among
  · exact contract.live store fine object (List.mem_filter.1 among).1
  · cases among

/-! ### Layouts -/

namespace Params

namespace FunctionDescriptor

/-- A function that can be called: it is not null, and its outputs lie in its block, unless
the size of the block wraps to nothing. -/
structure Sound (descriptor : FunctionDescriptor) : Prop where
  function : descriptor.function.isNull = false
  outputs : ∀ slot ∈ descriptor.layout.outputs, slot.offset.toNat ≤ slot.stop.toNat ∧
    (descriptor.blockSize = 0 ∨ slot.stop.toNat ≤ descriptor.blockSize)

end FunctionDescriptor

end Params

/-- Every function that a host which keeps the contract hands out can be called. -/
theorem Host.Contract.sound_descriptor {H : Type} [ReflectionHost H] {sound : H → Prop}
    (contract : Host.Contract sound) {store : H} (fine : sound store)
    {descriptor : FunctionDescriptor} {method : String}
    (found : ReflectionHost.findFunction store descriptor.owningClass method =
      some descriptor.function)
    (layout : descriptor.layout =
      ParamLayout.ofProperties (Host.readableProperties store descriptor.function)) :
    descriptor.Sound where
  function := contract.method store _ method _ fine found
  outputs := by
    intro slot among
    have size : descriptor.blockSize = descriptor.layout.size.toNat := rfl
    rw [size]
    rw [layout] at among ⊢
    obtain ⟨within, writes⟩ := List.mem_filter.1 among
    refine ⟨?_, ParamLayout.stop_le_size _ within⟩
    obtain ⟨property, read, rfl⟩ := List.mem_map.1 within
    have fits := contract.outputs store _ fine property read writes
    have stop : (ParamSlot.ofProperty property).stop.toNat =
        (property.offset.toNat + property.size.toNat) % 2 ^ 64 := UInt64.toNat_add _ _
    rw [stop, Nat.mod_eq_of_lt fits]
    exact Nat.le_add_right _ _

/-! ### Blocks -/

/-- Outputs that lie in the block are taken over. -/
theorem Bridge.copyOutputs_ok (frame : Bytes) {slots : List ParamSlot} {block : Bytes}
    (within : ∀ slot ∈ slots, slot.offset.toNat ≤ slot.stop.toNat ∧
      slot.stop.toNat ≤ block.length) :
    ∃ bytes, Bridge.copyOutputs frame slots block = .ok bytes := by
  induction slots generalizing block with
  | nil => exact ⟨block, rfl⟩
  | cons slot rest ih =>
      have inside := Fault.ofRange?_eq_none_iff.2 (within slot List.mem_cons_self)
      simp only [Bridge.copyOutputs]
      rw [inside]
      apply ih
      intro other among
      rw [Bytes.length_overwrite]
      exact within other (List.mem_cons_of_mem slot among)

/-- What becomes of a call whose outputs lie in its block: the host faults, and the block is as it
was; or the call comes back, and the outputs are taken over. -/
theorem Bridge.dispatch_within {H : Type} [ReflectionHost H] (bridge : Bridge H)
    (target : Object) {function : FunctionDescriptor} {block : ParameterBlock}
    (within : ∀ slot ∈ function.layout.outputs, slot.offset.toNat ≤ slot.stop.toNat ∧
      slot.stop.toNat ≤ block.bytes.length) :
    let asked := ReflectionHost.dispatch bridge.host.store target function.function block.bytes
    let done := bridge.dispatch target function block
    (∃ store, asked = (store, none) ∧ done =
      { bridge := { bridge with host := { bridge.host with store } }.failLayout
          (.hostFault function.name)
        block
        outcome := .error (.refused (.hostFault function.name)) }) ∨
    ∃ store left bytes, asked = (store, some left) ∧ left.length = block.bytes.length ∧
      copyOutputs left function.layout.outputs block.bytes = .ok bytes ∧ done =
      { bridge := { bridge with host := { bridge.host with store } }.countCall
        block := { bytes }
        outcome := .ok .dispatched } := by
  unfold dispatch
  rcases answered : ReflectionHost.dispatch bridge.host.store target function.function block.bytes
    with ⟨store, answer⟩
  cases answer with
  | none => exact .inl ⟨store, rfl, rfl⟩
  | some left =>
      have length := ReflectionHost.length_of_dispatch _ _ _ _ _ _ answered
      obtain ⟨bytes, copied⟩ := copyOutputs_ok left within
      dsimp only
      rw [copied]
      exact .inr ⟨store, left, bytes, rfl, length, copied, rfl⟩

namespace Params.ParamSchema

/-- The struct has one field, which is an input of the value's type and fills the block. -/
structure Carries (schema : ParamSchema) (value : Scalar) : Prop where
  only : ∃ field, schema.fields = [field] ∧ field.out = false
  fills : schema.size = value.type.width

variable {schema : ParamSchema} {value : Scalar} (carries : schema.Carries value)

include carries

/-- The block of such a struct is the bytes of its value. -/
theorem Carries.bytes_of_encode {descriptor : FunctionDescriptor} {block : ParameterBlock}
    (encoded : schema.encode [value] descriptor = .ok block) :
    descriptor.blockSize = value.type.width ∧ block.bytes = value.toBytes := by
  obtain ⟨field, only, _⟩ := carries.only
  have writes : schema.fields.zip [value] = [(field, value)] := by rw [only]; rfl
  obtain ⟨size, wrote⟩ := encode_eq_ok.mp encoded
  rw [carries.fills] at size
  rw [writes] at wrote
  obtain ⟨slot, -, width, within, put⟩ := writeFields_cons_ok_iff.mp wrote
  have length : (ParameterBlock.forFunction descriptor).length = value.type.width :=
    List.length_replicate.trans size
  have start : slot.offset.toNat = 0 := by
    rw [length, ParamSlot.bound, width] at within
    omega
  cases put
  refine ⟨size, ?_⟩
  dsimp only [ParameterBlock.put]
  rw [start]
  exact Bytes.overwrite_all (length.trans value.length_toBytes.symm)

/-- There is nothing to read back. -/
theorem Carries.decodeOutputs_eq (descriptor : FunctionDescriptor) (block : ParameterBlock) :
    schema.decodeOutputs [value] descriptor block = .ok [value] := by
  obtain ⟨field, only, input⟩ := carries.only
  have reads : schema.fields.zip [value] = [(field, value)] := by rw [only]; rfl
  unfold decodeOutputs
  rw [reads, readFields, input]
  rfl

end Params.ParamSchema

/-! ### Loaded tables -/

namespace Host.Loaded

variable {T : Type} [FunctionTable T]

theorem nonNull?_eq_some {object other : Object} (kept : object.nonNull? = some other) :
    other.isNull = false := by
  unfold Object.nonNull? at kept
  split at kept
  · cases kept
  · rename_i solid
    cases kept
    exact Bool.eq_false_iff.2 solid

/-- Signed numbers of 32 bits never take a parameter past the words of 64 bits. -/
theorem stop_lt (record : PropertyRecord) :
    record.toProperty.offset.toNat + record.toProperty.size.toNat < 2 ^ 64 := by
  have bounded (bound : Nat) (small : bound ≤ 1) (value : Int32) :
      (PropertyRecord.atLeast bound value).toNat < 2 ^ 31 := by
    have above := value.toInt_lt
    have fits : max bound value.toInt.toNat < 2 ^ 64 := by omega
    unfold PropertyRecord.atLeast
    rw [UInt64.toNat_ofNat', Nat.mod_eq_of_lt fits]
    omega
  have offset := bounded 0 (by omega) record.offset
  have size := bounded 0 (by omega) record.elementSize
  have count := bounded 1 (by omega) record.arrayDim
  have product := Nat.mul_lt_mul'' size count
  have whole : record.toProperty.size.toNat =
      (PropertyRecord.atLeast 0 record.elementSize).toNat *
        (PropertyRecord.atLeast 1 record.arrayDim).toNat := by
    refine (UInt64.toNat_mul _ _).trans (Nat.mod_eq_of_lt ?_)
    omega
  rw [whole]
  change (PropertyRecord.atLeast 0 record.offset).toNat + _ < _
  omega

/-- A loaded table keeps the contract, whatever its entries answer. -/
theorem contract : Host.Contract fun _ : Loaded T => True where
  live store _ object among := by
    obtain ⟨index, _, found⟩ := List.mem_filterMap.1 among
    change objectAt store.table index = some object at found
    unfold objectAt at found
    split at found
    · cases found
    · rename_i entry kept
      split at found
      · cases found
      · cases found
        exact nonNull?_eq_some kept
  method store owner name function _ found := by
    change Loaded.findFunction store.table owner name = some function at found
    unfold Loaded.findFunction at found
    dsimp only at found
    split at found
    · cases found
    · exact nonNull?_eq_some found
  outputs store function _ property among _ := by
    obtain ⟨link, listed, rfl⟩ := List.mem_filterMap.1 among
    change some property ∈ Loaded.properties store.table function at listed
    unfold Loaded.properties at listed
    split at listed
    · cases listed
    · obtain ⟨index, _, read⟩ := List.mem_map.1 listed
      obtain ⟨record, _, rfl⟩ := Option.map_eq_some_iff.1 read
      exact stop_lt record
  dispatch _ _ _ _ _ := trivial

end Host.Loaded

end ReplicaBridge
