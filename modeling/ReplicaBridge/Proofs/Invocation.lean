/-
Module: ReplicaBridge.Proofs.Invocation
Purpose: What a call into the host does to the caller's block.  The host works on a frame of
  its own, which holds exactly the block; only when the call came back are the output slots
  copied from it, and all other bytes stay as they were.  A layout that was built from a
  property chain without wrapping has every slot in the block, so no byte outside of a buffer
  is ever asked for, whether the frame has the room of short blocks or its own.
Main exports: Bridge.copyOutputs_spec, Bridge.Passes, Bridge.dispatchStaged?,
  Bridge.dispatchStaged?_eq, Bridge.invoke_faithful
-/
import ReplicaBridge.Host.MemoryStore
import ReplicaBridge.Proofs.HostCalls
import ReplicaBridge.Proofs.HostContract

namespace ReplicaBridge

open Host (MemoryStore Object Property Recorded ReflectionHost)
open Params (FunctionDescriptor ParamLayout ParamSlot ParameterBlock)

/-! ### Layouts built from a chain -/

namespace Params.FunctionDescriptor.Laid

variable {descriptor : FunctionDescriptor} (laid : descriptor.Laid)

include laid

theorem outputs_within {block : Bytes} (size : block.length = descriptor.blockSize) :
    ∀ slot ∈ descriptor.layout.outputs,
      slot.stop.toNat = slot.bound ∧ slot.bound ≤ block.length := by
  intro slot among
  have chained := (List.mem_filter.mp among).1
  exact ⟨ParamSlot.toNat_stop (laid.unwrapped.bounds slot chained),
    (laid.bound_le_blockSize chained).trans_eq size.symm⟩

theorem stops_within {block : Bytes} (size : block.length = descriptor.blockSize) :
    ∀ slot ∈ descriptor.layout.outputs,
      slot.offset.toNat ≤ slot.stop.toNat ∧ slot.stop.toNat ≤ block.length := by
  intro slot among
  obtain ⟨stop, inside⟩ := laid.outputs_within size slot among
  rw [stop]
  exact ⟨slot.offset_le_bound, inside⟩

end Params.FunctionDescriptor.Laid

/-! ### Taking over the outputs -/

namespace Bridge

/-- Taking over slots of a frame changes the bytes of those slots, and leaves all others as they
were: it does not matter whether slots overlap, or whether they are empty. -/
theorem copyOutputs_spec {frame : Bytes} {slots : List ParamSlot} {block bytes : Bytes}
    (within : ∀ slot ∈ slots, slot.stop.toNat = slot.bound ∧ slot.bound ≤ block.length)
    (copied : copyOutputs frame slots block = .ok bytes) (same : frame.length = block.length) :
    bytes.length = block.length ∧ ∀ index, bytes[index]? =
      if slots.any (·.covers index) then frame[index]? else block[index]? := by
  induction slots generalizing block with
  | nil =>
      cases copied
      exact ⟨rfl, fun index => rfl⟩
  | cons slot rest ih =>
      obtain ⟨⟨stop, inside⟩, others⟩ := List.forall_mem_cons.mp within
      let start := slot.offset.toNat
      let patch := Bytes.slice frame start slot.size.toNat
      have length : patch.length = slot.size.toNat :=
        Bytes.length_slice (by rw [same]; exact inside)
      have sound : Fault.ofRange? start slot.stop.toNat block.length = none :=
        Fault.ofRange?_eq_none_iff.mpr
          ⟨stop ▸ slot.offset_le_bound, stop ▸ inside⟩
      have size : slot.bound - start = slot.size.toNat := Nat.add_sub_cancel_left _ _
      simp only [copyOutputs] at copied
      rw [sound, stop, size] at copied
      obtain ⟨kept, later⟩ := ih (by simpa only [Bytes.length_overwrite] using others) copied
        (by rw [Bytes.length_overwrite, same])
      refine ⟨kept.trans (Bytes.length_overwrite _ _ _), fun index => ?_⟩
      have fits : start + patch.length ≤ block.length := by rw [length]; exact inside
      rw [later, List.any_cons, Bytes.getElem?_overwrite fits, length]
      by_cases covered : start ≤ index ∧ index < start + slot.size.toNat
      · -- The patch has the frame's own byte here, so a later slot copies the same.
        have own : patch[index - start]? = frame[index]? := by
          rw [Bytes.getElem?_slice, if_pos (by omega), Nat.add_sub_cancel' covered.1]
        have covers : slot.covers index = true := decide_eq_true covered
        rw [if_pos covered, own, covers, Bool.true_or, if_pos rfl, ite_self]
      · have apart : slot.covers index = false := decide_eq_false covered
        rw [if_neg covered, apart, Bool.false_or]

end Bridge

/-! ### With every access checked -/

namespace Bridge

variable {H : Type}

/-- The room for the frames of short blocks. -/
def stackFrameSize : Nat := 512

/-- How many bytes a frame is taken from: the room for short blocks, or room of its own. -/
def frameRoom (size : Nat) : Nat :=
  if size ≤ stackFrameSize then stackFrameSize else size

/-- The frame for a call: the front of its room, with the block copied into it. -/
def stageFrame? (size : Nat) (block : Bytes) : Option Bytes := do
  let frame ← (Bytes.zeros (frameRoom size)).slice? 0 size
  frame.copyInto? 0 frame.length block

/-- Copy the output slots of a frame into the caller's block. -/
def copyOutputs? (frame : Bytes) : List ParamSlot → Bytes → Option Bytes
  | [], block => some block
  | slot :: rest, block => do
    let taken ← frame.slice? slot.offset.toNat slot.stop.toNat
    let block ← block.copyInto? slot.offset.toNat slot.stop.toNat taken
    copyOutputs? frame rest block

/-- Dispatch a call with every access to a buffer checked; nothing if one goes outside. -/
def dispatchStaged? [ReflectionHost H] (bridge : Bridge H) (target : Object)
    (function : FunctionDescriptor) (block : ParameterBlock) : Option (Invocation H) := do
  let frame ← stageFrame? function.blockSize block.bytes
  match ReflectionHost.dispatch bridge.host.store target function.function frame with
  | (store, none) =>
    let error := InvokeError.hostFault function.name
    return { bridge := { bridge with host := { bridge.host with store } }.failLayout error
             block
             outcome := .error (.refused error) }
  | (store, some left) =>
    let bytes ← copyOutputs? left function.layout.outputs block.bytes
    return { bridge := { bridge with host := { bridge.host with store } }.countCall
             block := { bytes }
             outcome := .ok .dispatched }

theorem stageFrame?_eq {size : Nat} {block : Bytes} (full : block.length = size) :
    stageFrame? size block = some block := by
  have enough : size ≤ (Bytes.zeros (frameRoom size)).length := by
    rw [Bytes.zeros, List.length_replicate, frameRoom]
    split <;> omega
  have length : (Bytes.slice (Bytes.zeros (frameRoom size)) 0 size).length = size :=
    Bytes.length_slice (by omega)
  simp only [stageFrame?, Bytes.slice?, Nat.zero_le, enough, and_self, if_true, Nat.sub_zero,
    Option.bind_eq_bind, Option.bind_some, Bytes.copyInto?, Nat.le_refl, length, full]
  rw [Bytes.overwrite_all (length.trans full.symm)]

/-- Slots that lie in the block are copied without an access outside of it, and as without
checks. -/
theorem copyOutputs?_eq {frame : Bytes} {slots : List ParamSlot} {block bytes : Bytes}
    (within : ∀ slot ∈ slots, slot.stop.toNat = slot.bound ∧ slot.bound ≤ block.length)
    (copied : copyOutputs frame slots block = .ok bytes) (same : frame.length = block.length) :
    copyOutputs? frame slots block = some bytes := by
  induction slots generalizing block with
  | nil =>
      cases copied
      rfl
  | cons slot rest ih =>
      obtain ⟨⟨stop, inside⟩, others⟩ := List.forall_mem_cons.mp within
      have ordered := slot.offset_le_bound
      have sound : Fault.ofRange? slot.offset.toNat slot.stop.toNat block.length = none :=
        Fault.ofRange?_eq_none_iff.mpr ⟨stop ▸ ordered, stop ▸ inside⟩
      have taken : (Bytes.slice frame slot.offset.toNat (slot.bound - slot.offset.toNat)).length =
          slot.bound - slot.offset.toNat := Bytes.length_slice (by omega)
      simp only [copyOutputs] at copied
      rw [sound, stop] at copied
      simp only [copyOutputs?, stop, Bytes.slice?, same, ordered, inside, and_self, if_true,
        Option.bind_eq_bind, Option.bind_some, Bytes.copyInto?, taken]
      exact ih (by simpa only [Bytes.length_overwrite] using others) copied
        (by rw [Bytes.length_overwrite, same])

end Bridge

/-! ### Calls -/

namespace Bridge

variable {H : Type} [ReflectionHost H] (bridge : Bridge H) (caller : Caller) (target : Object)
  (function : FunctionDescriptor) (block : ParameterBlock)

/-- The call passes every check that is made before the host is called. -/
structure Passes : Prop where
  caller : caller = .gameThread
  gate : bridge.gate.disabled = false
  solid : (target.isNull || function.function.isNull) = false
  size : block.length = function.blockSize

variable {bridge caller target function block}

theorem Passes.invoke_eq (passes : bridge.Passes caller target function block) :
    bridge.invoke caller target function block = bridge.dispatch target function block := by
  obtain ⟨rfl, gate, solid, size⟩ := passes
  simp [invoke, gate, solid, size]

/-- A call that does not pass leaves the block alone. -/
theorem invoke_of_not_passes (stopped : ¬bridge.Passes caller target function block) :
    let done := bridge.invoke caller target function block
    done.block = block ∧ done.outcome ≠ .ok .dispatched ∧
      ∀ fault, done.outcome ≠ .error (.unwound fault) := by
  unfold invoke
  cases caller with
  | elsewhere => exact ⟨rfl, nofun, nofun⟩
  | gameThread =>
      dsimp only
      split
      · exact ⟨rfl, nofun, nofun⟩
      · rename_i gate
        split
        · exact ⟨rfl, nofun, nofun⟩
        · rename_i solid
          split
          · exact ⟨rfl, nofun, nofun⟩
          · rename_i size
            exact absurd ⟨rfl, Bool.eq_false_iff.mpr gate, Bool.eq_false_iff.mpr solid,
              Decidable.not_not.mp size⟩ stopped

/-- What becomes of a dispatched call: the host faults, and the block is as it was; or the call
comes back, and the outputs are taken over. -/
theorem dispatch_laid (bridge : Bridge H) (target : Object) (laid : function.Laid)
    (size : block.length = function.blockSize) :
    let asked := ReflectionHost.dispatch bridge.host.store target function.function block.bytes
    let done := bridge.dispatch target function block
    done.bridge.host.store = asked.1 ∧
      ((asked.2 = none ∧ done.block = block ∧
          done.outcome = .error (.refused (.hostFault function.name))) ∨
        ∃ left bytes, asked.2 = some left ∧ left.length = block.length ∧
          copyOutputs left function.layout.outputs block.bytes = .ok bytes ∧
          done.block = { bytes } ∧ done.outcome = .ok .dispatched) := by
  rcases bridge.dispatch_within target (laid.stops_within size) with
    ⟨store, answered, ended⟩ | ⟨store, left, bytes, answered, length, copied, ended⟩
  · rw [answered, ended]
    refine ⟨?_, .inl ⟨rfl, rfl, rfl⟩⟩
    simp only [failLayout]
    split <;> rfl
  · rw [answered, ended]
    exact ⟨rfl, .inr ⟨left, bytes, rfl, length, copied, rfl, rfl⟩⟩

/-- No access of a call that passes goes outside of a buffer, whatever room the frame has. -/
theorem dispatchStaged?_eq (laid : function.Laid)
    (passes : bridge.Passes caller target function block) :
    bridge.dispatchStaged? target function block =
      some (bridge.invoke caller target function block) := by
  rw [passes.invoke_eq, dispatchStaged?, stageFrame?_eq passes.size]
  rcases bridge.dispatch_within target (laid.stops_within passes.size) with
    ⟨store, answered, ended⟩ | ⟨store, left, bytes, answered, length, copied, ended⟩
  · simp only [Option.bind_eq_bind, Option.bind_some, answered, ended, pure]
  · have checked := copyOutputs?_eq (laid.outputs_within passes.size) copied length
    simp only [Option.bind_eq_bind, Option.bind_some, answered, checked, ended, pure]

end Bridge

/-! ### What a call leaves -/

namespace Bridge

variable {H : Type} [ReflectionHost H]

/-- For a function whose layout was built from a property chain without wrapping, whatever its
slots are and whatever the host does: a call that was made reached the host once, with exactly
the caller's bytes; then the caller's bytes in the output slots are the host's, and all others
are as before.  Otherwise the block is as before.  No access goes outside of a buffer. -/
theorem invoke_faithful (bridge : Bridge (Recorded H)) (caller : Caller) (target : Object)
    (function : FunctionDescriptor) (block : ParameterBlock) (properties : List Property)
    (built : function.layout = ParamLayout.ofProperties properties)
    (unwrapped : ParamLayout.Unwrapped function.layout.slots) :
    let asked := ReflectionHost.dispatch bridge.host.store target function.function block.bytes
    let done := bridge.invoke caller target function block
    (done.outcome = .ok .dispatched →
      done.bridge.calls = bridge.calls ++
        [{ target, function := function.function, frame := block.bytes }] ∧
      ∃ left, asked.2 = some left ∧ left.length = block.length ∧
        done.block.length = block.length ∧
        ∀ index, done.block.bytes[index]? =
          if function.layout.outputs.any (·.covers index) then left[index]?
          else block.bytes[index]?) ∧
    (done.outcome ≠ .ok .dispatched → done.block = block) ∧
    (∀ fault, done.outcome ≠ .error (.unwound fault)) ∧
    (bridge.Passes caller target function block →
      bridge.dispatchStaged? target function block = some done) := by
  intro asked done
  have laid := Params.FunctionDescriptor.laid_of_properties built unwrapped
  by_cases passes : bridge.Passes caller target function block
  · have dispatched : done = bridge.dispatch target function block := passes.invoke_eq
    obtain ⟨store, ended⟩ := dispatch_laid bridge target laid passes.size
    rw [← dispatched] at store ended
    have calls : done.bridge.calls = bridge.calls ++
        [{ target, function := function.function, frame := block.bytes }] :=
      congrArg Recorded.calls store
    refine ⟨fun returned => ⟨calls, ?_⟩, fun failed => ?_, fun fault unwound => ?_, fun _ => ?_⟩
    · rcases ended with ⟨-, -, refused⟩ | ⟨left, bytes, answer, length, copied, taken, -⟩
      · cases returned.symm.trans refused
      · obtain ⟨kept, each⟩ := copyOutputs_spec (laid.outputs_within passes.size) copied length
        rw [taken]
        exact ⟨left, answer, length, kept, each⟩
    · rcases ended with ⟨-, same, -⟩ | ⟨left, bytes, -, -, -, -, returned⟩
      · exact same
      · exact absurd returned failed
    · rcases ended with ⟨-, -, refused⟩ | ⟨left, bytes, -, -, -, -, returned⟩
      · cases unwound.symm.trans refused
      · cases unwound.symm.trans returned
    · exact dispatchStaged?_eq laid passes
  · obtain ⟨same, unmade, unfaulted⟩ := invoke_of_not_passes passes
    exact ⟨fun returned => absurd returned unmade, fun _ => same, unfaulted,
      fun made => absurd made passes⟩

/-- The host fills its whole frame.  Of the caller's block the bytes of the two outputs change,
which overlap; an output without a size, an input and the padding do not. -/
theorem invoke_faithful_over_overlap :
    let properties : List Property :=
      [{ name := "Result", offset := 0, size := 4, flags := 0x100 },
        { name := "ReturnValue", offset := 2, size := 4, flags := 0x400 },
        { name := "Nothing", offset := 7, size := 0, flags := 0x100 },
        { name := "Input", offset := 8, size := 1, flags := 0x80 }]
    let run : Host.MemoryEntry :=
      { name := "Game.Probe.Run", tag := .function, owner := none, isTemplate := false,
        functions := [], properties }
    let store : MemoryStore :=
      { slots := [some run], writer := some (.patch 0 (List.replicate 12 0xAA)) }
    let bridge : Bridge (Recorded MemoryStore) := { host := { store := { store } } }
    let function : FunctionDescriptor :=
      { owningClass := .null, function := { address := 16 }, className := "Game.Probe",
        name := "Run", layout := ParamLayout.ofProperties properties }
    let block : ParameterBlock := { bytes := [1, 2, 3, 4, 5, 6, 7, 8, 9, 10, 11, 12] }
    let done := bridge.invoke .gameThread { address := 32 } function block
    done.bridge.calls =
        [{ target := { address := 32 }, function := { address := 16 }, frame := block.bytes }] ∧
      done.block.bytes = [0xAA, 0xAA, 0xAA, 0xAA, 0xAA, 0xAA, 7, 8, 9, 10, 11, 12] ∧
      done.block.bytes[7]? = block.bytes[7]? := by
  intro properties run store bridge function block done
  have returned : done.outcome = .ok .dispatched := by
    have answered : done.outcome.toOption = some .dispatched := by decide +kernel
    cases outcome : done.outcome with
    | error halt =>
        rw [outcome] at answered
        cases answered
    | ok reached =>
        rw [outcome] at answered
        cases answered
        rfl
  have unwrapped : ParamLayout.Unwrapped function.layout.slots :=
    ⟨by decide +kernel, by decide +kernel⟩
  obtain ⟨made, -, -, -⟩ := invoke_faithful bridge .gameThread { address := 32 } function block
    properties rfl unwrapped
  obtain ⟨calls, left, answer, -, -, each⟩ := made returned
  refine ⟨calls, by decide +kernel, ?_⟩
  rw [each 7]
  exact if_neg (by decide +kernel)

end Bridge

end ReplicaBridge
