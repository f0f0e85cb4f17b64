/-
Module: ReplicaBridge.Params.Layout
Purpose: Where the parameters of a host function lie in its parameter block, as the
  host's properties tell it.  Offsets and sizes are 64-bit words and wrap.
Main exports: ParamSlot, ParamLayout, ParamLayout.ofProperties, FunctionDescriptor
-/
import ReplicaBridge.Error

namespace ReplicaBridge.Params

open Host (Object Property)

/-- One named region of a parameter block. -/
structure ParamSlot where
  name : String
  offset : UInt64
  size : UInt64
  flags : UInt64
deriving Repr, Inhabited, DecidableEq

namespace ParamSlot

/-- The flag of a parameter that the callee writes. -/
def outFlag : UInt64 := 0x100

/-- The flag of a function's return value. -/
def returnFlag : UInt64 := 0x400

def ofProperty (property : Property) : ParamSlot :=
  { name := property.name, offset := property.offset, size := property.size,
    flags := property.flags }

/-- One past the last byte of the slot. -/
def stop (slot : ParamSlot) : UInt64 :=
  slot.offset + slot.size

/-- The callee writes the slot. -/
def isOutput (slot : ParamSlot) : Bool :=
  slot.flags &&& (outFlag ||| returnFlag) != 0

/-- The alignment assumed for the slot's type: the largest power of two up to its size,
at least one and at most eight. -/
def alignment (slot : ParamSlot) : UInt64 :=
  if slot.size ≤ 1 then 1
  else if slot.size ≤ 3 then 2
  else if slot.size ≤ 7 then 4
  else 8

end ParamSlot

/-- The byte layout of a function's parameter block. -/
structure ParamLayout where
  /-- The slots in the order of the property chain. -/
  slots : List ParamSlot
  /-- The size of the whole block. -/
  size : UInt64
deriving Repr, Inhabited, DecidableEq

namespace ParamLayout

/-- The layout without parameters. -/
def empty : ParamLayout := { slots := [], size := 0 }

/-- The greatest of some words, at least the given one. -/
def greatest (least : UInt64) (words : List UInt64) : UInt64 :=
  words.foldl max least

/-- Round up to a multiple of the alignment. -/
def roundUp (size alignment : UInt64) : UInt64 :=
  (size / alignment + if size % alignment = 0 then 0 else 1) * alignment

/-- The block ends where its furthest slot ends, rounded up to the largest alignment of
any slot. -/
def ofSlots (slots : List ParamSlot) : ParamLayout :=
  { slots
    size := roundUp (greatest 0 (slots.map (·.stop))) (greatest 1 (slots.map (·.alignment))) }

/-- The layout of a property chain. -/
def ofProperties (properties : List Property) : ParamLayout :=
  ofSlots (properties.map ParamSlot.ofProperty)

/-- The first slot of a name. -/
def slot? (layout : ParamLayout) (name : String) : Option ParamSlot :=
  layout.slots.find? (·.name == name)

/-- The slots that the callee writes. -/
def outputs (layout : ParamLayout) : List ParamSlot :=
  layout.slots.filter (·.isOutput)

end ParamLayout

/-- A resolved host function. -/
structure FunctionDescriptor where
  owningClass : Object
  function : Object
  className : String
  name : String
  layout : ParamLayout
deriving Repr, Inhabited, DecidableEq

namespace FunctionDescriptor

/-- The size of the function's parameter block. -/
def blockSize (descriptor : FunctionDescriptor) : Nat :=
  descriptor.layout.size.toNat

/-- The slot of a parameter; a host build that lacks it has the wrong layout. -/
def slot (descriptor : FunctionDescriptor) (name : String) : Except InvokeError ParamSlot :=
  match descriptor.layout.slot? name with
  | some slot => .ok slot
  | none => .error (.missingParam descriptor.name name)

/-- Check the block size against the one a typed parameter struct was written for. -/
def expectSize (descriptor : FunctionDescriptor) (expected : Nat) : Except InvokeError Unit :=
  if descriptor.blockSize = expected then .ok ()
  else .error (.sizeMismatch descriptor.name expected descriptor.blockSize)

end FunctionDescriptor

end ReplicaBridge.Params
