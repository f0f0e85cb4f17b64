/-
Module: ReplicaBridge.Params.Block
Purpose: Parameter blocks: the bytes that a host call takes its arguments from and
  leaves its outputs in, read and written by scalar.
Main exports: ParameterBlock, ParameterBlock.holding, ParameterBlock.write,
  ParameterBlock.read, ParameterBlock.writeSlot, ParameterBlock.readSlot
-/
import ReplicaBridge.Fault
import ReplicaBridge.Params.Layout
import ReplicaBridge.Params.Scalar

namespace ReplicaBridge.Params

/-- The argument bytes of one host call. -/
structure ParameterBlock where
  bytes : Bytes
deriving Repr, Inhabited, DecidableEq

namespace ParameterBlock

/-- A block of zeros. -/
def ofSize (size : Nat) : ParameterBlock :=
  { bytes := Bytes.zeros size }

/-- A block of zeros with the given bytes at its front, if there can be room for it. -/
def holding (size : Nat) (front : Bytes) : Except Fault ParameterBlock :=
  match Fault.ofSize? size with
  | some fault => .error fault
  | none => .ok { bytes := Bytes.overwrite (Bytes.zeros size) 0 front }

/-- A block of zeros for a call of the function. -/
def forFunction (descriptor : FunctionDescriptor) : ParameterBlock :=
  ofSize descriptor.blockSize

def length (block : ParameterBlock) : Nat :=
  block.bytes.length

def isEmpty (block : ParameterBlock) : Bool :=
  block.bytes.isEmpty

/-- Check that `size` bytes from `offset` on lie in the block. -/
def checkRange (block : ParameterBlock) (offset size : Nat) : Except InvokeError Unit :=
  if block.length < offset + size then .error (.outOfBounds offset size block.length) else .ok ()

/-- Write a value at an offset. -/
def write (block : ParameterBlock) (offset : Nat) (value : Scalar) :
    Except InvokeError ParameterBlock :=
  match block.checkRange offset value.type.width with
  | .error error => .error error
  | .ok () => .ok { bytes := Bytes.overwrite block.bytes offset value.toBytes }

/-- Read a value of a type at an offset. -/
def read (block : ParameterBlock) (offset : Nat) (type : ScalarType) :
    Except InvokeError Scalar :=
  match block.checkRange offset type.width with
  | .error error => .error error
  | .ok () => .ok (type.ofBytes (Bytes.slice block.bytes offset type.width))

/-- A slot is accessed only as a type of exactly its size. -/
def checkSlot (slot : ParamSlot) (type : ScalarType) : Except InvokeError Unit :=
  if slot.size.toNat = type.width then .ok ()
  else .error (.slotSize slot.name type.width slot.size.toNat)

/-- Write a value into a slot. -/
def writeSlot (block : ParameterBlock) (slot : ParamSlot) (value : Scalar) :
    Except InvokeError ParameterBlock :=
  match checkSlot slot value.type with
  | .error error => .error error
  | .ok () => block.write slot.offset.toNat value

/-- Read a value from a slot. -/
def readSlot (block : ParameterBlock) (slot : ParamSlot) (type : ScalarType) :
    Except InvokeError Scalar :=
  match checkSlot slot type with
  | .error error => .error error
  | .ok () => block.read slot.offset.toNat type

end ParameterBlock

end ReplicaBridge.Params
