/-
Module: ReplicaBridge.Host.FunctionTable
Purpose: The function table through which a loader hands out its reflection store: raw
  bytes, numbers and addresses.  Loading checks the table; a loaded table answers as a
  reflection host.
Main exports: FunctionTable, TableHeader, TableHeader.check, Loaded, readName,
  PropertyRecord.toProperty
-/
import ReplicaBridge.Error
import ReplicaBridge.Host.Reflection

namespace ReplicaBridge.Host

/-! ### Loading -/

/-- What is looked at before a table is trusted: its version and the entries it lacks. -/
structure TableHeader where
  version : Nat
  missing : List String
deriving Repr, Inhabited, DecidableEq

namespace TableHeader

/-- The version of the table that this bridge understands. -/
def supportedVersion : Nat := 1

/-- The entries of the table, in the order in which they are checked. -/
def entries : List String :=
  [ "is_ready", "object_count", "object_at", "full_name", "class_of", "type_tag",
    "object_flags", "find_function", "property_count", "property_at", "process_event" ]

/-- A table must be there, be of the supported version and have every entry. -/
def check : Option TableHeader → Except HostError Unit
  | none => .error .nullTable
  | some header =>
    if header.version ≠ supportedVersion then
      .error (.versionMismatch supportedVersion header.version)
    else match entries.find? (header.missing.contains ·) with
      | some entry => .error (.nullEntry entry)
      | none => .ok ()

end TableHeader

/-! ### The entries -/

/-- What the name entry does with a buffer: the bytes it writes and the length it reports,
which exceeds the buffer when the name does not fit. -/
structure NameReply where
  written : Bytes
  length : Nat
deriving Repr, Inhabited, DecidableEq

/-- One parameter as the loader describes it. -/
structure PropertyRecord where
  name : Bytes
  offset : Int32
  elementSize : Int32
  arrayDim : Int32
  flags : UInt64
deriving Repr, Inhabited, DecidableEq

/-- The raw entries of a function table. -/
class FunctionTable (T : Type) where
  isReady : T → Bool
  objectCount : T → Nat
  /-- The entry in a slot; null for a free one. -/
  objectAt : T → Nat → Object
  /-- The full name, written to a buffer of the given capacity. -/
  fullName : T → Object → (capacity : Nat) → NameReply
  classOf : T → Object → Object
  typeTag : T → Object → UInt32
  objectFlags : T → Object → UInt32
  findFunction : T → Object → (name : Bytes) → Object
  propertyCount : T → Object → Nat
  /-- The parameter at a chain position; `none` if it is unreadable or has no name. -/
  propertyAt : T → Object → Nat → Option PropertyRecord
  processEvent : T → (target function : Object) → (frame : Bytes) → T × Option Bytes
  length_of_processEvent : ∀ table target function frame after left,
    processEvent table target function frame = (after, some left) → left.length = frame.length

namespace NameReply

/-- The first `count` bytes of a zeroed buffer of the given capacity after the reply was
written to it. -/
def buffer (reply : NameReply) (capacity count : Nat) : Bytes :=
  (Bytes.overwrite (Bytes.zeros capacity) 0 reply.written).take count

end NameReply

/-- The size of the buffer for a first name query. -/
def nameBufferSize : Nat := 256

/-- The full name of an entry: a first query with the fixed buffer, and when the name is
longer a second one with a buffer of exactly the length reported. -/
def readName {T : Type} [FunctionTable T] (table : T) (object : Object) : Option String :=
  if object.isNull then none
  else
    let first := FunctionTable.fullName table object nameBufferSize
    if first.length = 0 then none
    else if first.length ≤ nameBufferSize then
      some (Text.ofUtf8Lossy (first.buffer nameBufferSize first.length))
    else
      let second := FunctionTable.fullName table object first.length
      some (Text.ofUtf8Lossy (second.buffer first.length (min second.length first.length)))

/-- The queries behind `readName`. -/
def readNameCost {T : Type} [FunctionTable T] (table : T) (object : Object) : Nat :=
  if object.isNull then 0
  else if (FunctionTable.fullName table object nameBufferSize).length ≤ nameBufferSize then 1
  else 2

namespace PropertyRecord

/-- A 32-bit number, or the bound when it lies below. -/
def atLeast (bound : Nat) (value : Int32) : UInt64 :=
  UInt64.ofNat (max bound value.toInt.toNat)

/-- The parameter that a record describes.  Its name ends at the first zero byte; negative
offsets and sizes count as zero, and array dimensions below one as one. -/
def toProperty (record : PropertyRecord) : Property :=
  { name := Text.ofUtf8Lossy (record.name.takeWhile (· != 0))
    offset := atLeast 0 record.offset
    size := atLeast 0 record.elementSize * atLeast 1 record.arrayDim
    flags := record.flags }

end PropertyRecord

/-! ### A loaded table -/

/-- A table that passed its check. -/
structure Loaded (T : Type) where
  table : T

namespace Loaded

variable {T : Type} [FunctionTable T]

/-- The flag of entries that are no live instances. -/
def templateFlag : UInt32 := 0x01

/-- The flag of entries that are about to be destroyed. -/
def pendingKillFlag : UInt32 := 0x02

/-- The entry in a slot, unless the slot is free or its entry is about to be destroyed. -/
def objectAt (table : T) (index : Nat) : Option Object :=
  match (FunctionTable.objectAt table index).nonNull? with
  | none => none
  | some object =>
    if FunctionTable.objectFlags table object &&& pendingKillFlag != 0 then none
    else some object

/-- A method by its name; a name with a zero byte in it cannot be asked for. -/
def findFunction (table : T) (owner : Object) (name : String) : Option Object :=
  let bytes := Text.utf8 name
  if owner.isNull || bytes.contains 0 then none
  else (FunctionTable.findFunction table owner bytes).nonNull?

/-- The parameters of a function. -/
def properties (table : T) (function : Object) : List (Option Property) :=
  if function.isNull then []
  else (List.range (FunctionTable.propertyCount table function)).map fun index =>
    (FunctionTable.propertyAt table function index).map PropertyRecord.toProperty

instance : ReflectionHost (Loaded T) where
  isReady host := FunctionTable.isReady host.table
  objectCount host := FunctionTable.objectCount host.table
  objectAt host := objectAt host.table
  fullName host := readName host.table
  nameCost host := readNameCost host.table
  classOf host object :=
    if object.isNull then none else (FunctionTable.classOf host.table object).nonNull?
  typeTag host object :=
    if object.isNull then .unknown else TypeTag.ofWord (FunctionTable.typeTag host.table object)
  isTemplate host object :=
    !object.isNull && FunctionTable.objectFlags host.table object &&& templateFlag != 0
  findFunction host := findFunction host.table
  properties host := properties host.table
  dispatch host target function frame :=
    let (table, left) := FunctionTable.processEvent host.table target function frame
    ({ table }, left)
  length_of_dispatch host target function frame after left h := by
    apply FunctionTable.length_of_processEvent host.table target function frame
      (FunctionTable.processEvent host.table target function frame).1 left
    have := congrArg Prod.snd h
    exact Prod.ext rfl this

end Loaded

end ReplicaBridge.Host
