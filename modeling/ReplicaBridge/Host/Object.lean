/-
Module: ReplicaBridge.Host.Object
Purpose: What the host's reflection store is made of, seen from outside: entries by
  address, the kind of an entry, and the parameters of a function.
Main exports: Object, TypeTag, Property
-/
import ReplicaBridge.Text.Number

namespace ReplicaBridge.Host

/-- A non-owning reference to an entry of the reflection store, by its address.  Two
references are equal exactly when they mean the same entry. -/
structure Object where
  address : UInt64
deriving Repr, Inhabited, DecidableEq

namespace Object

/-- The reference that means no entry. -/
def null : Object := { address := 0 }

def isNull (object : Object) : Bool :=
  object.address == 0

/-- The reference itself, unless it means no entry. -/
def nonNull? (object : Object) : Option Object :=
  if object.isNull then none else some object

/-- The address as shown in messages. -/
def text (object : Object) : String :=
  Text.address object.address.toNat

/-- The text of a handle kept by the registry: it says when it refers to nothing. -/
def handleText (object : Object) : String :=
  if object.isNull then "ObjectHandle(null)" else "ObjectHandle(" ++ object.text ++ ")"

/-- The text of a bare store entry. -/
def entryText (object : Object) : String :=
  "RawObject(" ++ object.text ++ ")"

end Object

/-- What kind of entry the host says an object is. -/
inductive TypeTag where
  | object
  | classType
  | function
  | unknown
deriving Repr, Inhabited, DecidableEq

namespace TypeTag

/-- The kind behind the host's number for it. -/
def ofWord (word : UInt32) : TypeTag :=
  match word.toNat with
  | 0 => .object
  | 1 => .classType
  | 2 => .function
  | _ => .unknown

/-- The name shown in messages. -/
def name : TypeTag → String
  | .object => "Object"
  | .classType => "Class"
  | .function => "Function"
  | .unknown => "Unknown"

end TypeTag

/-- One parameter of a host function: its place in the parameter block and its flags. -/
structure Property where
  name : String
  offset : UInt64
  size : UInt64
  flags : UInt64
deriving Repr, Inhabited, DecidableEq

end ReplicaBridge.Host
