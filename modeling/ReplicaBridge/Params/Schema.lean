/-
Module: ReplicaBridge.Params.Schema
Purpose: Typed parameter structs: a struct names a host function, the block size it was
  written for and a property per field, and its values move into a parameter block and
  back out of it.
Main exports: ParamField, ParamSchema, ParamSchema.encode, ParamSchema.decodeOutputs
-/
import ReplicaBridge.Params.Block

namespace ReplicaBridge.Params

/-- A field of a parameter struct. -/
structure ParamField where
  ident : String
  /-- The type as the struct spells it. -/
  typeName : String
  /-- The host's name for the parameter. -/
  property : String
  /-- The callee writes the field: it is read back after the call. -/
  out : Bool
deriving Repr, Inhabited, DecidableEq

/-- A parameter struct bound to a host function. -/
structure ParamSchema where
  ident : String
  /-- The host method to call. -/
  function : String
  /-- The size of the parameter block that the struct was written for. -/
  size : Nat
  fields : List ParamField
deriving Repr, Inhabited, DecidableEq

namespace ParamSchema

/-- The host property of each field. -/
def properties (schema : ParamSchema) : List String :=
  schema.fields.map (·.property)

/-- The struct with values for its fields, as a line of text. -/
def describe (schema : ParamSchema) (values : List Scalar) : String :=
  let shown := (schema.fields.zip values).map fun (field, value) =>
    field.ident ++ ": " ++ toString value.number
  schema.ident ++ " \x7b " ++ ", ".intercalate shown ++ " \x7d"

/-- The values fit the struct: one for each field, of the type the field spells. -/
def Fits (schema : ParamSchema) (values : List Scalar) : Prop :=
  values.map (·.type.name) = schema.fields.map (·.typeName)

instance (schema : ParamSchema) (values : List Scalar) : Decidable (schema.Fits values) :=
  inferInstanceAs (Decidable (_ = _))

/-- Write the fields into a block one after another. -/
def writeFields (descriptor : FunctionDescriptor) (block : ParameterBlock) :
    List (ParamField × Scalar) → Except InvokeError ParameterBlock
  | [] => .ok block
  | (field, value) :: rest =>
    match descriptor.slot field.property with
    | .error error => .error error
    | .ok slot =>
      match block.writeSlot slot value with
      | .error error => .error error
      | .ok block => writeFields descriptor block rest

/-- Lay the values out in a fresh block. -/
def encode (schema : ParamSchema) (values : List Scalar) (descriptor : FunctionDescriptor) :
    Except InvokeError ParameterBlock :=
  match descriptor.expectSize schema.size with
  | .error error => .error error
  | .ok () =>
    writeFields descriptor (ParameterBlock.forFunction descriptor) (schema.fields.zip values)

/-- Read the output fields back; the other fields keep their values. -/
def readFields (descriptor : FunctionDescriptor) (block : ParameterBlock) :
    List (ParamField × Scalar) → Except InvokeError (List Scalar)
  | [] => .ok []
  | (field, value) :: rest =>
    if field.out then
      match descriptor.slot field.property with
      | .error error => .error error
      | .ok slot =>
        match block.readSlot slot value.type with
        | .error error => .error error
        | .ok found =>
          match readFields descriptor block rest with
          | .error error => .error error
          | .ok values => .ok (found :: values)
    else
      match readFields descriptor block rest with
      | .error error => .error error
      | .ok values => .ok (value :: values)

/-- The values after a call left the given block. -/
def decodeOutputs (schema : ParamSchema) (values : List Scalar)
    (descriptor : FunctionDescriptor) (block : ParameterBlock) :
    Except InvokeError (List Scalar) :=
  readFields descriptor block (schema.fields.zip values)

end ParamSchema

end ReplicaBridge.Params
