/-
Module: ReplicaBridge.Params.Scalar
Purpose: The scalar values a parameter block holds, and their little-endian bytes.
Main exports: ScalarType, Scalar, Scalar.toBytes, ScalarType.ofBytes
-/
import ReplicaBridge.Bytes

namespace ReplicaBridge.Params

/-- The scalar types of parameters. -/
inductive ScalarType where
  | u8
  | i8
  | u16
  | i16
  | u32
  | i32
  | u64
  | i64
  | f32
  | f64
  | bool
deriving Repr, Inhabited, DecidableEq

/-- A scalar value; floating-point numbers are kept as their bit patterns. -/
inductive Scalar where
  | u8 (value : UInt8)
  | i8 (value : Int8)
  | u16 (value : UInt16)
  | i16 (value : Int16)
  | u32 (value : UInt32)
  | i32 (value : Int32)
  | u64 (value : UInt64)
  | i64 (value : Int64)
  | f32 (bits : UInt32)
  | f64 (bits : UInt64)
  | bool (value : Bool)
deriving Repr, Inhabited, DecidableEq

namespace ScalarType

/-- How many bytes a value of the type takes. -/
def width : ScalarType → Nat
  | .u8 | .i8 | .bool => 1
  | .u16 | .i16 => 2
  | .u32 | .i32 | .f32 => 4
  | .u64 | .i64 | .f64 => 8

/-- The name of the type in a parameter struct. -/
def name : ScalarType → String
  | .u8 => "u8"
  | .i8 => "i8"
  | .u16 => "u16"
  | .i16 => "i16"
  | .u32 => "u32"
  | .i32 => "i32"
  | .u64 => "u64"
  | .i64 => "i64"
  | .f32 => "f32"
  | .f64 => "f64"
  | .bool => "bool"

/-- Every scalar type. -/
def all : List ScalarType :=
  [.u8, .i8, .u16, .i16, .u32, .i32, .u64, .i64, .f32, .f64, .bool]

/-- The type of a given name. -/
def ofName? (name : String) : Option ScalarType :=
  all.find? (·.name == name)

/-- The value of a type with the given bit pattern; any nonzero byte is true. -/
def ofBits (type : ScalarType) (bits : Nat) : Scalar :=
  match type with
  | .u8 => .u8 (UInt8.ofNat bits)
  | .i8 => .i8 (UInt8.ofNat bits).toInt8
  | .u16 => .u16 (UInt16.ofNat bits)
  | .i16 => .i16 (UInt16.ofNat bits).toInt16
  | .u32 => .u32 (UInt32.ofNat bits)
  | .i32 => .i32 (UInt32.ofNat bits).toInt32
  | .u64 => .u64 (UInt64.ofNat bits)
  | .i64 => .i64 (UInt64.ofNat bits).toInt64
  | .f32 => .f32 (UInt32.ofNat bits)
  | .f64 => .f64 (UInt64.ofNat bits)
  | .bool => .bool (bits != 0)

/-- The value of a type that its bytes spell. -/
def ofBytes (type : ScalarType) (bytes : Bytes) : Scalar :=
  type.ofBits (Bytes.toNatLE bytes)

end ScalarType

namespace Scalar

def type : Scalar → ScalarType
  | .u8 _ => .u8
  | .i8 _ => .i8
  | .u16 _ => .u16
  | .i16 _ => .i16
  | .u32 _ => .u32
  | .i32 _ => .i32
  | .u64 _ => .u64
  | .i64 _ => .i64
  | .f32 _ => .f32
  | .f64 _ => .f64
  | .bool _ => .bool

/-- The bit pattern of a value. -/
def bits : Scalar → Nat
  | .u8 value => value.toNat
  | .i8 value => value.toUInt8.toNat
  | .u16 value => value.toNat
  | .i16 value => value.toUInt16.toNat
  | .u32 value => value.toNat
  | .i32 value => value.toUInt32.toNat
  | .u64 value => value.toNat
  | .i64 value => value.toUInt64.toNat
  | .f32 bits => bits.toNat
  | .f64 bits => bits.toNat
  | .bool value => value.toNat

/-- The bytes of a value in a parameter block. -/
def toBytes (value : Scalar) : Bytes :=
  Bytes.ofNatLE value.type.width value.bits

/-- The number a value stands for; floating-point numbers show their bit patterns. -/
def number : Scalar → Int
  | .i8 value => value.toInt
  | .i16 value => value.toInt
  | .i32 value => value.toInt
  | .i64 value => value.toInt
  | value => value.bits

theorem type_ofBits (type : ScalarType) (bits : Nat) : (type.ofBits bits).type = type := by
  cases type <;> rfl

end Scalar

end ReplicaBridge.Params
