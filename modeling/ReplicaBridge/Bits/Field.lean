/-
Module: ReplicaBridge.Bits.Field
Purpose: The typed fields a stream carries, and the one step that writes a field or
  reads it, as the stream's mode says.
Main exports: Field, Field.ofWord?, Field.number, BitStream.write, BitStream.read, BitStream.serialize
-/
import ReplicaBridge.Bits.Stream

namespace ReplicaBridge.Bits

/-- One field of a message together with its content. -/
inductive Field where
  | bool (value : Bool)
  /-- The low `count` bits of a word, at most 32 of them. -/
  | bits (value : UInt32) (count : Nat)
  | u8 (value : UInt8)
  | u16 (value : UInt16)
  | u32 (value : UInt32)
  | u64 (value : UInt64)
  | i32 (value : Int32)
  /-- A single-precision number by its bit pattern. -/
  | f32 (value : UInt32)
  /-- A text of at most `limit` UTF-8 bytes. -/
  | text (value : String) (limit : Nat)
deriving Repr, Inhabited, DecidableEq

/-- The field of a named type whose content is a word; bits of no more than `count`. -/
def Field.ofWord? (type : String) (word : UInt64) (count : Nat) : Option Field :=
  match type with
  | "bool" => some (.bool (word != 0))
  | "bits" => some (.bits word.toUInt32 count)
  | "u8" => some (.u8 word.toUInt8)
  | "u16" => some (.u16 word.toUInt16)
  | "u32" => some (.u32 word.toUInt32)
  | "u64" => some (.u64 word)
  | "i32" => some (.i32 word.toUInt32.toInt32)
  | "f32" => some (.f32 word.toUInt32)
  | _ => none

/-- The number that the content stands for: a truth value counts as 0 or 1, and a text as
its length in bytes. -/
def Field.number : Field → Int
  | .bool value => value.toNat
  | .bits value _ | .u32 value | .f32 value => value.toNat
  | .u8 value => value.toNat
  | .u16 value => value.toNat
  | .u64 value => value.toNat
  | .i32 value => value.toInt
  | .text value _ => value.utf8ByteSize

namespace BitStream

/-- A bit field holds at most one word. -/
def wordBits (count : Nat) : Nat :=
  min count 32

/-- Append a field. -/
def write (stream : BitStream) : Field → Except StreamError BitStream
  | .bool value => .ok (stream.putBit value)
  | .bits value count => .ok (stream.putBits value.toNat (wordBits count))
  | .u8 value => .ok (stream.putUInt 1 value.toNat)
  | .u16 value => .ok (stream.putUInt 2 value.toNat)
  | .u32 value => .ok (stream.putUInt 4 value.toNat)
  | .u64 value => .ok (stream.putUInt 8 value.toNat)
  | .i32 value => .ok (stream.putUInt 4 value.toUInt32.toNat)
  | .f32 value => .ok (stream.putUInt 4 value.toNat)
  | .text value limit => stream.putText value limit

/-- Give a number that was read its place in the answer of a step that keeps the old
stream when it fails. -/
def settle (stream : BitStream) (make : Nat → Field) :
    Except StreamError (Nat × BitStream) → BitStream × Except StreamError Field
  | .error error => (stream, .error error)
  | .ok (value, after) => (after, .ok (make value))

/-- Read a field of the same type as the given one, whose content is replaced. -/
def read (stream : BitStream) : Field → BitStream × Except StreamError Field
  | .bool _ =>
    match stream.takeBit with
    | .error error => (stream, .error error)
    | .ok (bit, after) => (after, .ok (.bool bit))
  | .bits _ count =>
    settle stream (fun value => .bits (UInt32.ofNat value) count)
      (stream.takeBits (wordBits count))
  | .u8 _ => settle stream (fun value => .u8 (UInt8.ofNat value)) (stream.takeUInt 1)
  | .u16 _ => settle stream (fun value => .u16 (UInt16.ofNat value)) (stream.takeUInt 2)
  | .u32 _ => settle stream (fun value => .u32 (UInt32.ofNat value)) (stream.takeUInt 4)
  | .u64 _ => settle stream (fun value => .u64 (UInt64.ofNat value)) (stream.takeUInt 8)
  | .i32 _ => settle stream (fun value => .i32 (UInt32.ofNat value).toInt32) (stream.takeUInt 4)
  | .f32 _ => settle stream (fun value => .f32 (UInt32.ofNat value)) (stream.takeUInt 4)
  | .text _ limit =>
    match stream.takeText limit with
    | (after, .error error) => (after, .error error)
    | (after, .ok value) => (after, .ok (.text value limit))

/-- One symmetric step: write the field, or replace its content by what is read.  A
failing step reports the error and the stream it leaves. -/
def serialize (stream : BitStream) (field : Field) : BitStream × Except StreamError Field :=
  match stream.mode with
  | .write =>
    match stream.write field with
    | .error error => (stream, .error error)
    | .ok after => (after, .ok field)
  | .read => stream.read field

/-- Write fields one after another. -/
def writeAll (stream : BitStream) (fields : List Field) : Except StreamError BitStream :=
  fields.foldlM write stream

end BitStream

end ReplicaBridge.Bits
