/-
Module: ReplicaBridge.Bits.Stream
Purpose: The bit-granular stream that frames are written to and read from.  Bits are
  packed least significant first and numbers are little-endian.  At a byte boundary
  whole bytes move at once; elsewhere a number moves bit by bit, to the same effect.
Main exports: StreamError, BitStream, BitStream.putUInt, BitStream.takeUInt,
  BitStream.takeText, BitStream.finish
-/
import ReplicaBridge.Bytes
import ReplicaBridge.Text.Utf8

namespace ReplicaBridge.Bits

/-- Why a stream step, or the decoding of a frame, failed. -/
inductive StreamError where
  /-- More bits were asked for than are left. -/
  | truncated (needed remaining : Nat)
  /-- The frame's first byte names no message. -/
  | unknownTag (tag : UInt8)
  /-- Bits are left over after the message. -/
  | trailingBits (count : Nat)
  /-- A text is longer, in bytes, than its field allows. -/
  | stringTooLong (length limit : Nat)
  /-- The bytes of a text are not UTF-8. -/
  | invalidUtf8
deriving Repr, Inhabited, DecidableEq

/-- The direction in which a stream moves its fields. -/
inductive Mode where
  | read
  | write
deriving Repr, Inhabited, DecidableEq

/-- A stream of bits over a byte buffer. -/
structure BitStream where
  mode : Mode
  buffer : Bytes
  /-- Bits written so far, or bits consumed so far. -/
  cursor : Nat
deriving Repr, Inhabited, DecidableEq

/-- Bit `index` of a byte string, counted from the low bit of its first byte. -/
def bitAt (bytes : Bytes) (index : Nat) : Bool :=
  (bytes.getD (index / 8) 0).toNat.testBit (index % 8)

/-- The number made of the `count` bits from `position` on, low bit first. -/
def gather (bytes : Bytes) (position : Nat) : (count : Nat) → Nat
  | 0 => 0
  | count + 1 => (bitAt bytes position).toNat + 2 * gather bytes (position + 1) count

namespace BitStream

/-- An empty stream to write to. -/
def writer : BitStream :=
  { mode := .write, buffer := [], cursor := 0 }

/-- A stream that reads the given bytes. -/
def reader (bytes : Bytes) : BitStream :=
  { mode := .read, buffer := bytes, cursor := 0 }

/-- The cursor stands on a byte boundary. -/
def isAligned (stream : BitStream) : Bool :=
  stream.cursor % 8 == 0

/-- Bits of the buffer that lie past the cursor. -/
def remaining (stream : BitStream) : Nat :=
  stream.buffer.length * 8 - stream.cursor

/-- Check that so many bits are left. -/
def need (stream : BitStream) (bits : Nat) : Except StreamError Unit :=
  if stream.remaining < bits then .error (.truncated bits stream.remaining) else .ok ()

/-- Move the cursor forward. -/
def advance (stream : BitStream) (bits : Nat) : BitStream :=
  { stream with cursor := stream.cursor + bits }

/-! ### Writing -/

/-- Append one bit, opening a new byte when the last one is full. -/
def putBit (stream : BitStream) (bit : Bool) : BitStream :=
  let index := stream.cursor / 8
  let buffer := if index = stream.buffer.length then stream.buffer ++ [0] else stream.buffer
  let mask : UInt8 := if bit then UInt8.ofNat (1 <<< (stream.cursor % 8)) else 0
  { stream with buffer := buffer.modify index (· ||| mask), cursor := stream.cursor + 1 }

/-- Append the `count` low bits of a number, low bit first. -/
def putBits (stream : BitStream) : (value count : Nat) → BitStream
  | _, 0 => stream
  | value, count + 1 => putBits (stream.putBit (value % 2 == 1)) (value / 2) count

/-- Append a number of `width` bytes. -/
def putUInt (stream : BitStream) (width value : Nat) : BitStream :=
  if stream.isAligned then
    { stream with
      buffer := stream.buffer ++ Bytes.ofNatLE width value
      cursor := stream.cursor + width * 8 }
  else stream.putBits value (width * 8)

/-- Append bytes one after another. -/
def putBytes (stream : BitStream) (bytes : Bytes) : BitStream :=
  bytes.foldl (fun stream byte => stream.putUInt 1 byte.toNat) stream

/-- The longest text a field with the given limit holds: its length is 16 bits wide. -/
def textLimit (limit : Nat) : Nat :=
  min limit 65535

/-- Append a text: its length in bytes as 16 bits, then its UTF-8 bytes. -/
def putText (stream : BitStream) (text : String) (limit : Nat) : Except StreamError BitStream :=
  let bytes := Text.utf8 text
  if textLimit limit < bytes.length then .error (.stringTooLong bytes.length (textLimit limit))
  else .ok ((stream.putUInt 2 bytes.length).putBytes bytes)

/-! ### Reading -/

/-- The number in the next `width` bytes, without moving the cursor. -/
def peekUInt (stream : BitStream) (width : Nat) : Nat :=
  if stream.isAligned then Bytes.toNatLE (Bytes.slice stream.buffer (stream.cursor / 8) width)
  else gather stream.buffer stream.cursor (width * 8)

/-- Read a number of `count` bits. -/
def takeBits (stream : BitStream) (count : Nat) : Except StreamError (Nat × BitStream) :=
  match stream.need count with
  | .error error => .error error
  | .ok () => .ok (gather stream.buffer stream.cursor count, stream.advance count)

/-- Read one bit. -/
def takeBit (stream : BitStream) : Except StreamError (Bool × BitStream) :=
  match stream.need 1 with
  | .error error => .error error
  | .ok () => .ok (bitAt stream.buffer stream.cursor, stream.advance 1)

/-- Read a number of `width` bytes. -/
def takeUInt (stream : BitStream) (width : Nat) : Except StreamError (Nat × BitStream) :=
  match stream.need (width * 8) with
  | .error error => .error error
  | .ok () => .ok (stream.peekUInt width, stream.advance (width * 8))

/-- Read `count` bytes that are known to be there. -/
def takeBytes (stream : BitStream) : (count : Nat) → Bytes × BitStream
  | 0 => ([], stream)
  | count + 1 =>
    let (rest, after) := (stream.advance 8).takeBytes count
    (UInt8.ofNat (stream.peekUInt 1) :: rest, after)

/-- Read a text.  The cursor stays behind whatever was consumed before a failure: the
length when it is over the limit or the bytes are missing, the bytes when they are not
UTF-8. -/
def takeText (stream : BitStream) (limit : Nat) : BitStream × Except StreamError String :=
  match stream.takeUInt 2 with
  | .error error => (stream, .error error)
  | .ok (length, stream) =>
    if textLimit limit < length then (stream, .error (.stringTooLong length (textLimit limit)))
    else match stream.need (length * 8) with
      | .error error => (stream, .error error)
      | .ok () =>
        let (bytes, stream) := stream.takeBytes length
        match Text.ofUtf8? bytes with
        | some text => (stream, .ok text)
        | none => (stream, .error .invalidUtf8)

/-- Succeeds when nothing but the zero padding of the last byte is left. -/
def finish (stream : BitStream) : Except StreamError Unit :=
  let left := stream.remaining
  if 8 ≤ left then .error (.trailingBits left)
  else if gather stream.buffer stream.cursor left = 0 then .ok ()
  else .error (.trailingBits left)

end BitStream

end ReplicaBridge.Bits
