/-
Module: ReplicaBridge.Wire.Frame
Purpose: Frames: a tag byte and the payload of the message it names, nothing more.  The walk
  over a frame is the same for every source it can be read from.
Main exports: FrameSource, Walk.frame, Reader, Message.encode, Message.decode
-/
import ReplicaBridge.Wire.Message

namespace ReplicaBridge.Wire

open Bits

/-- What a frame can be read from: a source of numbers and texts that knows where it ends. -/
class FrameSource (m : Type → Type) extends Monad m where
  /-- Read a number of `width` bytes. -/
  uint (width : Nat) : m Nat
  /-- Read a text of at most `limit` bytes. -/
  text (limit : Nat) : m String
  /-- Check that the frame ends here. -/
  finish : m Unit
  /-- Stop with an error. -/
  refuse {α : Type} (error : StreamError) : m α

namespace Walk

open FrameSource

variable {m : Type → Type} [FrameSource m]

def u8 : m UInt8 := UInt8.ofNat <$> uint 1

def u32 : m UInt32 := UInt32.ofNat <$> uint 4

def u64 : m UInt64 := UInt64.ofNat <$> uint 8

def i32 : m Int32 := UInt32.toInt32 <$> u32

def vec3 : m Vec3 := do
  let x ← u32
  let y ← u32
  let z ← u32
  return { x, y, z }

def quat : m Quat := do
  let x ← u32
  let y ← u32
  let z ← u32
  let w ← u32
  return { x, y, z, w }

def avatar : m AvatarState := do
  let id ← u64
  let position ← vec3
  let orientation ← quat
  let velocity ← vec3
  let input ← u32
  return { id, position, orientation, velocity, input }

/-- Read the payload of a message of the given kind. -/
def payload : MessageKind → m Message
  | .humanSpawn => Message.humanSpawn <$> avatar
  | .humanDespawn => Message.humanDespawn <$> u64
  | .humanUpdate => Message.humanUpdate <$> avatar
  | .envSeason => Message.envSeason <$> u8
  | .envClockAdvance => Message.envClockAdvance <$> i32
  | .chat => Message.chat <$> text maxChatBytes

/-- Read the tag byte. -/
def kind : m MessageKind := do
  let tag ← u8
  match MessageKind.ofTag? tag with
  | some kind => return kind
  | none => refuse (.unknownTag tag)

/-- Read a whole frame. -/
def frame : m Message := do
  let kind ← kind
  let message ← payload kind
  finish
  return message

end Walk

/-- Reading from a stream consumes it and stops at the first error. -/
abbrev Reader := StateT BitStream (Except StreamError)

instance : FrameSource Reader where
  uint width := fun stream => stream.takeUInt width
  text limit := fun stream =>
    match stream.takeText limit with
    | (_, .error error) => .error error
    | (after, .ok text) => .ok (text, after)
  finish := fun stream =>
    match stream.finish with
    | .error error => .error error
    | .ok () => .ok ((), stream)
  refuse error := fun _ => .error error

namespace Message

/-- The frame of a message.  Only a chat text over the limit has none. -/
def encode (message : Message) : Except StreamError Bytes :=
  (BitStream.writer.writeAll (.u8 message.kind.tag :: message.payload)).map (·.buffer)

/-- The message of a frame.  Whether its content is valid is not asked here. -/
def decode (frame : Bytes) : Except StreamError Message :=
  ((Walk.frame : Reader Message).run (BitStream.reader frame)).map (·.1)

end Message

end ReplicaBridge.Wire
