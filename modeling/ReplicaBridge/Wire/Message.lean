/-
Module: ReplicaBridge.Wire.Message
Purpose: The messages that frames carry: their content, when they are valid, and the
  fields of their payloads in wire order.
Main exports: Message, Message.kind, Message.isValid, Message.payload, maxChatBytes
-/
import ReplicaBridge.Avatar
import ReplicaBridge.Season
import ReplicaBridge.Bits.Field
import ReplicaBridge.Wire.Kind

namespace ReplicaBridge.Wire

open Bits

/-- The longest chat text the format allows, in bytes. -/
def maxChatBytes : Nat := 512

/-- A message.  The season keeps its raw byte, so that a bad value can be counted. -/
inductive Message where
  | humanSpawn (state : AvatarState)
  | humanDespawn (id : EntityId)
  | humanUpdate (state : AvatarState)
  | envSeason (season : UInt8)
  | envClockAdvance (hours : Int32)
  | chat (text : String)
deriving Repr, Inhabited, DecidableEq

namespace Message

def kind : Message → MessageKind
  | .humanSpawn _ => .humanSpawn
  | .humanDespawn _ => .humanDespawn
  | .humanUpdate _ => .humanUpdate
  | .envSeason _ => .envSeason
  | .envClockAdvance _ => .envClockAdvance
  | .chat _ => .chat

/-- The check made after decoding: avatar states are valid, seasons are targets, chat is
neither empty nor too long. -/
def isValid : Message → Bool
  | .humanSpawn state | .humanUpdate state => state.isValid
  | .humanDespawn _ | .envClockAdvance _ => true
  | .envSeason season => (Season.targetOfByte? season).isSome
  | .chat text => !text.isEmpty && text.utf8ByteSize ≤ maxChatBytes

/-- The season message that announces a season. -/
def ofSeason (season : Season) : Message :=
  .envSeason season.toByte

/-- The fields of an avatar in wire order. -/
def avatarFields (state : AvatarState) : List Field :=
  [ .u64 state.id
  , .f32 state.position.x, .f32 state.position.y, .f32 state.position.z
  , .f32 state.orientation.x, .f32 state.orientation.y, .f32 state.orientation.z
  , .f32 state.orientation.w
  , .f32 state.velocity.x, .f32 state.velocity.y, .f32 state.velocity.z
  , .u32 state.input ]

/-- The payload fields of a message in wire order. -/
def payload : Message → List Field
  | .humanSpawn state | .humanUpdate state => avatarFields state
  | .humanDespawn id => [.u64 id]
  | .envSeason season => [.u8 season]
  | .envClockAdvance hours => [.i32 hours]
  | .chat text => [.text text maxChatBytes]

end Message

end ReplicaBridge.Wire
