/-
Module: ReplicaBridge.Wire.Kind
Purpose: The kinds of message and their one-byte tags.
Main exports: MessageKind, MessageKind.tag, MessageKind.ofTag?
-/

namespace ReplicaBridge.Wire

/-- What a frame is about. -/
inductive MessageKind where
  /-- The server created an avatar. -/
  | humanSpawn
  /-- The server removed an avatar. -/
  | humanDespawn
  /-- A full avatar state, from the server or to it. -/
  | humanUpdate
  /-- The season changed. -/
  | envSeason
  /-- The world clock advanced. -/
  | envClockAdvance
  /-- A chat line, in either direction. -/
  | chat
deriving Repr, Inhabited, DecidableEq

namespace MessageKind

/-- The tag that opens a frame of this kind; tags are never reassigned. -/
def tag : MessageKind → UInt8
  | .humanSpawn => 0x01
  | .humanDespawn => 0x02
  | .humanUpdate => 0x03
  | .envSeason => 0x10
  | .envClockAdvance => 0x11
  | .chat => 0x20

/-- Every kind, in tag order. -/
def all : List MessageKind :=
  [.humanSpawn, .humanDespawn, .humanUpdate, .envSeason, .envClockAdvance, .chat]

/-- The kind that a tag names. -/
def ofTag? (tag : UInt8) : Option MessageKind :=
  all.find? (·.tag == tag)

/-- The name shown in messages. -/
def name : MessageKind → String
  | .humanSpawn => "HumanSpawn"
  | .humanDespawn => "HumanDespawn"
  | .humanUpdate => "HumanUpdate"
  | .envSeason => "EnvSeason"
  | .envClockAdvance => "EnvClockAdvance"
  | .chat => "Chat"

theorem ofTag?_tag (kind : MessageKind) : ofTag? kind.tag = some kind := by
  cases kind <;> rfl

end MessageKind

end ReplicaBridge.Wire
