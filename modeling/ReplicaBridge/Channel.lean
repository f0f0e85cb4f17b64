/-
Module: ReplicaBridge.Channel
Purpose: The state of the replication channel: early updates and their clock, the rejects
  inside the burst window, the frames that wait to be sent, and the counters.
Main exports: Channel, Channel.countReject, Channel.burst, Channel.enqueue, Channel.poll,
  Channel.advanceTick
-/
import ReplicaBridge.EarlyUpdates
import ReplicaBridge.Settings.Basic
import ReplicaBridge.Wire.Frame

namespace ReplicaBridge

/-- The channel between the network and the replica. -/
structure Channel where
  early : EarlyUpdates := .empty
  /-- Frames seen so far; early updates age by it. -/
  tick : Nat := 0
  /-- Arrival times of the rejects inside the window, oldest first. -/
  recentRejects : List Nat := []
  outgoing : List Bytes := []
  closed : Bool := false
  received : Nat := 0
  invalid : Nat := 0
  buffered : Nat := 0
  expired : Nat := 0
  sent : Nat := 0
deriving Inhabited

namespace Channel

/-- The nanoseconds of a millisecond: arrival times count nanoseconds. -/
def nanosPerMilli : Nat := 1000000

/-- Count a reject at a time, and keep in the window what is not older than it. -/
def countReject (channel : Channel) (windowMs now : Nat) : Channel :=
  { channel with
    invalid := channel.invalid + 1
    recentRejects := (channel.recentRejects ++ [now]).dropWhile fun at_ =>
      decide (windowMs * nanosPerMilli < now - at_) }

/-- The rejects inside the window. -/
def burst (channel : Channel) : Nat :=
  channel.recentRejects.length

/-- The longest chat text that may pass, in bytes. -/
def chatLimit (settings : ReplicationSettings) : Nat :=
  min settings.maxChatLength Wire.maxChatBytes

/-- Queue a frame to be sent. -/
def enqueue (channel : Channel) (frame : Bytes) : Channel :=
  { channel with outgoing := channel.outgoing ++ [frame], sent := channel.sent + 1 }

/-- Take the next frame to be sent. -/
def poll (channel : Channel) : Channel × Option Bytes :=
  match channel.outgoing with
  | [] => (channel, none)
  | frame :: rest => ({ channel with outgoing := rest }, some frame)

/-- Hold an update for an avatar that was not spawned yet. -/
def holdEarly (channel : Channel) (id : EntityId) (state : AvatarState) : Channel :=
  { channel with
    early := (channel.early.buffer id state channel.tick).1
    buffered := channel.buffered + 1 }

/-- One frame has passed: drop the early updates that waited too long; says how many. -/
def advanceTick (channel : Channel) (maxAge : Nat) : Channel × Nat :=
  let tick := channel.tick + 1
  let (early, expired) := channel.early.expire tick maxAge
  ({ channel with tick, early, expired := channel.expired + expired }, expired)

/-- Forget early updates and frames to be sent. -/
def clear (channel : Channel) : Channel :=
  { channel with early := .empty, outgoing := [] }

end Channel

end ReplicaBridge
