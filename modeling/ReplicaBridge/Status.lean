/-
Module: ReplicaBridge.Status
Purpose: The status flags that tell the outer layers to disconnect or to tear the session
  down.  A fatal condition never unwinds through the host; it sets flags here.
Main exports: Status, Status.raiseUnsupported, Status.requestDisconnect, Status.clear,
  Status.banner?, Status.contains_flags
-/

namespace ReplicaBridge

/-- The conditions that the outer layers act on. -/
structure Status where
  /-- The host is not the build this bridge was made for; never reset. -/
  hostUnsupported : Bool := false
  /-- The server connection should be dropped. -/
  disconnectRequested : Bool := false
  /-- The session should be torn down at the end of the frame. -/
  shutdownRequested : Bool := false
  /-- The banner was already reported. -/
  bannerShown : Bool := false
deriving Repr, Inhabited, DecidableEq

namespace Status

/-- The text of the banner shown when the host is not supported. -/
def bannerText : String := "host version unsupported"

/-- The flags as a word: bit 0 unsupported host, bit 1 disconnect, bit 2 shutdown. -/
def word (status : Status) : UInt32 :=
  (if status.hostUnsupported then 1 else 0) ||| (if status.disconnectRequested then 2 else 0)
    ||| (if status.shutdownRequested then 4 else 0)

/-- Every one of the given flags is set. -/
def contains (status : Status) (flags : UInt32) : Bool :=
  status.word &&& flags == flags

/-- Each bit of the word stands for its own flag. -/
theorem contains_flags (status : Status) :
    status.contains 1 = status.hostUnsupported ∧
      status.contains 2 = status.disconnectRequested ∧
      status.contains 4 = status.shutdownRequested := by
  obtain ⟨unsupported, disconnect, shutdown, banner⟩ := status
  cases unsupported <;> cases disconnect <;> cases shutdown <;> cases banner <;> decide

/-- The host turned out to be unsupported: stop calling it, disconnect and shut down. -/
def raiseUnsupported (_status : Status) : Status :=
  { hostUnsupported := true, disconnectRequested := true, shutdownRequested := true,
    bannerShown := true }

/-- Ask for the connection to be dropped. -/
def requestDisconnect (status : Status) : Status :=
  { status with disconnectRequested := true }

/-- The banner to show, if any. -/
def banner? (status : Status) : Option String :=
  if status.hostUnsupported then some bannerText else none

/-- Reset what belongs to one session.  An unsupported host stays unsupported. -/
def clear (status : Status) : Status :=
  { status with disconnectRequested := false, shutdownRequested := false }

end Status

end ReplicaBridge
