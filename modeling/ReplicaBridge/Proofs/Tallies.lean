/-
Module: ReplicaBridge.Proofs.Tallies
Purpose: The two counters of what comes in from the server, received and invalid frames.  No
  work, no listener and no operation but a frame from the server moves them; so in every run
  the received frames are the invalid ones and those that were taken over.
Main exports: World.tally, World.sheltered_tally, Session.tally_operate, Session.tally_operateAll
-/
import ReplicaBridge.Proofs.Sheltered

namespace ReplicaBridge

open Host (ReflectionHost)

/-! ### The counters of a world -/

namespace World

variable {H : Type}

/-- The frames that came in, and those of them that were refused. -/
def tally (world : World H) : Nat × Nat :=
  (world.channel.received, world.channel.invalid)

theorem sheltered_tally : Sheltered (tally : World H → Nat × Nat) where
  bridge _ _ := rfl
  replica _ _ := rfl
  channel _ _ _ _ _ _ _ := rfl
  listeners _ _ := rfl
  events _ _ := rfl

theorem tally_close (world : World H) : world.close.tally = world.tally :=
  sheltered_tally.observe_noteIf _ _ _

/-- A refused frame is counted once, whether or not it ends the connection. -/
theorem tally_reject (world : World H) (now : Nat) (error : ChannelError) :
    (world.reject now error).tally = (world.tally.1, world.tally.2 + 1) := by
  unfold reject
  dsimp only
  split
  · exact tally_close _
  · rfl

end World

/-! ### The counters of a session -/

namespace Session

variable {H : Type} [ReflectionHost H]

/-- A frame from the server is counted unless the channel is closed, and once more if it is
refused. -/
theorem tally_receive (session : Session H) (now : Nat) (frame : Bytes) :
    (session.receive now frame).1.world.tally =
      if session.world.channel.closed then session.world.tally
      else match accept session.world.settings.replication frame with
        | .error _ => (session.world.tally.1 + 1, session.world.tally.2 + 1)
        | .ok _ => (session.world.tally.1 + 1, session.world.tally.2) := by
  unfold receive
  split
  · rfl
  · extract_lets counted
    cases accept session.world.settings.replication frame with
    | error error => exact World.tally_reject _ now error
    | ok message => exact World.sheltered_tally.observe_queue counted _ _

theorem takes_receive (session : Session H) (now : Nat) (frame : Bytes) :
    session.takes (.receive now frame) = (!session.world.channel.closed &&
      (accept session.world.settings.replication frame).isOk) := by
  simp only [takes, receive]
  cases session.world.channel.closed with
  | true => rfl
  | false => cases accept session.world.settings.replication frame <;> rfl

/-- Of the frames that come in by an operation as many are taken over as are not refused. -/
theorem tally_operate (session : Session H) (operation : Operation H) :
    (session.operate operation).world.tally.1 + session.world.tally.2 =
      session.world.tally.1 + (session.operate operation).world.tally.2 +
        (session.takes operation).toNat := by
  have of_same (same : (session.operate operation).world.tally = session.world.tally)
      (other : session.takes operation = false) :
      (session.operate operation).world.tally.1 + session.world.tally.2 =
        session.world.tally.1 + (session.operate operation).world.tally.2 +
          (session.takes operation).toNat := by
    rw [same, other]
    rfl
  cases operation with
  | receive now frame =>
      rw [takes_receive, operate, tally_receive]
      cases session.world.channel.closed with
      | true => rfl
      | false =>
          cases accept session.world.settings.replication frame with
          | error error => exact Nat.add_right_comm _ _ _
          | ok message => exact Nat.add_right_comm _ _ _
  | close => exact of_same (World.tally_close session.world) rfl
  | shutDown caller =>
      exact of_same ((World.sheltered_tally.observe_shutDown session caller).trans
        (World.tally_close session.world)) rfl
  | _ => exact of_same (World.sheltered_tally.observe_operate session rfl) rfl

/-- What one operation keeps in balance stays so along a run. -/
theorem tally_operateAll (session : Session H) (operations : List (Operation H)) :
    (session.operateAll operations).world.tally.1 + session.world.tally.2 =
      session.world.tally.1 + (session.operateAll operations).world.tally.2 +
        session.taken operations := by
  induction operations generalizing session with
  | nil => rfl
  | cons operation rest ih =>
      have first := tally_operate session operation
      have later := ih (session.operate operation)
      have run : session.operateAll (operation :: rest) =
          (session.operate operation).operateAll rest := rfl
      rw [run, taken]
      omega

end Session

end ReplicaBridge
