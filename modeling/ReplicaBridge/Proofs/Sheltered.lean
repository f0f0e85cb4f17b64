/-
Module: ReplicaBridge.Proofs.Sheltered
Purpose: What of a world only a frame from the server, the closing of the channel and the end
  of the session change.  An observation that reads neither the replica nor the way into the
  host, neither the listeners nor what they made of their signals, and of the channel neither
  what waits in it nor its clock, is the same after every other operation, whatever the tasks
  in the queue do.
Main exports: World.Sheltered, World.Sheltered.steady, Operation.governs,
  World.Sheltered.observe_operate, World.Sheltered.observe_shutDown
-/
import ReplicaBridge.Proofs.EntityTrack
import ReplicaBridge.Proofs.Hearing
import ReplicaBridge.Proofs.SessionOperations
import ReplicaBridge.Proofs.SteadyLoop

namespace ReplicaBridge

open Host (ReflectionHost)
open Schedule (GameLoop QueueEvent TaskKind)
open Wire (Message)

namespace World

variable {H β : Type}

/-- What is observed of a world reads no more of it than its settings and how the channel stands
with the server. -/
structure Sheltered (observe : World H → β) : Prop extends Aside observe where
  channel : ∀ world early tick outgoing buffered expired sent,
    observe { world with channel :=
      { world.channel with early, tick, outgoing, buffered, expired, sent } } = observe world
  listeners : ∀ world listeners, observe { world with listeners } = observe world
  events : ∀ world events, observe { world with events } = observe world

namespace Sheltered

variable {observe : World H → β} (sheltered : Sheltered observe)

include sheltered

theorem observe_hear (event : QueueEvent) (world : World H) :
    observe (world.hear event) = observe world := by
  cases event with
  | nestedDrain executed => exact sheltered.events world _
  | _ => exact sheltered.observe_note world _

theorem observe_tick (world : World H) : observe world.tick = observe world :=
  (sheltered.observe_noteIf _ _ _).trans (sheltered.channel world _ _ _ _ _ _)

theorem observe_enqueue (world : World H) (message : Message) :
    observe (world.enqueue message).1 = observe world := by
  unfold enqueue
  split
  · rfl
  · exact sheltered.channel world _ _ _ _ _ _

theorem observe_sendChat (world : World H) (text : String) :
    observe (world.sendChat text).1 = observe world := by
  unfold sendChat
  split
  · rfl
  · exact sheltered.observe_enqueue world _

theorem observe_react (signal : Signal) (reaction : Reaction) (world : World H) :
    observe (react signal reaction world) = observe world := by
  cases reaction with
  | record label => exact sheltered.events world _
  | forward =>
      cases signal with
      | chat text => exact sheltered.events world _
      | _ => rfl
  | reply opening =>
      cases signal with
      | chat text =>
          have sent := sheltered.observe_sendChat world (opening ++ text)
          simp only [react]
          split <;> (rename_i answered; rw [answered] at sent)
          · exact (sheltered.events _ _).trans sent
          · exact (sheltered.events _ _).trans sent
      | _ => rfl

theorem observe_fire (world : World H) (signal : Signal) :
    observe (world.fire signal).1 = observe world := by
  have announced : observe ((announcement? signal).elim world world.note) = observe world := by
    cases announcement? signal with
    | none => rfl
    | some notice => exact sheltered.observe_note world notice
  refine (sheltered.listeners _ _).trans (Eq.trans ?_ announced)
  exact observe_fireEach observe signal (sheltered.observe_react signal) _ _ _

theorem observe_receiveUpdate (world : World H) (state : AvatarState) :
    observe (world.receiveUpdate state) = observe world := by
  have updated := sheltered.observe_applyUpdate world state.id state
  unfold receiveUpdate
  split <;> (rename_i answered; rw [answered] at updated)
  · exact (sheltered.channel _ _ _ _ _ _ _).trans updated
  · exact updated
  · exact (sheltered.observe_note _ _).trans updated

theorem observe_receiveDespawn (world : World H) (id : EntityId) :
    observe (world.receiveDespawn id).1 = observe world := by
  have dropped := (sheltered.observe_noteIf
    { world with channel := { world.channel with early := (world.channel.early.discard id).1 } }
    (world.channel.early.discard id).2 (.bufferedUpdateDropped id)).trans
      (sheltered.channel world _ _ _ _ _ _)
  have removed := (sheltered.observe_despawn _ id).trans dropped
  unfold receiveDespawn
  dsimp only
  split <;> (rename_i answered; rw [answered] at removed)
  · exact (sheltered.observe_fire _ _).trans removed
  · exact removed

theorem observe_receiveSpawn (world : World H) (state : AvatarState) :
    observe (world.receiveSpawn state).1 = observe world := by
  have spawned := sheltered.observe_spawn world state.id state
  unfold receiveSpawn
  split <;> (rename_i answered; rw [answered] at spawned)
  · exact (sheltered.observe_note _ _).trans spawned
  · rename_i after
    let taken : World H := { after with
      channel := { after.channel with early := (after.channel.early.take state.id).1 } }
    have quiet : observe taken = observe world :=
      (sheltered.channel after _ _ _ _ _ _).trans spawned
    dsimp only
    split
    · exact (sheltered.observe_fire _ _).trans quiet
    · rename_i update waits
      have updated := (sheltered.observe_applyUpdate taken state.id update).trans quiet
      split <;> (rename_i settled; rw [settled] at updated)
      · exact (sheltered.observe_fire _ _).trans updated
      · exact (sheltered.observe_fire _ _).trans
          ((sheltered.observe_note _ _).trans updated)

variable [ReflectionHost H]

theorem observe_perform (work : Work) (world : World H) :
    observe (perform work world).1 = observe world := by
  cases work with
  | receiveSpawn state => exact sheltered.observe_receiveSpawn world state
  | receiveDespawn id => exact sheltered.observe_receiveDespawn world id
  | receiveUpdate state => exact sheltered.observe_receiveUpdate world state
  | receiveSeason value => exact sheltered.observe_receiveSeason world value
  | receiveChat text => exact sheltered.observe_fire world _
  | applySeason season => exact sheltered.observe_applySeason world season
  | advanceHours hours => exact sheltered.observe_advanceHours world hours
  | spawn id state => exact sheltered.observe_spawn world id state
  | applyUpdate id state => exact sheltered.observe_applyUpdate world id state
  | despawn id => exact sheltered.observe_despawn world id
  | writeRow id state => exact sheltered.replica world _
  | note label => exact sheltered.events world _

/-- No work and nothing about the queue changes what is observed. -/
theorem steady : GameLoop.Steady observe where
  perform work world := sheltered.observe_perform work world
  hear event world := sheltered.observe_hear event world
  onThread _ world := sheltered.bridge world _

end Sheltered

end World

/-! ### Operations -/

/-- A frame from the server, the closing of the channel or the end of the session. -/
def Operation.governs {H : Type} : Operation H → Bool
  | .receive _ _ | .close | .shutDown _ => true
  | _ => false

namespace World.Sheltered

variable {H β : Type} [ReflectionHost H] {observe : World H → β} (sheltered : Sheltered observe)
  (session : Session H)

include sheltered

theorem observe_queue (kind : TaskKind) (work : Work) :
    observe (session.queue kind work).world = observe session.world :=
  sheltered.steady.observe_post session kind _

theorem observe_retryPending_session (caller : Caller) :
    observe (session.retryPending caller).1.world = observe session.world := by
  cases caller with
  | gameThread => exact sheltered.observe_retryPending session.world
  | elsewhere => rfl

theorem observe_mutate (caller : Caller) (mutation : Mutation) :
    observe (session.mutate caller mutation).1.world = observe session.world := by
  rw [Session.mutate_eq]
  split
  · rename_i job _
    cases caller with
    | gameThread => exact sheltered.observe_perform job.work session.world
    | elsewhere =>
        exact (sheltered.observe_queue _ job.kind job.work).trans
          (sheltered.observe_note session.world _)
  · rfl

theorem observe_sendLocal (caller : Caller) (state : AvatarState) :
    observe (session.sendLocal caller state).1.world = observe session.world := by
  have updated : observe (session.updateLocal caller state).1.world = observe session.world :=
    sheltered.observe_mutate session caller (.updateLocal state)
  unfold Session.sendLocal
  split
  · rfl
  · split <;> (rename_i answered; rw [answered] at updated)
    · exact updated
    · rename_i after own
      exact (sheltered.observe_enqueue after.world (.humanUpdate own)).trans updated

theorem observe_runFrame (caller : Caller) (number : Nat) :
    observe (session.runFrame caller number).1.world = observe session.world := by
  have drained := sheltered.steady.observe_drain session caller
  have retried :=
    (sheltered.observe_retryPending_session (GameLoop.drain session caller).1 caller).trans drained
  unfold Session.runFrame
  dsimp only
  split <;> (rename_i answered; rw [answered] at retried)
  · exact retried
  · exact (sheltered.observe_fire _ _).trans ((sheltered.observe_tick _).trans retried)

/-- Whatever waits in the queue. -/
theorem observe_operate {operation : Operation H} (minor : operation.governs = false) :
    observe (session.operate operation).world = observe session.world := by
  cases operation with
  | receive now frame => cases minor
  | close => cases minor
  | shutDown caller => cases minor
  | mutate caller mutation => exact sheltered.observe_mutate session caller mutation
  | setLocalEntity id => exact sheltered.observe_setLocalEntity session.world id
  | sendLocal caller state => exact sheltered.observe_sendLocal session caller state
  | sendChat text => exact sheltered.observe_sendChat session.world text
  | poll =>
      simp only [Session.operate, Session.poll, Session.onWorld, Channel.poll]
      split
      · rfl
      · exact sheltered.channel session.world _ _ _ _ _ _
  | post caller kind body =>
      exact sheltered.steady.observe_handTo caller
        (fun loop => sheltered.steady.observe_post loop kind body) session
  | drain caller => exact sheltered.steady.observe_drain session caller
  | retryPending caller => exact sheltered.observe_retryPending_session session caller
  | tick => exact sheltered.observe_tick session.world
  | fire signal => exact sheltered.observe_fire session.world signal
  | runFrame caller number => exact sheltered.observe_runFrame session caller number
  | listen listener => exact sheltered.listeners session.world _
  | unlisten key => exact sheltered.listeners session.world _
  | bridge change => exact sheltered.bridge session.world _
  | clearChannel => exact sheltered.channel session.world _ _ _ _ _ _
  | clearReplica => exact sheltered.replica session.world _
  | clearListeners => exact sheltered.listeners session.world _
  | stop caller =>
      exact sheltered.steady.observe_handTo caller sheltered.steady.observe_shutDown session

/-- Of the end of a session, only the closing of the channel is observed. -/
theorem observe_shutDown (caller : Caller) :
    observe (session.shutDown caller).world = observe session.world.close := by
  let closed := session.mapWorld (·.close)
  have stopped : observe (GameLoop.shutDown closed).world = observe session.world.close :=
    sheltered.steady.observe_shutDown closed
  have drained : observe (Session.lastDrain (GameLoop.shutDown closed) caller).world =
      observe session.world.close := by
    cases caller with
    | gameThread =>
        exact (sheltered.observe_note _ _).trans
          ((sheltered.steady.observe_drain _ .gameThread).trans stopped)
    | elsewhere => exact (sheltered.observe_note _ _).trans stopped
  let last := Session.lastDrain (GameLoop.shutDown closed) caller
  calc observe (session.shutDown caller).world
      = observe (Session.registryChanged (Session.clearReplica last.clearChannel)).world :=
        sheltered.listeners _ _
    _ = observe (Session.clearReplica last.clearChannel).world := sheltered.bridge _ _
    _ = observe last.clearChannel.world := sheltered.replica _ _
    _ = observe last.world := sheltered.channel _ _ _ _ _ _ _
    _ = observe session.world.close := drained

end World.Sheltered

end ReplicaBridge
