/-
Module: ReplicaBridge.Proofs.SessionOperations
Purpose: Everything that can be asked of a session, on the game thread or off it: the changes
  of its replica, what comes in from the server and from the game, what tasks of any kind are
  queued, and how it ends.  Runs of a session are lists of such operations.  What is only
  posted does nothing to the world but add notices to its journal.
Main exports: Mutation, Session.mutate, Operation, Session.operate, Session.operateAll,
  Session.taken, Session.receive_of_closed, Mutation.job, Session.carryOut, Session.mutate_eq,
  World.OnlyNotes, Session.onlyNotes_queue
-/
import ReplicaBridge.Proofs.SessionRun

namespace ReplicaBridge

open Host (ReflectionHost)
open Schedule (GameLoop Scheduler Script TaskKind)

/-- A change of the replica, as any thread may ask for it. -/
inductive Mutation where
  | applySeason (season : Season)
  | applySeasonByte (value : UInt8)
  | advanceHours (hours : Int32)
  | applyUpdate (id : EntityId) (state : AvatarState)
  | spawn (id : EntityId) (state : AvatarState)
  | despawn (id : EntityId)
  | updateLocal (state : AvatarState)
deriving DecidableEq

/-- What can be asked of a session. -/
inductive Operation (H : Type) where
  /-- A frame came from the server at a time. -/
  | receive (now : Nat) (frame : Bytes)
  | mutate (caller : Caller) (mutation : Mutation)
  | setLocalEntity (id : EntityId)
  | sendLocal (caller : Caller) (state : AvatarState)
  | sendChat (text : String)
  | poll
  /-- Any task is posted. -/
  | post (caller : Caller) (kind : TaskKind) (body : Script Work)
  | drain (caller : Caller)
  | retryPending (caller : Caller)
  | tick
  | fire (signal : Signal)
  /-- The game ran a frame. -/
  | runFrame (caller : Caller) (number : Nat)
  | listen (listener : Listener)
  | unlisten (key : ListenerKey)
  /-- The host, or what stands between it and the session, changes in any way. -/
  | bridge (change : Bridge H → Bridge H)
  | close
  | clearChannel
  | clearReplica
  | clearListeners
  /-- The queue stops accepting work. -/
  | stop (caller : Caller)
  | shutDown (caller : Caller)

namespace Session

variable {H : Type} [ReflectionHost H]

/-- Ask for a change of the replica.  A change that is taken over may still unwind. -/
def mutate (session : Session H) (caller : Caller) :
    Mutation → Session H × Except (Halt ReplicaError) Unit
  | .applySeason season => session.applySeason caller season
  | .applySeasonByte value => session.applySeasonByte caller value
  | .advanceHours hours =>
    let (session, outcome) := session.advanceHours caller hours
    (session, outcome.mapError .unwound)
  | .applyUpdate id state =>
    let (session, outcome) := session.applyUpdate caller id state
    (session, (outcome.map fun _ => ()).mapError .refused)
  | .spawn id state =>
    let (session, outcome) := session.spawn caller id state
    (session, outcome.mapError .refused)
  | .despawn id => ((session.despawn caller id).1, .ok ())
  | .updateLocal state =>
    let (session, outcome) := session.updateLocal caller state
    (session, (outcome.map fun _ => ()).mapError .refused)

/-- What an operation makes of a session. -/
def operate (session : Session H) : Operation H → Session H
  | .receive now frame => (session.receive now frame).1
  | .mutate caller mutation => (session.mutate caller mutation).1
  | .setLocalEntity id => session.mapWorld (·.setLocalEntity id)
  | .sendLocal caller state => (session.sendLocal caller state).1
  | .sendChat text => (session.onWorld (·.sendChat text)).1
  | .poll => session.poll.1
  | .post caller kind body => GameLoop.handTo caller (·.post kind body) session
  | .drain caller => (GameLoop.drain session caller).1
  | .retryPending caller => (session.retryPending caller).1
  | .tick => session.mapWorld (·.tick)
  | .fire signal => (session.onWorld (·.fire signal)).1
  | .runFrame caller number => (session.runFrame caller number).1
  | .listen listener => session.mapWorld fun world =>
      { world with listeners := (world.listeners.add listener).1 }
  | .unlisten key => session.mapWorld fun world =>
      { world with listeners := (world.listeners.remove key).1 }
  | .bridge change => session.mapWorld fun world => { world with bridge := change world.bridge }
  | .close => session.mapWorld (·.close)
  | .clearChannel => session.clearChannel
  | .clearReplica => session.clearReplica
  | .clearListeners => session.clearListeners
  | .stop caller => GameLoop.handTo caller GameLoop.shutDown session
  | .shutDown caller => session.shutDown caller

/-- What operations make of a session, one after another. -/
def operateAll (session : Session H) (operations : List (Operation H)) : Session H :=
  operations.foldl operate session

/-- The operation is a frame from the server that the session takes over. -/
def takes (session : Session H) : Operation H → Bool
  | .receive now frame => (session.receive now frame).2.isOk
  | _ => false

/-- How many frames from the server the session takes over along the operations. -/
def taken : Session H → List (Operation H) → Nat
  | _, [] => 0
  | session, operation :: rest =>
    (session.takes operation).toNat + taken (session.operate operation) rest

end Session

/-! ### A closed channel -/

namespace Session

variable {H : Type} [ReflectionHost H] {session : Session H}
  (closed : session.world.channel.closed = true)

include closed

theorem receive_of_closed (now : Nat) (frame : Bytes) :
    session.receive now frame = (session, .error .closed) := by
  unfold receive
  rw [if_pos closed]

omit [ReflectionHost H] in
theorem sendChat_of_closed (text : String) :
    session.onWorld (·.sendChat text) = (session, .error .closed) := by
  simp only [onWorld, World.sendChat, World.chatRefusal?, closed, if_true]

theorem sendLocal_of_closed (caller : Caller) (state : AvatarState) :
    session.sendLocal caller state = (session, .error .closed) := by
  unfold sendLocal
  rw [if_pos closed]

end Session

/-! ### How a change is made -/

namespace Mutation

/-- The job that a change of the replica becomes, or why it is refused: a season must be a
target, a state must be valid, and a local write needs a local entity before that. -/
def job (owner : Option EntityId) : Mutation → Except ReplicaError Job
  | .applySeason season =>
    if season.isTarget then .ok { kind := .environment, work := .applySeason season }
    else .error (.invalidSeason season.toByte)
  | .applySeasonByte value =>
    match Season.targetOfByte? value with
    | some season => .ok { kind := .environment, work := .applySeason season }
    | none => .error (.invalidSeason value)
  | .advanceHours hours => .ok { kind := .environment, work := .advanceHours hours }
  | .applyUpdate id state =>
    if state.isValid then .ok { kind := .avatarUpdate id, work := .applyUpdate id state }
    else .error (.invalidAvatar id)
  | .spawn id state =>
    if state.isValid then .ok { kind := .spawn, work := .spawn id state }
    else .error (.invalidAvatar id)
  | .despawn id => .ok { kind := .despawn, work := .despawn id }
  | .updateLocal state =>
    match owner with
    | none => .error .noLocalEntity
    | some id =>
      if state.isValid then
        .ok { kind := .localAvatarUpdate id, work := .writeRow id (state.withId id) }
      else .error (.invalidAvatar id)

/-- What is reported when the change is asked for off the game thread. -/
def operation : Mutation → String
  | .applySeason _ | .applySeasonByte _ => "Replica.applySeason"
  | .advanceHours _ => "Replica.advanceHours"
  | .applyUpdate _ _ => "Replica.applyUpdate"
  | .spawn _ _ => "Replica.spawn"
  | .despawn _ => "Replica.despawn"
  | .updateLocal _ => "Replica.updateLocal"

/-- The wire value of a season that is a target is a target, too. -/
theorem isTarget_of_targetOfByte? {value : UInt8} {season : Season}
    (found : Season.targetOfByte? value = some season) : season.isTarget = true :=
  (Option.filter_eq_some_iff.mp found).2

end Mutation

namespace Session

variable {H : Type} [ReflectionHost H]

/-- What is done with the job of a change: on the game thread its work, at once; off it the
caller is reported and the job posted. -/
def carryOut (session : Session H) (caller : Caller) (operation : String) (job : Job) :
    Session H × Except (Halt ReplicaError) Unit :=
  match caller with
  | .gameThread => (session.mapWorld fun world => (world.perform job.work).1,
      (session.world.perform job.work).2.mapError .unwound)
  | .elsewhere => (session.reroute operation job.kind job.work, .ok ())

/-- On both threads a change is checked first, and then its job is carried out. -/
theorem mutate_eq (session : Session H) (caller : Caller) (mutation : Mutation) :
    session.mutate caller mutation =
      match mutation.job session.world.replica.localEntity with
      | .ok job => session.carryOut caller mutation.operation job
      | .error error => (session, .error (.refused error)) := by
  cases mutation with
  | applySeason season =>
      simp only [mutate, applySeason, Mutation.job]
      split
      · cases caller <;> rfl
      · rfl
  | applySeasonByte value =>
      simp only [mutate, applySeasonByte, Mutation.job]
      cases found : Season.targetOfByte? value with
      | none => rfl
      | some season =>
          simp only [applySeason, Mutation.isTarget_of_targetOfByte? found, if_true]
          cases caller <;> rfl
  | advanceHours hours => cases caller <;> rfl
  | applyUpdate id state =>
      simp only [mutate, applyUpdate, Mutation.job]
      split
      · rename_i valid
        cases caller with
        | gameThread =>
            simp only [carryOut, onWorld, World.perform, World.applyUpdate, valid, if_true]
            rfl
        | elsewhere => rfl
      · rfl
  | spawn id state =>
      simp only [mutate, spawn, Mutation.job]
      split
      · rename_i valid
        cases caller with
        | gameThread =>
            simp only [carryOut, onWorld, World.perform, World.spawn, valid, if_true]
            rfl
        | elsewhere => rfl
      · rfl
  | despawn id => cases caller <;> rfl
  | updateLocal state =>
      simp only [mutate, updateLocal, Mutation.job]
      cases session.world.replica.localEntity with
      | none => rfl
      | some id =>
          dsimp only
          split
          · cases caller <;> rfl
          · rfl

end Session

/-! ### What is only posted -/

namespace World

variable {H : Type}

/-- Nothing changed but the journal, in which there may be more notices. -/
def OnlyNotes (before after : World H) : Prop :=
  ∃ notices, after = { before with bridge := before.bridge.noteAll notices }

theorem OnlyNotes.refl (world : World H) : world.OnlyNotes world :=
  ⟨[], rfl⟩

theorem OnlyNotes.trans {before middle after : World H} (first : before.OnlyNotes middle)
    (second : middle.OnlyNotes after) : before.OnlyNotes after := by
  obtain ⟨earlier, rfl⟩ := first
  obtain ⟨later, rfl⟩ := second
  refine ⟨earlier ++ later, ?_⟩
  simp only [Bridge.noteAll, List.foldl_append]

theorem onlyNotes_note (world : World H) (notice : Notice) :
    world.OnlyNotes (world.note notice) :=
  ⟨[notice], rfl⟩

/-- What a post reports about passes is only noted. -/
theorem onlyNotes_hear_post (world : World H) {scheduler : Scheduler (Script Work)}
    {task : Schedule.Task (Script Work)} {event : Schedule.QueueEvent}
    (reported : (scheduler.post task).2 = some event) : world.OnlyNotes (world.hear event) := by
  cases event with
  | nestedDrain executed => exact absurd reported (Scheduler.event_post scheduler task executed)
  | _ => exact onlyNotes_note world _

end World

/-- Whatever is posted, of the world only the journal changes. -/
theorem Session.onlyNotes_queue {H : Type} [ReflectionHost H] (session : Session H)
    (kind : TaskKind) (work : Work) :
    session.world.OnlyNotes (session.queue kind work).world := by
  simp only [queue, GameLoop.post, GameLoop.hear]
  split
  · exact .refl session.world
  · rename_i event reported
    exact World.onlyNotes_hear_post session.world reported

end ReplicaBridge
