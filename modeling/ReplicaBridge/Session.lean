/-
Module: ReplicaBridge.Session
Purpose: One session with a host: the world and the queue of work for it.  Frames from
  the server become queued work; a change of the replica that is asked for off the game
  thread is reported and queued as well.
Main exports: Work, Session, Session.start, Session.start?, Session.receive, Session.applySeason,
  Session.advanceHours, Session.applyUpdate, Session.spawn, Session.despawn,
  Session.updateLocal, Session.sendLocal, Session.runFrame,
  Session.runFrames, Session.shutDown
-/
import ReplicaBridge.Schedule.Loop
import ReplicaBridge.World

namespace ReplicaBridge

open Host (ReflectionHost)
open Schedule (GameLoop QueueEvent Scheduler Script TaskKind Workplace)
open Wire (Message MessageKind)

/-- A single action of a queued task. -/
inductive Work where
  /-- The server spawned an avatar. -/
  | receiveSpawn (state : AvatarState)
  /-- The server despawned an avatar. -/
  | receiveDespawn (id : EntityId)
  /-- The server sent an update. -/
  | receiveUpdate (state : AvatarState)
  /-- The server sent a season. -/
  | receiveSeason (value : UInt8)
  /-- The server sent a chat line. -/
  | receiveChat (text : String)
  | applySeason (season : Season)
  | advanceHours (hours : Int32)
  | spawn (id : EntityId) (state : AvatarState)
  | applyUpdate (id : EntityId) (state : AvatarState)
  | despawn (id : EntityId)
  | writeRow (id : EntityId) (state : AvatarState)
  /-- Leave a note among the events. -/
  | note (label : String)
deriving Repr, Inhabited, DecidableEq

namespace World

variable {H : Type}

/-- Perform a queued action. -/
def perform [ReflectionHost H] : Work → World H → World H × Except Fault Unit
  | .receiveSpawn state, world => world.receiveSpawn state
  | .receiveDespawn id, world => world.receiveDespawn id
  | .receiveUpdate state, world => (world.receiveUpdate state, .ok ())
  | .receiveSeason value, world => world.receiveSeason value
  | .receiveChat text, world => world.fire (.chat text)
  | .applySeason season, world => world.applySeason season
  | .advanceHours hours, world => world.advanceHours hours
  | .spawn id state, world => ((world.spawn id state).1, .ok ())
  | .applyUpdate id state, world => ((world.applyUpdate id state).1, .ok ())
  | .despawn id, world => ((world.despawn id).1, .ok ())
  | .writeRow id state, world => (world.writeRow id state, .ok ())
  | .note label, world => (world.tell (.noted label), .ok ())

/-- Hear of an event of the queue. -/
def hear (event : QueueEvent) (world : World H) : World H :=
  match event with
  | .coalesced removed queued => world.note (.coalesced removed queued)
  | .overSoftCap queued => world.note (.overSoftCap queued)
  | .shuttingDown queued => world.note (.schedulerShuttingDown queued)
  | .taskPanicked kind => world.note (.taskPanicked kind)
  | .drainRefused => world.note (.threadViolation "Scheduler.drain")
  | .nestedDrain executed => world.tell (.drained executed)

instance [ReflectionHost H] : Workplace (World H) Work where
  perform work world :=
    let (world, outcome) := perform work world
    (world, !outcome.isOk)
  hear := hear
  thread world := world.bridge.report.thread
  onThread thread world := world.reportOn thread

end World

/-- A session: the world and the queue of work for it. -/
abbrev Session (H : Type) := GameLoop Work (World H)

namespace Session

variable {H : Type}

/-- Start a session with a host. -/
def start (host : Host.CountedHost H) (report : Report) (settings : Settings) : Session H :=
  { scheduler := Scheduler.ofSoftCap settings.scheduler.softCap
    world := { settings, bridge := { host, report } } }

/-- Start a session with a host, if there can be room for its queue. -/
def start? (host : Host.CountedHost H) (report : Report) (settings : Settings) :
    Except Fault (Session H) :=
  match Scheduler.roomFault? settings.scheduler.softCap with
  | some fault => .error fault
  | none => .ok (start host report settings)

/-- Change the world. -/
def mapWorld (session : Session H) (change : World H → World H) : Session H :=
  { session with world := change session.world }

/-- Change the world and answer. -/
def onWorld {α : Type} (session : Session H) (change : World H → World H × α) :
    Session H × α :=
  let (world, answer) := change session.world
  ({ session with world }, answer)

/-- Change the way into the host and answer. -/
def onBridge {α : Type} (session : Session H) (change : Bridge H → Bridge H × α) :
    Session H × α :=
  session.onWorld fun world =>
    let (bridge, answer) := change world.bridge
    ({ world with bridge }, answer)

/-- The host rebuilt its store. -/
def registryChanged (session : Session H) : Session H :=
  session.mapWorld fun world => { world with bridge := world.bridge.registryChanged }

variable [ReflectionHost H]

/-- Queue a single action. -/
def queue (session : Session H) (kind : TaskKind) (work : Work) : Session H :=
  GameLoop.post session kind (Script.once work)

/-- Report an operation that was asked for off the game thread, and queue it. -/
def reroute (session : Session H) (operation : String) (kind : TaskKind) (work : Work) :
    Session H :=
  queue (session.mapWorld (·.note (.threadViolation operation))) kind work

/-! ### Changing the replica -/

/-- Switch to a season, which must be a target. -/
def applySeason (session : Session H) (caller : Caller) (season : Season) :
    Session H × Except (Halt ReplicaError) Unit :=
  if season.isTarget then
    match caller with
    | .gameThread =>
      let (session, outcome) := session.onWorld (·.applySeason season)
      (session, outcome.mapError .unwound)
    | .elsewhere =>
      (reroute session "Replica.applySeason" .environment (.applySeason season), .ok ())
  else (session, .error (.refused (.invalidSeason season.toByte)))

/-- Switch to a season by its raw byte. -/
def applySeasonByte (session : Session H) (caller : Caller) (value : UInt8) :
    Session H × Except (Halt ReplicaError) Unit :=
  match Season.targetOfByte? value with
  | some season => applySeason session caller season
  | none => (session, .error (.refused (.invalidSeason value)))

/-- Advance the clock. -/
def advanceHours (session : Session H) (caller : Caller) (hours : Int32) :
    Session H × Except Fault Unit :=
  match caller with
  | .gameThread => session.onWorld (·.advanceHours hours)
  | .elsewhere =>
    (reroute session "Replica.advanceHours" .environment (.advanceHours hours), .ok ())

/-- Create an avatar or reset it. -/
def spawn (session : Session H) (caller : Caller) (id : EntityId) (state : AvatarState) :
    Session H × Except ReplicaError Unit :=
  if state.isValid then
    match caller with
    | .gameThread => session.onWorld (·.spawn id state)
    | .elsewhere => (reroute session "Replica.spawn" .spawn (.spawn id state), .ok ())
  else (session, .error (.invalidAvatar id))

/-- Apply an update from the server. -/
def applyUpdate (session : Session H) (caller : Caller) (id : EntityId)
    (state : AvatarState) : Session H × Except ReplicaError UpdateOutcome :=
  if state.isValid then
    match caller with
    | .gameThread => session.onWorld (·.applyUpdate id state)
    | .elsewhere =>
      (reroute session "Replica.applyUpdate" (.avatarUpdate id) (.applyUpdate id state),
        .ok .deferred)
  else (session, .error (.invalidAvatar id))

/-- Remove an avatar; says whether there was one, as far as the caller can know. -/
def despawn (session : Session H) (caller : Caller) (id : EntityId) : Session H × Bool :=
  match caller with
  | .gameThread => session.onWorld (·.despawn id)
  | .elsewhere => (reroute session "Replica.despawn" .despawn (.despawn id), false)

/-- Write the local player's avatar; gives it under the local identity. -/
def updateLocal (session : Session H) (caller : Caller) (state : AvatarState) :
    Session H × Except ReplicaError AvatarState :=
  match session.world.replica.localEntity with
  | none => (session, .error .noLocalEntity)
  | some id =>
    if state.isValid then
      let own := state.withId id
      match caller with
      | .gameThread => (session.mapWorld (·.writeRow id own), .ok own)
      | .elsewhere =>
        (reroute session "Replica.updateLocal" (.localAvatarUpdate id) (.writeRow id own), .ok own)
    else (session, .error (.invalidAvatar id))

/-- Try what waits for the host; off the game thread nothing happens. -/
def retryPending (session : Session H) (caller : Caller) : Session H × Except Fault Unit :=
  match caller with
  | .gameThread => session.onWorld (·.retryPending)
  | .elsewhere => (session, .ok ())

/-! ### The channel -/

/-- The task that a message from the server becomes. -/
def taskOf : Message → TaskKind × Work
  | .humanSpawn state => (.spawn, .receiveSpawn state)
  | .humanDespawn id => (.despawn, .receiveDespawn id)
  | .humanUpdate state => (.avatarUpdate state.id, .receiveUpdate state)
  | .envSeason value => (.environment, .receiveSeason value)
  | .envClockAdvance hours => (.environment, .advanceHours hours)
  | .chat text => (.general, .receiveChat text)

/-- Why a decoded message is refused, if it is. -/
def refusal? (settings : ReplicationSettings) (message : Message) : Option ChannelError :=
  if message.isValid then
    match message with
    | .chat text =>
      let limit := Channel.chatLimit settings
      if limit < text.utf8ByteSize then some (.chatTooLong text.utf8ByteSize limit) else none
    | _ => none
  else some (.invalid message.kind)

/-- The message of a frame, or why the frame is refused. -/
def accept (settings : ReplicationSettings) (frame : Bytes) : Except ChannelError Message :=
  match Message.decode frame with
  | .error error => .error (.malformed error)
  | .ok message =>
    match refusal? settings message with
    | some error => .error error
    | none => .ok message

/-- A frame came from the server at a time.  It becomes queued work, or it is counted as
refused. -/
def receive (session : Session H) (now : Nat) (frame : Bytes) :
    Session H × Except ChannelError MessageKind :=
  if session.world.channel.closed then (session, .error .closed)
  else
    let counted := session.mapWorld fun world =>
      { world with channel := { world.channel with received := world.channel.received + 1 } }
    match accept session.world.settings.replication frame with
    | .error error => (counted.mapWorld (·.reject now error), .error error)
    | .ok message =>
      let (kind, work) := taskOf message
      (queue counted kind work, .ok message.kind)

/-- Write the local player's avatar and queue it for the server. -/
def sendLocal (session : Session H) (caller : Caller) (state : AvatarState) :
    Session H × Except ChannelError Unit :=
  if session.world.channel.closed then (session, .error .closed)
  else
    match updateLocal session caller state with
    | (session, .error error) => (session, .error (.replica error))
    | (session, .ok own) => Session.onWorld session (·.enqueue (.humanUpdate own))

/-- Take the next frame for the server. -/
def poll (session : Session H) : Session H × Option Bytes :=
  session.onWorld fun world =>
    let (channel, frame) := world.channel.poll
    ({ world with channel }, frame)

/-- Forget early updates and frames for the server. -/
def clearChannel (session : Session H) : Session H :=
  session.mapWorld fun world => { world with channel := world.channel.clear }

/-- Forget everything that was replicated. -/
def clearReplica (session : Session H) : Session H :=
  session.mapWorld fun world => { world with replica := world.replica.clear }

/-- Remove every listener. -/
def clearListeners (session : Session H) : Session H :=
  session.mapWorld fun world => { world with listeners := world.listeners.clear }

/-! ### Frames and the end -/

/-- Run one frame: drain the queue, try what waits for the host, age the early updates,
then tell the frame listeners; what unwinds ends the frame.  Gives the number of tasks
run. -/
def runFrame (session : Session H) (caller : Caller) (number : Nat) :
    Session H × Except Fault Nat :=
  let (drained, executed) := GameLoop.drain session caller
  match retryPending drained caller with
  | (session, .error fault) => (session, .error fault)
  | (session, .ok ()) =>
    let (session, outcome) := Session.onWorld session (·.tick.fire (.frame number))
    (session, outcome.map fun _ => executed)

/-- Run frames one after another, up to one that unwinds.  Gives the number of tasks run in
each. -/
def runFrames (session : Session H) (caller : Caller) (number : Nat) :
    (times : Nat) → Session H × Except Fault (List Nat)
  | 0 => (session, .ok [])
  | times + 1 =>
    match runFrame session caller number with
    | (session, .error fault) => (session, .error fault)
    | (session, .ok executed) =>
      let (session, later) := runFrames session caller (number + 1) times
      (session, later.map (executed :: ·))

/-- The last drain, which runs the despawns that are left. -/
def lastDrain (session : Session H) (caller : Caller) : Session H :=
  match caller with
  | .gameThread =>
    let (drained, executed) := GameLoop.drain session caller
    Session.mapWorld drained (·.note (.shutdownDrained executed))
  | .elsewhere => session.mapWorld (·.note .shutdownElsewhere)

/-- End the session: nothing comes in any more, the despawns that wait still run, and then
everything replicated or resolved is forgotten. -/
def shutDown (session : Session H) (caller : Caller) : Session H :=
  let stopped := GameLoop.shutDown (session.mapWorld (·.close))
  let drained := lastDrain stopped caller
  clearListeners (Session.registryChanged (clearReplica (clearChannel drained)))

end Session

end ReplicaBridge
