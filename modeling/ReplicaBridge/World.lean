/-
Module: ReplicaBridge.World
Purpose: Everything that belongs to one session except its queue: the replica and the
  host it drives, the channel and the listeners.  What is defined here runs on the game
  thread; a change of the replica reaches the host at once, or waits until the host's
  objects appear.
Main exports: World, Event, World.applySeason, World.advanceHours, World.retryPending,
  World.receiveSpawn, World.receiveDespawn, World.receiveUpdate, World.fire
-/
import ReplicaBridge.Channel
import ReplicaBridge.GameCalls
import ReplicaBridge.Listeners
import ReplicaBridge.Replica

namespace ReplicaBridge

open Host (ReflectionHost)
open Wire (Message)

/-- What happens around a session, as its listeners and its tasks tell it. -/
inductive Event where
  /-- A listener heard a signal. -/
  | heard (label : String) (signal : Signal)
  /-- A listener answered a chat line, or could not. -/
  | replied (refusal : Option ChannelError)
  /-- A chat line was handed to the loader. -/
  | forwarded (text : String)
  /-- A task left a note. -/
  | noted (label : String)
  /-- A task ran a drain of its own. -/
  | drained (executed : Nat)
deriving Repr, Inhabited, DecidableEq

/-- One session without its queue. -/
structure World (H : Type) where
  settings : Settings
  bridge : Bridge H
  replica : Replica := {}
  channel : Channel := {}
  listeners : Listeners := {}
  /-- What happened so far, oldest first. -/
  events : List Event := []

namespace World

variable {H : Type}

/-- Add a notice to the report. -/
def note (world : World H) (notice : Notice) : World H :=
  { world with bridge := world.bridge.note notice }

/-- Add a notice if the condition holds. -/
def noteIf (world : World H) (condition : Bool) (notice : Notice) : World H :=
  if condition then world.note notice else world

/-- Leave the reporting to a thread. -/
def reportOn (world : World H) (thread : Caller) : World H :=
  { world with bridge := { world.bridge with report := { world.bridge.report with thread } } }

/-- Add an event. -/
def tell (world : World H) (event : Event) : World H :=
  { world with events := world.events ++ [event] }

/-! ### Sending -/

/-- Encode a message and queue its frame. -/
def enqueue (world : World H) (message : Message) : World H × Except ChannelError Unit :=
  match message.encode with
  | .error error => (world, .error (.malformed error))
  | .ok frame => ({ world with channel := world.channel.enqueue frame }, .ok ())

/-- Why a chat text cannot be sent, if it cannot: a length over the limit is found before
an empty text. -/
def chatRefusal? (world : World H) (text : String) : Option ChannelError :=
  let limit := Channel.chatLimit world.settings.replication
  if world.channel.closed then some .closed
  else if limit < text.utf8ByteSize then some (.chatTooLong text.utf8ByteSize limit)
  else if (Message.chat text).isValid then none
  else some (.invalid .chat)

/-- Queue a chat line for the server. -/
def sendChat (world : World H) (text : String) : World H × Except ChannelError Unit :=
  match world.chatRefusal? text with
  | some error => (world, .error error)
  | none => world.enqueue (.chat text)

/-! ### Listeners -/

/-- What a listener's reaction to a signal does. -/
def react (signal : Signal) : Reaction → World H → World H
  | .record label, world => world.tell (.heard label signal)
  | .reply opening, world =>
    match signal with
    | .chat text =>
      match world.sendChat (opening ++ text) with
      | (world, .ok ()) => world.tell (.replied none)
      | (world, .error error) => world.tell (.replied (some error))
    | _ => world
  | .forward, world =>
    match signal with
    | .chat text => world.tell (.forwarded text)
    | _ => world

/-- What is reported when a signal fires. -/
def announcement? : Signal → Option Notice
  | .frame _ => none
  | .chat text => some (.firingChat text.utf8ByteSize)
  | .spawned id => some (.firingSpawned id)
  | .despawned id => some (.firingDespawned id)

/-- Let the listeners hear a signal, up to the first that unwinds. -/
def fire (world : World H) (signal : Signal) : World H × Except Fault Unit :=
  let announced := (announcement? signal).elim world world.note
  let ((listeners, world), unwound) := announced.listeners.fire signal (react signal) announced
  ({ world with listeners }, if unwound then .error .listenerFailed else .ok ())

/-! ### The replica -/

/-- Assign the local entity. -/
def setLocalEntity (world : World H) (id : EntityId) : World H :=
  let (replica, changed) := world.replica.setLocalEntity id
  { world with replica }.noteIf changed (.localEntitySet id)

/-- Create a row or reset it. -/
def spawn (world : World H) (id : EntityId) (state : AvatarState) :
    World H × Except ReplicaError Unit :=
  if state.isValid then
    let replaced := world.replica.rows.contains id
    ({ world with replica := world.replica.writeRow id state }.note
      (.avatarSpawned id (world.replica.authority id) replaced), .ok ())
  else (world, .error (.invalidAvatar id))

/-- Apply an update to a row. -/
def applyUpdate (world : World H) (id : EntityId) (state : AvatarState) :
    World H × Except ReplicaError UpdateOutcome :=
  if state.isValid then
    let (replica, outcome) := world.replica.applyUpdate id state
    ({ world with replica }, .ok outcome)
  else (world, .error (.invalidAvatar id))

/-- Remove a row; says whether there was one. -/
def despawn (world : World H) (id : EntityId) : World H × Bool :=
  let (replica, removed) := world.replica.despawn id
  ({ world with replica }.noteIf removed (.avatarDespawned id), removed)

/-- Write a row, whatever it held. -/
def writeRow (world : World H) (id : EntityId) (state : AvatarState) : World H :=
  { world with replica := world.replica.writeRow id state }

/-! ### Host effects -/

/-- Change what waits for the host. -/
def setPending (world : World H) (change : PendingEffects → PendingEffects) : World H :=
  { world with replica := { world.replica with pending := change world.replica.pending } }

/-- A failed effect waits if the host's objects are missing; any other failure is final. -/
def deferOrDrop (world : World H) (error : CallError)
    (change : PendingEffects → PendingEffects) : World H :=
  if error.kind = .notFoundYet then (world.note (.effectDeferred error)).setPending change
  else world.note (.effectFailed error)

/-- Report once that there are several schedulers. -/
def noteSchedulerCount (world : World H) (count : Nat) : World H :=
  if 1 < count && !world.replica.manySchedulersNoted then
    { world with replica := { world.replica with manySchedulersNoted := true } }.note
      (.manySchedulers count)
  else world

section HostEffects

variable [ReflectionHost H]

/-- Switch the host to a season. -/
def callSetSeason (world : World H) (season : Season) :
    World H × Except (Halt CallError) Unit :=
  let (bridge, outcome) := world.bridge.setCurrentSeason .gameThread
    world.settings.reflection.seasonChangerClass season
  ({ world with bridge }, outcome.map fun _ => ())

/-- Advance the host's schedulers. -/
def callAdvanceHours (world : World H) (hours : Int32) :
    World H × Except (Halt CallError) Nat :=
  let (bridge, outcome) := world.bridge.advanceHours .gameThread
    world.settings.reflection.schedulerClass hours
  ({ world with bridge }, outcome)

/-- Take over a season that is a target.  It replaces one that never reached the host. -/
def applySeason (world : World H) (season : Season) : World H × Except Fault Unit :=
  let taken := ({ world with replica := { world.replica with season } }.note
    (.seasonSet season)).setPending fun pending => { pending with season := none }
  match taken.callSetSeason season with
  | (world, .ok ()) => (world, .ok ())
  | (world, .error (.unwound fault)) => (world, .error fault)
  | (world, .error (.refused error)) =>
    (world.deferOrDrop error fun pending => { pending with season := some season }, .ok ())

/-- Let hours wait behind those that already do. -/
def queueHours (hours : Int32) (pending : PendingEffects) : PendingEffects :=
  { pending with hours := pending.hours ++ [hours] }

/-- Advance the clock and the host.  While earlier hours wait for the host, later ones
queue behind them. -/
def advanceHours (world : World H) (hours : Int32) : World H × Except Fault Unit :=
  let clock := world.replica.clock + hours.toInt64
  let advanced := { world with replica := { world.replica with clock } }.note
    (.clockAdvanced hours clock)
  if advanced.replica.pending.hours.isEmpty then
    match advanced.callAdvanceHours hours with
    | (world, .ok count) => (world.noteSchedulerCount count, .ok ())
    | (world, .error (.unwound fault)) => (world, .error fault)
    | (world, .error (.refused error)) => (world.deferOrDrop error (queueHours hours), .ok ())
  else (advanced.setPending (queueHours hours), .ok ())

/-- Try the season that waits. -/
def retrySeason (world : World H) : World H × Except Fault Unit :=
  match world.replica.pending.season with
  | none => (world, .ok ())
  | some season =>
    let settled (world : World H) := world.setPending fun pending => { pending with season := none }
    match world.callSetSeason season with
    | (world, .ok ()) => (settled (world.note (.pendingSeasonApplied season)), .ok ())
    | (world, .error (.unwound fault)) => (world, .error fault)
    | (world, .error (.refused error)) =>
      if error.kind = .notFoundYet then (world, .ok ())
      else (settled (world.note (.pendingSeasonDropped season error)), .ok ())

/-- Let exactly these hours go on waiting. -/
def keepHours (world : World H) (hours : List Int32) : World H :=
  world.setPending fun pending => { pending with hours }

/-- Replay waiting hours in order, up to the first that the host cannot take yet. -/
def replayHours : List Int32 → World H → World H × Except Fault Unit
  | [], world => (world.keepHours [], .ok ())
  | hours :: rest, world =>
    match world.callAdvanceHours hours with
    | (world, .ok count) => replayHours rest (world.noteSchedulerCount count)
    | (world, .error (.unwound fault)) => (world.keepHours (hours :: rest), .error fault)
    | (world, .error (.refused error)) =>
      if error.kind = .notFoundYet then (world.keepHours (hours :: rest), .ok ())
      else ((world.note (.pendingHoursDropped (rest.length + 1) error)).keepHours [], .ok ())

/-- Try everything that waits for the host: the season, and unless that unwinds the hours. -/
def retryPending (world : World H) : World H × Except Fault Unit :=
  match world.retrySeason with
  | (world, .error fault) => (world, .error fault)
  | (world, .ok ()) => replayHours world.replica.pending.hours world

end HostEffects

/-! ### The channel -/

/-- Close the channel; only the first call is reported. -/
def close (world : World H) : World H :=
  { world with channel := { world.channel with closed := true } }.noteIf
    (!world.channel.closed) .channelClosed

/-- The text of a disconnect request after too many rejects. -/
def burstReason (burst windowMs : Nat) : String :=
  s!"{burst} invalid messages within {Text.window windowMs}"

/-- Count a refused message; too many of them within the window end the connection. -/
def reject (world : World H) (now : Nat) (error : ChannelError) : World H :=
  let settings := world.settings.replication
  let noted := world.note (.messageDropped error)
  let counted := { noted with
    channel := noted.channel.countReject settings.invalidBurstWindowMs now }
  let burst := counted.channel.burst
  if max settings.invalidBurstThreshold 1 ≤ burst then
    let report := counted.bridge.report.requestDisconnect
      (burstReason burst settings.invalidBurstWindowMs)
    { counted with bridge := { counted.bridge with report } }.close
  else counted

/-- The server spawned an avatar: an update that came too early is applied to it. -/
def receiveSpawn (world : World H) (state : AvatarState) : World H × Except Fault Unit :=
  match world.spawn state.id state with
  | (world, .error error) => (world.note (.spawnFailed state.id error), .ok ())
  | (world, .ok ()) =>
    let (early, held) := world.channel.early.take state.id
    let taken := { world with channel := { world.channel with early } }
    match held with
    | none => taken.fire (.spawned state.id)
    | some update =>
      match taken.applyUpdate state.id update with
      | (world, .ok _) => world.fire (.spawned state.id)
      | (world, .error error) =>
        (world.note (.bufferedUpdateFailed state.id error)).fire (.spawned state.id)

/-- The server despawned an avatar. -/
def receiveDespawn (world : World H) (id : EntityId) : World H × Except Fault Unit :=
  let (early, dropped) := world.channel.early.discard id
  let discarded := { world with channel := { world.channel with early } }.noteIf dropped
    (.bufferedUpdateDropped id)
  match discarded.despawn id with
  | (world, true) => world.fire (.despawned id)
  | (world, false) => (world, .ok ())

/-- The server sent an update; one that comes before its avatar is held. -/
def receiveUpdate (world : World H) (state : AvatarState) : World H :=
  match world.applyUpdate state.id state with
  | (world, .ok .notSpawned) =>
    { world with channel := world.channel.holdEarly state.id state }
  | (world, .ok _) => world
  | (world, .error error) => world.note (.updateFailed state.id error)

/-- One frame has passed: drop the early updates that waited too long. -/
def tick (world : World H) : World H :=
  let (channel, expired) := world.channel.advanceTick world.settings.replication.pendingUpdateTicks
  { world with channel }.noteIf (0 < expired) (.updatesExpired expired)

/-- The server sent a season by its raw byte. -/
def receiveSeason [ReflectionHost H] (world : World H) (value : UInt8) :
    World H × Except Fault Unit :=
  match Season.targetOfByte? value with
  | some season => world.applySeason season
  | none => (world.note (.seasonNotApplied (.invalidSeason value)), .ok ())

end World

end ReplicaBridge
