/-
Module: ReplicaBridge.Proofs.ListenersApart
Purpose: Listeners cannot disturb what is replicated.  Two runs that differ in the listeners
  alone, whether or not these unwind, go through the same replicas, channels, queues and hosts:
  where a listener is called, everything that its task or its frame does is done.
Main exports: Core, World.core, World.Parallel, World.Parallel.perform,
  World.lockstep_parallel, Operation.isListening, Operation.Tame, Session.run_apart_from_listeners
-/
import ReplicaBridge.Proofs.Callbacks
import ReplicaBridge.Proofs.HostEffects
import ReplicaBridge.Proofs.Lockstep
import ReplicaBridge.Proofs.Receiving

namespace ReplicaBridge

open Host (CountedHost Loaded Recorded ReflectionHost TableStore)
open Schedule (GameLoop TaskKind)
open Wire (Message)

/-! ### The core of a world -/

/-- A world without its listeners, what they heard, and its reports: what is replicated and what
waits for the host, the channel with its early updates, counters and frames to be sent, and the
host with what is known of it. -/
structure Core (H : Type) where
  settings : Settings
  replica : Replica
  channel : Channel
  host : CountedHost H
  registry : Registry
  gate : CallGate

namespace World

variable {H : Type}

def core (world : World H) : Core H :=
  { settings := world.settings
    replica := world.replica
    channel := world.channel
    host := world.bridge.host
    registry := world.bridge.registry
    gate := world.bridge.gate }

theorem core_withNotices (world : World H) (notices : List Notice) :
    ({ world with bridge := world.bridge.noteAll notices }).core = world.core := by
  simp [core]

theorem Rings.core {before after : World H} (rings : before.Rings after) :
    after.core = before.core := by
  obtain ⟨notices, listeners, events, rfl⟩ := rings
  exact core_withNotices before notices

/-- The worlds differ in their listeners and in what these heard, and no listener answers. -/
structure Parallel (left right : World H) : Prop where
  core : left.core = right.core
  left : left.listeners.Silent
  right : right.listeners.Silent

/-- Two operations answered the same and left worlds that differ in their listeners alone. -/
def Matched {α : Type} (left right : World H × α) : Prop :=
  ∃ leftWorld rightWorld answer, left = (leftWorld, answer) ∧ right = (rightWorld, answer) ∧
    leftWorld.Parallel rightWorld

namespace Parallel

variable {left right : World H} (parallel : left.Parallel right)

include parallel

theorem symm : right.Parallel left :=
  ⟨parallel.core.symm, parallel.right, parallel.left⟩

theorem matched {α : Type} (answer : α) : Matched (left, answer) (right, answer) :=
  ⟨left, right, answer, rfl, rfl, parallel⟩

theorem replica : left.replica = right.replica :=
  congrArg Core.replica parallel.core

theorem channel : left.channel = right.channel :=
  congrArg Core.channel parallel.core

theorem settings : left.settings = right.settings :=
  congrArg Core.settings parallel.core

/-- The same change of both cores. -/
theorem change {left' right' : World H} (change : Core H → Core H)
    (leftChanged : left'.core = change left.core)
    (rightChanged : right'.core = change right.core)
    (leftListeners : left'.listeners = left.listeners)
    (rightListeners : right'.listeners = right.listeners) : left'.Parallel right' where
  core := by rw [leftChanged, rightChanged, parallel.core]
  left := leftListeners ▸ parallel.left
  right := rightListeners ▸ parallel.right

theorem note (leftNotice rightNotice : Notice) :
    (left.note leftNotice).Parallel (right.note rightNotice) :=
  parallel.change id rfl rfl rfl rfl

theorem noteIf (leftSays rightSays : Bool) (leftNotice rightNotice : Notice) :
    (left.noteIf leftSays leftNotice).Parallel (right.noteIf rightSays rightNotice) := by
  cases leftSays <;> cases rightSays <;> exact parallel.change id rfl rfl rfl rfl

/-- Neither what a round of listeners does nor whether it unwinds makes a difference. -/
theorem fire (signal : Signal) : (left.fire signal).1.Parallel (right.fire signal).1 where
  core := by
    rw [(rings_fire (.inr parallel.left)).core, (rings_fire (.inr parallel.right)).core,
      parallel.core]
  left := silent_fire parallel.left signal
  right := silent_fire parallel.right signal

/-! ### Changes of the replica and the channel -/

theorem setLocalEntity (id : EntityId) :
    (left.setLocalEntity id).Parallel (right.setLocalEntity id) := by
  have assigned : ({ left with replica := (left.replica.setLocalEntity id).1 }).Parallel
      { right with replica := (right.replica.setLocalEntity id).1 } :=
    parallel.change (fun core => { core with replica := (core.replica.setLocalEntity id).1 })
      rfl rfl rfl rfl
  exact assigned.noteIf _ _ _ _

theorem spawn (id : EntityId) (state : AvatarState) :
    Matched (left.spawn id state) (right.spawn id state) := by
  unfold World.spawn
  split
  · have written : ({ left with replica := left.replica.writeRow id state }).Parallel
        { right with replica := right.replica.writeRow id state } :=
      parallel.change (fun core => { core with replica := core.replica.writeRow id state })
        rfl rfl rfl rfl
    exact (written.note _ _).matched _
  · exact parallel.matched _

theorem applyUpdate (id : EntityId) (state : AvatarState) :
    Matched (left.applyUpdate id state) (right.applyUpdate id state) := by
  unfold World.applyUpdate
  split
  · have updated : ({ left with replica := (left.replica.applyUpdate id state).1 }).Parallel
        { right with replica := (right.replica.applyUpdate id state).1 } :=
      parallel.change (fun core =>
        { core with replica := (core.replica.applyUpdate id state).1 }) rfl rfl rfl rfl
    have same : (left.replica.applyUpdate id state).2 = (right.replica.applyUpdate id state).2 := by
      rw [parallel.replica]
    dsimp only
    rw [same]
    exact updated.matched _
  · exact parallel.matched _

theorem despawn (id : EntityId) : Matched (left.despawn id) (right.despawn id) := by
  have erased : ({ left with replica := (left.replica.despawn id).1 }).Parallel
      { right with replica := (right.replica.despawn id).1 } :=
    parallel.change (fun core => { core with replica := (core.replica.despawn id).1 })
      rfl rfl rfl rfl
  have same : (left.replica.despawn id).2 = (right.replica.despawn id).2 := by
    rw [parallel.replica]
  unfold World.despawn
  dsimp only
  rw [same]
  exact (erased.noteIf _ _ _ _).matched _

theorem writeRow (id : EntityId) (state : AvatarState) :
    (left.writeRow id state).Parallel (right.writeRow id state) :=
  parallel.change (fun core => { core with replica := core.replica.writeRow id state })
    rfl rfl rfl rfl

theorem withEarly (change : EarlyUpdates → EarlyUpdates) :
    ({ left with channel := { left.channel with early := change left.channel.early } }).Parallel
      { right with channel := { right.channel with early := change right.channel.early } } :=
  parallel.change (fun core =>
    { core with channel := { core.channel with early := change core.channel.early } })
    rfl rfl rfl rfl

theorem receiveUpdate (state : AvatarState) :
    (left.receiveUpdate state).Parallel (right.receiveUpdate state) := by
  obtain ⟨left', right', answer, leftUpdated, rightUpdated, updated⟩ :=
    parallel.applyUpdate state.id state
  unfold World.receiveUpdate
  rw [leftUpdated, rightUpdated]
  cases answer with
  | error error => exact updated.note _ _
  | ok outcome =>
      cases outcome with
      | notSpawned =>
          exact updated.change (fun core =>
            { core with channel := core.channel.holdEarly state.id state }) rfl rfl rfl rfl
      | _ => exact updated

/-- The row and what was held are gone before a listener is told. -/
theorem receiveDespawn (id : EntityId) :
    (left.receiveDespawn id).1.Parallel (right.receiveDespawn id).1 := by
  have discarded := (parallel.withEarly fun early => (early.discard id).1).noteIf
    (left.channel.early.discard id).2 (right.channel.early.discard id).2
    (.bufferedUpdateDropped id) (.bufferedUpdateDropped id)
  obtain ⟨left', right', removed, leftRemoved, rightRemoved, despawned⟩ := discarded.despawn id
  unfold World.receiveDespawn
  dsimp only at leftRemoved rightRemoved ⊢
  rw [leftRemoved, rightRemoved]
  cases removed with
  | true => exact despawned.fire _
  | false => exact despawned

/-- The row stands, with the update that was held for it, before a listener is told. -/
theorem receiveSpawn (state : AvatarState) :
    (left.receiveSpawn state).1.Parallel (right.receiveSpawn state).1 := by
  obtain ⟨left', right', answer, leftSpawned, rightSpawned, spawned⟩ :=
    parallel.spawn state.id state
  unfold World.receiveSpawn
  rw [leftSpawned, rightSpawned]
  cases answer with
  | error error => exact spawned.note _ _
  | ok done =>
      have taken := spawned.withEarly fun early => (early.take state.id).1
      have held : (left'.channel.early.take state.id).2 = (right'.channel.early.take state.id).2 :=
        congrArg (fun channel => (channel.early.take state.id).2) spawned.channel
      dsimp only
      rw [held]
      cases (right'.channel.early.take state.id).2 with
      | none => exact taken.fire _
      | some update =>
          obtain ⟨left'', right'', outcome, leftUpdated, rightUpdated, updated⟩ :=
            taken.applyUpdate state.id update
          dsimp only
          rw [leftUpdated, rightUpdated]
          cases outcome with
          | ok outcome => exact updated.fire _
          | error error => exact (updated.note _ _).fire _

theorem tick : left.tick.Parallel right.tick := by
  have aged : ({ left with channel := (left.channel.advanceTick
      left.settings.replication.pendingUpdateTicks).1 }).Parallel
        { right with channel := (right.channel.advanceTick
      right.settings.replication.pendingUpdateTicks).1 } :=
    parallel.change (fun core => { core with
      channel := (core.channel.advanceTick core.settings.replication.pendingUpdateTicks).1 })
      rfl rfl rfl rfl
  exact aged.noteIf _ _ _ _

theorem close : left.close.Parallel right.close := by
  have closed : ({ left with channel := { left.channel with closed := true } }).Parallel
      { right with channel := { right.channel with closed := true } } :=
    parallel.change (fun core => { core with channel := { core.channel with closed := true } })
      rfl rfl rfl rfl
  exact closed.noteIf _ _ _ _

theorem reject (now : Nat) (error : ChannelError) :
    (left.reject now error).Parallel (right.reject now error) := by
  let counted (world : World H) : World H :=
    { world.note (.messageDropped error) with
      channel := world.channel.countReject world.settings.replication.invalidBurstWindowMs now }
  have both : (counted left).Parallel (counted right) :=
    parallel.change (fun core =>
      { core with
        channel := core.channel.countReject core.settings.replication.invalidBurstWindowMs now })
      rfl rfl rfl rfl
  have burst : (counted left).channel.burst = (counted right).channel.burst :=
    congrArg Channel.burst both.channel
  have threshold : left.settings.replication.invalidBurstThreshold =
      right.settings.replication.invalidBurstThreshold :=
    congrArg (·.replication.invalidBurstThreshold) parallel.settings
  simp only [World.reject]
  split
  · rename_i many
    rw [if_pos (threshold ▸ burst ▸ many)]
    refine close ?_
    exact both.change id rfl rfl rfl rfl
  · rename_i few
    rw [if_neg (threshold ▸ burst ▸ few)]
    exact both

theorem alike : left.bridge.Alike right.bridge :=
  ⟨congrArg Core.host parallel.core, congrArg Core.registry parallel.core,
    congrArg Core.gate parallel.core⟩

theorem withBridge {change : Bridge H → Bridge H}
    (blind : ∀ left right : Bridge H, left.Alike right → (change left).Alike (change right)) :
    ({ left with bridge := change left.bridge }).Parallel
      { right with bridge := change right.bridge } := by
  have changed := blind _ _ parallel.alike
  refine ⟨?_, parallel.left, parallel.right⟩
  simp only [World.core]
  rw [parallel.settings, parallel.replica, parallel.channel, changed.host, changed.registry,
    changed.gate]

theorem countReceived : left.countReceived.Parallel right.countReceived :=
  parallel.change (fun core =>
    { core with channel := { core.channel with received := core.channel.received + 1 } })
    rfl rfl rfl rfl

theorem enqueue (message : Message) :
    (left.enqueue message).1.Parallel (right.enqueue message).1 := by
  unfold World.enqueue
  split
  · exact parallel
  · exact parallel.change (fun core => { core with channel := core.channel.enqueue _ })
      rfl rfl rfl rfl

theorem sendChat (text : String) : (left.sendChat text).1.Parallel (right.sendChat text).1 := by
  have refusal : left.chatRefusal? text = right.chatRefusal? text := by
    unfold chatRefusal?
    rw [parallel.settings, parallel.channel]
  unfold World.sendChat
  rw [refusal]
  split
  · exact parallel
  · exact parallel.enqueue _

end Parallel

/-! ### Host effects -/

/-- What a host effect neither uses up nor brings in. -/
def side (world : World H) : Settings × Channel × Listeners :=
  (world.settings, world.channel, world.listeners)

theorem aside_side : Aside (side : World H → Settings × Channel × Listeners) where
  bridge _ _ := rfl
  replica _ _ := rfl

theorem core_eq {left right : World H} (same : left.SameBackdrop right)
    (rows : left.replica.rows = right.replica.rows) (settings : left.settings = right.settings)
    (channel : left.channel = right.channel) : left.core = right.core := by
  have replica : left.replica = right.replica := by
    calc left.replica
        = { rows := left.replica.rows, season := left.backdrop.season
            clock := left.backdrop.clock, localEntity := left.backdrop.footing.localEntity
            pending := left.backdrop.pending
            manySchedulersNoted := left.backdrop.manySchedulersNoted } := rfl
      _ = { rows := right.replica.rows, season := right.backdrop.season
            clock := right.backdrop.clock, localEntity := right.backdrop.footing.localEntity
            pending := right.backdrop.pending
            manySchedulersNoted := right.backdrop.manySchedulersNoted } := by rw [rows, same]
      _ = right.replica := rfl
  unfold core
  rw [settings, replica, channel, same.alike.host, same.alike.registry, same.alike.gate]

namespace Parallel

variable {left right : World H} (parallel : left.Parallel right)

include parallel

theorem backdrop : left.SameBackdrop right :=
  congrArg (fun core : Core H =>
    ({ footing :=
        { replication := core.settings.replication
          reflection := core.settings.reflection
          localEntity := core.replica.localEntity
          tick := core.channel.tick
          recentRejects := core.channel.recentRejects
          closed := core.channel.closed }
       host := core.host
       registry := core.registry
       gate := core.gate
       season := core.replica.season
       clock := core.replica.clock
       pending := core.replica.pending
       manySchedulersNoted := core.replica.manySchedulersNoted } : Backdrop H)) parallel.core

/-- An effect on the host that comes out alike before one backdrop leaves the rows alone and
takes no part in the channel. -/
theorem matched_of_agree {α : Type} {effect : World H → World H × α}
    (agree : World.Agree (effect left) (effect right))
    (still : ∀ world, Undisturbed world (effect world).1)
    (aside : ∀ world, (effect world).1.side = world.side) :
    Matched (effect left) (effect right) := by
  obtain ⟨left', right', answer, leftDone, rightDone, same⟩ := agree
  have rows (world : World H) : (effect world).1.replica.rows = world.replica.rows :=
    EntityMap.ext fun id => congrArg Track.row ((still world).tracks id)
  have leftSide := aside left
  have rightSide := aside right
  have leftRows := rows left
  have rightRows := rows right
  rw [leftDone] at leftSide leftRows
  rw [rightDone] at rightSide rightRows
  refine ⟨left', right', answer, leftDone, rightDone, ?_, ?_, ?_⟩
  · refine core_eq same ?_ ?_ ?_
    · rw [leftRows, rightRows, parallel.replica]
    · exact (congrArg Prod.fst leftSide).trans
        (parallel.settings.trans (congrArg Prod.fst rightSide).symm)
    · exact (congrArg (·.2.1) leftSide).trans
        (parallel.channel.trans (congrArg (·.2.1) rightSide).symm)
  · exact (congrArg (·.2.2) leftSide : left'.listeners = _) ▸ parallel.left
  · exact (congrArg (·.2.2) rightSide : right'.listeners = _) ▸ parallel.right

variable [ReflectionHost H]

theorem applySeason (season : Season) :
    Matched (left.applySeason season) (right.applySeason season) :=
  parallel.matched_of_agree (applySeason_agree parallel.backdrop season)
    (undisturbed_applySeason · season) (aside_side.observe_applySeason · season)

theorem advanceHours (hours : Int32) :
    Matched (left.advanceHours hours) (right.advanceHours hours) :=
  parallel.matched_of_agree (advanceHours_agree parallel.backdrop hours)
    (undisturbed_advanceHours · hours) (aside_side.observe_advanceHours · hours)

theorem retryPending : Matched left.retryPending right.retryPending :=
  parallel.matched_of_agree (retryPending_agree parallel.backdrop)
    undisturbed_retryPending aside_side.observe_retryPending

theorem receiveSeason (value : UInt8) :
    Matched (left.receiveSeason value) (right.receiveSeason value) := by
  unfold World.receiveSeason
  split
  · exact parallel.applySeason _
  · exact (parallel.note _ _).matched _

end Parallel

end World

/-! ### Tasks -/

/-- Work that tells the listeners, which is the last thing that it does. -/
def Work.Tells : Work → Prop
  | .receiveSpawn _ | .receiveDespawn _ | .receiveChat _ => True
  | _ => False

namespace World

variable {H : Type}

namespace Matched

variable {α : Type} {left right : World H × α}

theorem parallel (matched : Matched left right) : left.1.Parallel right.1 := by
  obtain ⟨left', right', answer, rfl, rfl, parallel⟩ := matched
  exact parallel

theorem answer (matched : Matched left right) : left.2 = right.2 := by
  obtain ⟨left', right', answer, rfl, rfl, parallel⟩ := matched
  rfl

end Matched

variable [ReflectionHost H]

theorem Parallel.perform {left right : World H} (parallel : left.Parallel right) (work : Work) :
    (World.perform work left).1.Parallel (World.perform work right).1 := by
  cases work with
  | receiveSpawn state => exact parallel.receiveSpawn state
  | receiveDespawn id => exact parallel.receiveDespawn id
  | receiveUpdate state => exact parallel.receiveUpdate state
  | receiveSeason value => exact (parallel.receiveSeason value).parallel
  | receiveChat text => exact parallel.fire _
  | applySeason season => exact (parallel.applySeason season).parallel
  | advanceHours hours => exact (parallel.advanceHours hours).parallel
  | spawn id state => exact (parallel.spawn id state).parallel
  | applyUpdate id state => exact (parallel.applyUpdate id state).parallel
  | despawn id => exact (parallel.despawn id).parallel
  | writeRow id state => exact parallel.writeRow id state
  | note label => exact parallel.change id rfl rfl rfl rfl

/-- Work that calls no listener unwinds alike on both sides. -/
theorem Parallel.outcome {left right : World H} (parallel : left.Parallel right) {work : Work}
    (untold : ¬work.Tells) : (World.perform work left).2 = (World.perform work right).2 := by
  cases work with
  | receiveSpawn state => exact absurd trivial untold
  | receiveDespawn id => exact absurd trivial untold
  | receiveChat text => exact absurd trivial untold
  | receiveSeason value => exact (parallel.receiveSeason value).answer
  | applySeason season => exact (parallel.applySeason season).answer
  | advanceHours hours => exact (parallel.advanceHours hours).answer
  | _ => rfl

/-- Sessions that differ in their listeners alone run in lockstep. -/
theorem lockstep_parallel : GameLoop.Lockstep (Parallel : World H → World H → Prop) Work.Tells where
  symm parallel := parallel.symm
  perform work _ _ parallel := parallel.perform work
  unwinds work left right untold parallel :=
    congrArg (fun outcome : Except Fault Unit => !outcome.isOk) (parallel.outcome untold)
  hear event left right parallel := by
    cases event <;> exact parallel.change id rfl rfl rfl rfl
  onThread caller left right parallel := parallel.change id rfl rfl rfl rfl

end World

/-! ### Operations -/

/-- The operation concerns the listeners alone. -/
def Operation.isListening {H : Type} : Operation H → Bool
  | .listen _ | .unlisten _ | .clearListeners => true
  | _ => false

/-- No listener answers; a script tells listeners last; and the host does not depend on what is
reported. -/
def Operation.Tame {H : Type} : Operation H → Prop
  | .listen listener => listener.reaction.answers = false
  | .post _ kind body => Schedule.Task.Fits (·.work.EndsOn Work.Tells) { kind, work := body }
  | .bridge change =>
    ∀ left right : Bridge H, left.Alike right → (change left).Alike (change right)
  | _ => True

theorem World.Parallel.finishFrame {H : Type} [ReflectionHost H] {left right : World H}
    (parallel : left.Parallel right) (caller : Caller) (number : Nat) :
    (left.finishFrame caller number).Parallel (right.finishFrame caller number) := by
  cases caller with
  | elsewhere => exact parallel.tick.fire _
  | gameThread =>
      obtain ⟨left', right', answer, leftRetried, rightRetried, retried⟩ := parallel.retryPending
      unfold World.finishFrame
      rw [leftRetried, rightRetried]
      cases answer with
      | error fault => exact retried
      | ok done => exact retried.tick.fire _

namespace Session

variable {H : Type}

/-- The sessions differ in their listeners alone. -/
abbrev Abreast [ReflectionHost H] (left right : Session H) : Prop :=
  GameLoop.Abreast World.Parallel Work.Tells left right

variable [ReflectionHost H]

namespace Abreast

variable {left right : Session H} (abreast : left.Abreast right)

include abreast

theorem withWorlds {leftWorld rightWorld : World H} (parallel : leftWorld.Parallel rightWorld) :
    Abreast { left with world := leftWorld } { right with world := rightWorld } :=
  ⟨abreast.scheduler, parallel, abreast.queue⟩

theorem queue_both (kind : TaskKind) (work : Work) :
    (left.queue kind work).Abreast (right.queue kind work) :=
  World.lockstep_parallel.post abreast ⟨⟨fun _ => rfl, trivial⟩, trivial⟩

theorem reroute (operation : String) (kind : TaskKind) (work : Work) :
    (left.reroute operation kind work).Abreast (right.reroute operation kind work) :=
  queue_both (abreast.withWorlds (abreast.world.note _ _)) kind work

theorem receive (now : Nat) (frame : Bytes) :
    (left.receive now frame).1.Abreast (right.receive now frame).1 := by
  cases listens : right.world.channel.closed with
  | true =>
      rw [receive_of_closed listens, receive_of_closed (abreast.world.channel ▸ listens)]
      exact abreast
  | false =>
      have also : left.world.channel.closed = false := abreast.world.channel ▸ listens
      cases checked : accept right.world.settings.replication frame with
      | error error =>
          rw [receive_of_refusal listens now checked,
            receive_of_refusal also now (abreast.world.settings ▸ checked)]
          exact abreast.withWorlds (abreast.world.countReceived.reject now error)
      | ok message =>
          rw [receive_of_accept listens now checked,
            receive_of_accept also now (abreast.world.settings ▸ checked)]
          exact queue_both (abreast.withWorlds abreast.world.countReceived) _ _

theorem carryOut (caller : Caller) (operation : String) (job : Job) :
    (left.carryOut caller operation job).1.Abreast (right.carryOut caller operation job).1 := by
  cases caller with
  | gameThread => exact abreast.withWorlds (abreast.world.perform job.work)
  | elsewhere => exact abreast.reroute _ _ _

theorem mutate (caller : Caller) (mutation : Mutation) :
    (left.mutate caller mutation).1.Abreast (right.mutate caller mutation).1 := by
  rw [mutate_eq, mutate_eq, abreast.world.replica]
  split
  · exact abreast.carryOut _ _ _
  · exact abreast

theorem sendLocal (caller : Caller) (state : AvatarState) :
    (left.sendLocal caller state).1.Abreast (right.sendLocal caller state).1 := by
  unfold Session.sendLocal updateLocal
  rw [abreast.world.channel, abreast.world.replica]
  split
  · exact abreast
  · cases right.world.replica.localEntity with
    | none => exact abreast
    | some id =>
        cases state.isValid with
        | false => exact abreast
        | true =>
            cases caller with
            | gameThread =>
                have written := (abreast.world.writeRow id (state.withId id)).enqueue
                  (.humanUpdate (state.withId id))
                exact abreast.withWorlds written
            | elsewhere =>
                have posted := abreast.reroute "Replica.updateLocal" (.localAvatarUpdate id)
                  (.writeRow id (state.withId id))
                have queued := posted.world.enqueue (.humanUpdate (state.withId id))
                exact withWorlds posted queued

theorem poll : left.poll.1.Abreast right.poll.1 :=
  abreast.withWorlds (abreast.world.change (fun core =>
    { core with channel := core.channel.poll.1 }) rfl rfl rfl rfl)

theorem runFrame (caller : Caller) (number : Nat) :
    (left.runFrame caller number).1.Abreast (right.runFrame caller number).1 := by
  have drained := (World.lockstep_parallel.drain abreast caller).1
  rw [runFrame_eq, runFrame_eq]
  exact withWorlds drained (drained.world.finishFrame caller number)

theorem retryPending (caller : Caller) :
    (left.retryPending caller).1.Abreast (right.retryPending caller).1 := by
  cases caller with
  | gameThread => exact abreast.withWorlds abreast.world.retryPending.parallel
  | elsewhere => exact abreast

/-- Nothing is left on either side. -/
theorem shutDown (caller : Caller) :
    (left.shutDown caller).Abreast (right.shutDown caller) := by
  have stopped := World.lockstep_parallel.shutDown (abreast.withWorlds abreast.world.close)
  have drained : Abreast (lastDrain (GameLoop.shutDown (left.mapWorld (·.close))) caller)
      (lastDrain (GameLoop.shutDown (right.mapWorld (·.close))) caller) := by
    cases caller with
    | gameThread =>
        have ran := (World.lockstep_parallel.drain stopped .gameThread).1
        exact withWorlds ran (ran.world.note _ _)
    | elsewhere => exact withWorlds stopped (stopped.world.note _ _)
  refine withWorlds drained ⟨?_, drained.world.left.clear, drained.world.right.clear⟩
  exact congrArg (fun core : Core H =>
    { core with
      replica := core.replica.clear
      channel := core.channel.clear
      registry := core.registry.forget }) drained.world.core

/-- An operation that both sessions take leaves them abreast, unless it concerns the
listeners. -/
theorem operate {operation : Operation H} (tame : operation.Tame)
    (common : operation.isListening = false) :
    (left.operate operation).Abreast (right.operate operation) := by
  cases operation with
  | receive now frame => exact abreast.receive now frame
  | mutate caller mutation => exact abreast.mutate caller mutation
  | setLocalEntity id => exact abreast.withWorlds (abreast.world.setLocalEntity id)
  | sendLocal caller state => exact abreast.sendLocal caller state
  | sendChat text => exact abreast.withWorlds (abreast.world.sendChat text)
  | poll => exact abreast.poll
  | post caller kind body =>
      exact World.lockstep_parallel.handTo caller
        (fun _ _ abreast => World.lockstep_parallel.post abreast tame) abreast
  | drain caller => exact (World.lockstep_parallel.drain abreast caller).1
  | retryPending caller => exact abreast.retryPending caller
  | tick => exact abreast.withWorlds abreast.world.tick
  | fire signal => exact abreast.withWorlds (abreast.world.fire signal)
  | runFrame caller number => exact abreast.runFrame caller number
  | listen listener => cases common
  | unlisten key => cases common
  | bridge change => exact abreast.withWorlds (abreast.world.withBridge tame)
  | close => exact abreast.withWorlds abreast.world.close
  | clearChannel =>
      exact abreast.withWorlds (abreast.world.change (fun core =>
        { core with channel := core.channel.clear }) rfl rfl rfl rfl)
  | clearReplica =>
      exact abreast.withWorlds (abreast.world.change (fun core =>
        { core with replica := core.replica.clear }) rfl rfl rfl rfl)
  | clearListeners => cases common
  | stop caller =>
      exact World.lockstep_parallel.handTo caller
        (fun _ _ abreast => World.lockstep_parallel.shutDown abreast) abreast
  | shutDown caller => exact abreast.shutDown caller

/-- An operation on the listeners of one session is nothing to the other. -/
theorem listening_left {operation : Operation H} (tame : operation.Tame)
    (listening : operation.isListening = true) : (left.operate operation).Abreast right := by
  cases operation with
  | listen listener =>
      exact ⟨abreast.scheduler, ⟨abreast.world.core, abreast.world.left.add tame,
        abreast.world.right⟩, abreast.queue⟩
  | unlisten key =>
      exact ⟨abreast.scheduler, ⟨abreast.world.core, abreast.world.left.remove key,
        abreast.world.right⟩, abreast.queue⟩
  | clearListeners =>
      exact ⟨abreast.scheduler, ⟨abreast.world.core, abreast.world.left.clear,
        abreast.world.right⟩, abreast.queue⟩
  | _ => cases listening

/-- The operations on the listeners can be left out. -/
theorem operateAll_left {operations : List (Operation H)}
    (tame : ∀ operation ∈ operations, operation.Tame) :
    (left.operateAll operations).Abreast
      (right.operateAll (operations.filter (!·.isListening))) := by
  induction operations generalizing left right with
  | nil => exact abreast
  | cons operation rest ih =>
      obtain ⟨first, later⟩ := List.forall_mem_cons.mp tame
      cases kind : operation.isListening with
      | true =>
          rw [List.filter_cons_of_neg (by simp [kind])]
          exact ih (abreast.listening_left first kind) later
      | false =>
          rw [List.filter_cons_of_pos (by simp [kind])]
          exact ih (abreast.operate first kind) later

end Abreast

/-- Two runs from one start that differ only in which listeners are registered and removed, and
when, end with the same queue and its counters, the same replica with what waits for the host,
the same channel with its early updates, their ages, its counters and the frames to be sent, and
the same host, which has taken the same calls if it records them.  The listeners may be of any
kinds and unwind at any call, within a task or out of a frame; only they must not answer through
the session.  That holds after every step, for the operations may end anywhere. -/
theorem run_apart_from_listeners (host : CountedHost H) (report : Report) (settings : Settings)
    (left right : List (Operation H))
    (leftTame : ∀ operation ∈ left, operation.Tame)
    (rightTame : ∀ operation ∈ right, operation.Tame)
    (same : left.filter (!·.isListening) = right.filter (!·.isListening)) :
    let start : Session H := .start host report settings
    (start.operateAll left).scheduler = (start.operateAll right).scheduler ∧
      (start.operateAll left).world.core = (start.operateAll right).world.core := by
  intro start
  have abreast : start.Abreast start :=
    ⟨rfl, ⟨rfl, Listeners.silent_empty, Listeners.silent_empty⟩, nofun⟩
  have leftApart := abreast.operateAll_left leftTame
  have rightApart := abreast.operateAll_left rightTame
  rw [same] at leftApart
  exact ⟨leftApart.scheduler.trans rightApart.scheduler.symm,
    leftApart.world.core.trans rightApart.world.core.symm⟩

/-- One run has listeners that unwind in the task of a spawn, in that of a chat line and out of
the frame itself; in the other there is none, and its frame comes to an end. -/
theorem run_apart_from_unwinding_listeners :
    let host : CountedHost (Recorded (Loaded TableStore)) := { store := { store := { table := {} } } }
    let frame (message : Message) := message.encode.toOption.getD []
    let unwinding (kind : SignalKind) : Operation (Recorded (Loaded TableStore)) :=
      .listen { kind, reaction := .record kind.name, panics := fun _ => true }
    let common : List (Operation (Recorded (Loaded TableStore))) :=
      [ .receive 0 (frame (.humanUpdate (.resting 7))), .receive 1 (frame (.chat "hello"))
      , .receive 2 (frame (.humanSpawn (.resting 7))), .runFrame .gameThread 1 ]
    let listening := [.spawned, .chat, .frame].map unwinding ++ common
    let start : Session (Recorded (Loaded TableStore)) := .start host {} {}
    (start.operateAll listening).world.events =
        [.heard "chat" (.chat "hello"), .heard "spawned" (.spawned 7), .heard "frame" (.frame 1)] ∧
      (start.operateAll common).world.events = [] ∧
      (start.operateAll listening).scheduler = (start.operateAll common).scheduler ∧
      (start.operateAll listening).world.core = (start.operateAll common).world.core := by
  intro host frame unwinding common listening start
  have commonTame : ∀ operation ∈ common, operation.Tame := by
    simp [common, Operation.Tame]
  have listeningTame : ∀ operation ∈ listening, operation.Tame := by
    simp [listening, common, unwinding, Operation.Tame, Reaction.answers]
  exact ⟨by decide +kernel, by decide +kernel,
    run_apart_from_listeners host {} {} listening common listeningTame commonTame rfl⟩

end Session

end ReplicaBridge
