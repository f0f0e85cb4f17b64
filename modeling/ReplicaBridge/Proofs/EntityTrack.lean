/-
Module: ReplicaBridge.Proofs.EntityTrack
Purpose: A world seen as one track for each entity, its row and the update held for it,
  before a backdrop of everything else that decides what happens.  Reports, listeners and
  what is sent have no part in it.  A job is about one entity at most, and what it does to
  that entity's track follows from the track alone.
Main exports: Track, Backdrop, World.view, World.view_fire, Deed, Track.after,
  World.Retracks, World.retracks_performJob
-/
import ReplicaBridge.Proofs.SessionRun

namespace ReplicaBridge

open Host (CountedHost ReflectionHost)

/-! ### Views -/

/-- What is known of one entity. -/
structure Track where
  row : Option AvatarState := none
  held : Option HeldUpdate := none
deriving DecidableEq

/-- What no job changes. -/
structure Footing where
  replication : ReplicationSettings
  reflection : ReflectionSettings
  localEntity : Option EntityId
  tick : Nat
  recentRejects : List Nat
  closed : Bool

/-- What decides the course of a world, its avatars apart. -/
structure Backdrop (H : Type) where
  footing : Footing
  host : CountedHost H
  registry : Registry
  gate : CallGate
  season : Season
  clock : Int64
  pending : PendingEffects
  manySchedulersNoted : Bool

/-- A world without its reports, its listeners and what it sends. -/
structure View (H : Type) where
  backdrop : Backdrop H
  rows : EntityMap AvatarState
  held : EntityMap HeldUpdate

namespace View

variable {H : Type}

def track (view : View H) (id : EntityId) : Track :=
  { row := view.rows.get? id, held := view.held.get? id }

/-- A view is known by its backdrop and its tracks. -/
theorem ext_track {left right : View H} (backdrop : left.backdrop = right.backdrop)
    (tracks : ∀ id, left.track id = right.track id) : left = right := by
  obtain ⟨leftBackdrop, leftRows, leftHeld⟩ := left
  obtain ⟨rightBackdrop, rightRows, rightHeld⟩ := right
  have rows : leftRows = rightRows :=
    EntityMap.ext fun id => congrArg Track.row (tracks id)
  have held : leftHeld = rightHeld :=
    EntityMap.ext fun id => congrArg Track.held (tracks id)
  cases backdrop
  rw [rows, held]

end View

namespace World

variable {H : Type}

def footing (world : World H) : Footing :=
  { replication := world.settings.replication
    reflection := world.settings.reflection
    localEntity := world.replica.localEntity
    tick := world.channel.tick
    recentRejects := world.channel.recentRejects
    closed := world.channel.closed }

def backdrop (world : World H) : Backdrop H :=
  { footing := world.footing
    host := world.bridge.host
    registry := world.bridge.registry
    gate := world.bridge.gate
    season := world.replica.season
    clock := world.replica.clock
    pending := world.replica.pending
    manySchedulersNoted := world.replica.manySchedulersNoted }

def view (world : World H) : View H :=
  { backdrop := world.backdrop
    rows := world.replica.rows
    held := world.channel.early.held }

/-- The track of an entity. -/
def track (world : World H) (id : EntityId) : Track :=
  world.view.track id

/-! ### What leaves the view alone -/

@[simp] theorem view_note (world : World H) (notice : Notice) :
    (world.note notice).view = world.view := rfl

@[simp] theorem view_noteIf (world : World H) (condition : Bool) (notice : Notice) :
    (world.noteIf condition notice).view = world.view := by
  cases condition <;> rfl

@[simp] theorem view_reportOn (world : World H) (thread : Caller) :
    (world.reportOn thread).view = world.view := rfl

@[simp] theorem view_tell (world : World H) (event : Event) :
    (world.tell event).view = world.view := rfl

@[simp] theorem view_hear (world : World H) (event : Schedule.QueueEvent) :
    (world.hear event).view = world.view := by
  cases event <;> rfl

@[simp] theorem view_enqueue (world : World H) (message : Wire.Message) :
    (world.enqueue message).1.view = world.view := by
  simp only [enqueue]
  split <;> rfl

@[simp] theorem view_sendChat (world : World H) (text : String) :
    (world.sendChat text).1.view = world.view := by
  simp only [sendChat]
  split
  · rfl
  · exact view_enqueue world _

@[simp] theorem view_react (signal : Signal) (reaction : Reaction) (world : World H) :
    (react signal reaction world).view = world.view := by
  cases reaction with
  | record label => rfl
  | forward => cases signal <;> rfl
  | reply opening =>
      cases signal with
      | chat text =>
          have sent := view_sendChat world (opening ++ text)
          simp only [react]
          split <;> simp_all
      | frame number => rfl
      | spawned id => rfl
      | despawned id => rfl

/-- What no reaction changes, no round of listeners does. -/
theorem observe_fireEach {α : Type} (observe : World H → α) (signal : Signal)
    (quiet : ∀ reaction world, observe (react signal reaction world) = observe world)
    (indices : List Nat) (listeners : Listeners) (world : World H) :
    observe (Listeners.fireEach signal (react signal) indices listeners world).1.2 =
      observe world := by
  induction indices generalizing listeners world with
  | nil => rfl
  | cons index rest ih =>
      unfold Listeners.fireEach
      split
      · exact ih listeners world
      · rename_i listener _
        split
        · exact quiet listener.reaction world
        · rw [ih, quiet]

@[simp] theorem view_fire (world : World H) (signal : Signal) :
    (world.fire signal).1.view = world.view := by
  have announced : ((announcement? signal).elim world world.note).view = world.view := by
    cases announcement? signal <;> rfl
  unfold fire Listeners.fire
  exact (observe_fireEach view signal (view_react signal) _ _ _).trans announced

end World

/-! ### Deeds -/

/-- What a job does to one entity. -/
inductive Deed where
  | spawn (state : AvatarState)
  | despawn
  | update (state : AvatarState)
  /-- The local player's avatar is written. -/
  | write (state : AvatarState)
deriving DecidableEq

/-- The entity that a job is about, and what it does to it. -/
def Job.deed? (job : Job) : Option (EntityId × Deed) :=
  match job.work with
  | .receiveSpawn state => some (state.id, .spawn state)
  | .receiveDespawn id => some (id, .despawn)
  | .receiveUpdate state => some (state.id, .update state)
  | .writeRow id state => some (id, .write state)
  | _ => none

theorem AvatarState.withId_self {state : AvatarState} {id : EntityId} (same : state.id = id) :
    state.withId id = state := by
  rw [← same]
  rfl

theorem Job.id_of_update {job : Job} {id : EntityId} {state : AvatarState}
    (about : job.deed? = some (id, .update state)) : state.id = id := by
  unfold Job.deed? at about
  split at about
  · cases about
  · cases about
  · cases about
    rfl
  · cases about
  · cases about

namespace Track

/-- The row that a spawn makes: the held update is applied to it at once, unless the entity
is the local player's. -/
def spawned (id : EntityId) (owned : Bool) (state : AvatarState) (held : Option HeldUpdate) :
    AvatarState :=
  match held with
  | some update =>
    if !owned && update.state.isValid then update.state.withId id else state.withId id
  | none => state.withId id

/-- The track of an entity after a deed in a frame; `owned` says whether the entity is the
local player's. -/
def after (id : EntityId) (owned : Bool) (tick : Nat) : Deed → Track → Track
  | .spawn state, track =>
    if state.isValid then { row := some (spawned id owned state track.held) } else track
  | .despawn, _ => {}
  | .update state, track =>
    if !owned && state.isValid then
      if track.row.isSome then { track with row := some (state.withId id) }
      else { track with held := some { tick, state } }
    else track
  | .write state, track => { track with row := some (state.withId id) }

/-- The track when frames have passed: an update that waited too long is dropped. -/
def aged (now maxAge : Nat) (track : Track) : Track :=
  { track with held := track.held.filter (EarlyUpdates.isFresh now maxAge) }

end Track

namespace World

variable {H : Type}

/-- The local player owns the entity. -/
def owns (world : World H) (id : EntityId) : Bool :=
  world.replica.localEntity == some id

/-- From one world to another nothing but the track of one entity may have changed. -/
structure Retracks (id : EntityId) (track : Track) (before after : World H) : Prop where
  backdrop : after.backdrop = before.backdrop
  own : after.track id = track
  others : ∀ other, other ≠ id → after.track other = before.track other

/-- What leaves the view alone may follow. -/
theorem Retracks.of_view {id : EntityId} {track : Track} {before middle after : World H}
    (changed : Retracks id track before middle) (quiet : after.view = middle.view) :
    Retracks id track before after where
  backdrop := (congrArg View.backdrop quiet).trans changed.backdrop
  own := (congrArg (View.track · id) quiet).trans changed.own
  others other different :=
    (congrArg (View.track · other) quiet).trans (changed.others other different)

/-- What leaves the view alone keeps every track. -/
theorem Retracks.quiet {before after : World H} (quiet : after.view = before.view)
    (id : EntityId) : Retracks id (before.track id) before after where
  backdrop := congrArg View.backdrop quiet
  own := congrArg (View.track · id) quiet
  others other _ := congrArg (View.track · other) quiet

theorem Retracks.trans {id : EntityId} {track final : Track} {before middle after : World H}
    (first : Retracks id track before middle) (second : Retracks id final middle after) :
    Retracks id final before after where
  backdrop := second.backdrop.trans first.backdrop
  own := second.own
  others other different :=
    (second.others other different).trans (first.others other different)

theorem Retracks.owns {id other : EntityId} {track : Track} {before after : World H}
    (changed : Retracks id track before after) : after.owns other = before.owns other :=
  congrArg (fun backdrop => backdrop.footing.localEntity == some other) changed.backdrop

section Changes

variable {id : EntityId} {track : Track} {before after : World H}
  (changed : Retracks id track before after)

include changed

theorem Retracks.writeRow (state : AvatarState) :
    Retracks id { track with row := some (state.withId id) } before
      (after.writeRow id state) := by
  rw [← changed.own]
  refine changed.trans ⟨rfl, ?_, ?_⟩
  · simp [World.track, view, View.track, World.writeRow, Replica.writeRow,
      EntityMap.get?_insert]
  · intro other different
    simp [World.track, view, View.track, World.writeRow, Replica.writeRow,
      EntityMap.get?_insert, Ne.symm different]

theorem Retracks.despawn :
    Retracks id { track with row := none } before (after.despawn id).1 := by
  have erased : Retracks id { after.track id with row := none } after
      { after with replica := (after.replica.despawn id).1 } := by
    constructor
    · rfl
    · simp [World.track, view, View.track, Replica.despawn, EntityMap.get?_erase]
    · intro other different
      simp [World.track, view, View.track, Replica.despawn, EntityMap.get?_erase,
        Ne.symm different]
  rw [← changed.own]
  apply changed.trans
  apply erased.of_view
  simp [World.despawn]

/-- The early update of the entity is taken away. -/
theorem Retracks.release (early : EarlyUpdates)
    (erased : early.held = after.channel.early.held.erase id) :
    Retracks id { track with held := none } before
      { after with channel := { after.channel with early } } := by
  rw [← changed.own]
  refine changed.trans ⟨rfl, ?_, ?_⟩
  · simp [World.track, view, View.track, erased, EntityMap.get?_erase]
  · intro other different
    simp [World.track, view, View.track, erased, EntityMap.get?_erase, Ne.symm different]

theorem Retracks.holdEarly (state : AvatarState) :
    Retracks id { track with held := some { tick := after.channel.tick, state } } before
      { after with channel := after.channel.holdEarly id state } := by
  rw [← changed.own]
  refine changed.trans ⟨rfl, ?_, ?_⟩
  · simp [World.track, view, View.track, Channel.holdEarly, EarlyUpdates.buffer,
      EntityMap.get?_insert]
  · intro other different
    simp [World.track, view, View.track, Channel.holdEarly, EarlyUpdates.buffer,
      EntityMap.get?_insert, Ne.symm different]

end Changes

/-! ### What messages do -/

/-- An update takes effect on a row that exists and is not the local player's. -/
theorem applyUpdate_eq (world : World H) (id : EntityId) (state : AvatarState) :
    world.applyUpdate id state =
      if state.isValid then
        if world.owns id then (world, .ok .ignoredLocal)
        else if (world.track id).row.isSome then (world.writeRow id state, .ok .applied)
        else (world, .ok .notSpawned)
      else (world, .error (.invalidAvatar id)) := by
  have present : (world.track id).row.isSome = world.replica.rows.contains id := rfl
  simp only [applyUpdate, owns, Replica.applyUpdate, Replica.authority]
  rw [present]
  simp only [beq_iff_eq]
  by_cases same : world.replica.localEntity = some id
  · simp only [if_pos same]
  · simp only [if_neg same]
    cases world.replica.rows.contains id with
    | true => rfl
    | false => rfl

theorem retracks_receiveUpdate (world : World H) (state : AvatarState) :
    Retracks state.id
      ((world.track state.id).after state.id (world.owns state.id) world.channel.tick
        (.update state)) world (world.receiveUpdate state) := by
  have same : Retracks state.id (world.track state.id) world world := Retracks.quiet rfl _
  simp only [receiveUpdate]
  rw [applyUpdate_eq]
  simp only [Track.after]
  cases world.owns state.id with
  | true =>
      cases state.isValid with
      | false => exact Retracks.quiet (view_note world _) _
      | true => exact same
  | false =>
      cases state.isValid with
      | false => exact Retracks.quiet (view_note world _) _
      | true =>
          cases (world.track state.id).row.isSome with
          | true => exact same.writeRow state
          | false => exact same.holdEarly state

theorem retracks_receiveDespawn (world : World H) (id : EntityId) :
    Retracks id {} world (world.receiveDespawn id).1 := by
  have same : Retracks id (world.track id) world world := Retracks.quiet rfl _
  have released := (same.release (world.channel.early.discard id).1 rfl).of_view
    (view_noteIf _ (world.channel.early.discard id).2 (.bufferedUpdateDropped id))
  have gone := released.despawn
  unfold receiveDespawn
  dsimp only
  split
  · rename_i after answered
    rw [answered] at gone
    exact gone.of_view (view_fire after _)
  · rename_i after answered
    rw [answered] at gone
    exact gone

/-- An update that was held reaches the row of a fresh spawn, unless the entity is the local
player's. -/
theorem Retracks.flush {id : EntityId} {row : AvatarState} {before after : World H}
    (spawned : Retracks id { row := some row } before after) (update : AvatarState) :
    Retracks id
      { row := some (if !before.owns id && update.isValid then update.withId id else row) }
      before
      (match after.applyUpdate id update with
        | (world, .ok _) => world.fire (.spawned id)
        | (world, .error error) =>
          (world.note (.bufferedUpdateFailed id error)).fire (.spawned id)).1 := by
  rw [applyUpdate_eq, spawned.owns, spawned.own]
  cases before.owns id with
  | true =>
      cases update.isValid with
      | false => exact spawned.of_view ((view_fire _ _).trans (view_note _ _))
      | true => exact spawned.of_view (view_fire _ _)
  | false =>
      cases update.isValid with
      | false => exact spawned.of_view ((view_fire _ _).trans (view_note _ _))
      | true => exact (spawned.writeRow update).of_view (view_fire _ _)

theorem retracks_receiveSpawn (world : World H) (state : AvatarState) :
    Retracks state.id
      ((world.track state.id).after state.id (world.owns state.id) world.channel.tick
        (.spawn state)) world (world.receiveSpawn state).1 := by
  have same : Retracks state.id (world.track state.id) world world := Retracks.quiet rfl _
  simp only [receiveSpawn, spawn]
  simp only [Track.after]
  by_cases valid : state.isValid = true
  · rw [if_pos valid, if_pos valid]
    dsimp only
    generalize settled : World.note { world with replica := world.replica.writeRow state.id state }
      (.avatarSpawned state.id (world.replica.authority state.id)
        (world.replica.rows.contains state.id)) = after
    have spawned : Retracks state.id
        { world.track state.id with row := some (state.withId state.id) } world after := by
      rw [← settled]
      exact (same.writeRow state).of_view (view_note _ _)
    have taken := spawned.release (after.channel.early.take state.id).1 rfl
    have early : (after.channel.early.take state.id).2 =
        (world.track state.id).held.map (·.state) :=
      congrArg (fun track => track.held.map (·.state)) spawned.own
    rw [early]
    cases (world.track state.id).held with
    | none => exact taken.of_view (view_fire _ _)
    | some update => exact taken.flush update.state
  · rw [if_neg valid, if_neg valid]
    exact Retracks.quiet (view_note world _) _

/-! ### What jobs do -/

section Jobs

variable [ReflectionHost H]

/-- Whether or not a job unwinds, it leaves the view that its work leaves. -/
theorem view_performJob (world : World H) (job : Job) :
    (world.performJob job).view = (world.perform job.work).1.view := by
  simp only [performJob]
  split
  · rename_i after answered
    rw [answered]
  · rename_i after fault answered
    rw [answered]
    exact view_hear after _

/-- A job that is about an entity changes no other track and nothing else. -/
theorem retracks_performJob {id : EntityId} {deed : Deed} {job : Job}
    (about : job.deed? = some (id, deed)) (world : World H) :
    Retracks id ((world.track id).after id (world.owns id) world.channel.tick deed) world
      (world.performJob job) := by
  have acted : Retracks id ((world.track id).after id (world.owns id) world.channel.tick deed)
      world (world.perform job.work).1 := by
    obtain ⟨kind, work⟩ := job
    cases work with
    | receiveSpawn state =>
        cases about
        exact retracks_receiveSpawn world state
    | receiveDespawn id =>
        cases about
        exact retracks_receiveDespawn world id
    | receiveUpdate state =>
        cases about
        exact retracks_receiveUpdate world state
    | writeRow id state =>
        cases about
        exact (Retracks.quiet rfl id).writeRow state
    | _ => cases about
  exact acted.of_view (view_performJob world job)

end Jobs

end World

end ReplicaBridge
