/-
Module: ReplicaBridge.Proofs.Hearing
Purpose: What the listeners of a world get to hear.  What lies neither in the replica nor on
  the way into the host is left alone by most of what a session does; so listeners and events
  change when a signal fires and at no other time, and the work of a task fires one signal at
  most, which follows from the work and from whether the entity it names has a row.
Main exports: World.Aside, World.ears, World.ears_retryPending, Work.signal?, World.hasRow,
  World.Tells, World.Hears, World.tells_perform
-/
import ReplicaBridge.Session

namespace ReplicaBridge

open Host (ReflectionHost)

/-! ### What the replica and the host do not touch -/

namespace World

variable {H β : Type}

/-- What is observed of a world lies neither in its replica nor on its way into the host. -/
structure Aside (observe : World H → β) : Prop where
  bridge : ∀ world bridge, observe { world with bridge } = observe world
  replica : ∀ world replica, observe { world with replica } = observe world

namespace Aside

variable {observe : World H → β} (aside : Aside observe)

include aside

theorem observe_note (world : World H) (notice : Notice) :
    observe (world.note notice) = observe world :=
  aside.bridge world _

theorem observe_noteIf (world : World H) (condition : Bool) (notice : Notice) :
    observe (world.noteIf condition notice) = observe world := by
  cases condition with
  | false => rfl
  | true => exact aside.observe_note world notice

theorem observe_setLocalEntity (world : World H) (id : EntityId) :
    observe (world.setLocalEntity id) = observe world :=
  (aside.observe_noteIf _ _ _).trans (aside.replica world _)

theorem observe_spawn (world : World H) (id : EntityId) (state : AvatarState) :
    observe (world.spawn id state).1 = observe world := by
  unfold spawn
  split
  · exact (aside.observe_note _ _).trans (aside.replica world _)
  · rfl

theorem observe_applyUpdate (world : World H) (id : EntityId) (state : AvatarState) :
    observe (world.applyUpdate id state).1 = observe world := by
  unfold applyUpdate
  split
  · exact aside.replica world _
  · rfl

theorem observe_despawn (world : World H) (id : EntityId) :
    observe (world.despawn id).1 = observe world :=
  (aside.observe_noteIf _ _ _).trans (aside.replica world _)

theorem observe_deferOrDrop (world : World H) (error : CallError)
    (change : PendingEffects → PendingEffects) :
    observe (world.deferOrDrop error change) = observe world := by
  unfold deferOrDrop
  split
  · exact (aside.replica _ _).trans (aside.observe_note world _)
  · exact aside.observe_note world _

theorem observe_noteSchedulerCount (world : World H) (count : Nat) :
    observe (world.noteSchedulerCount count) = observe world := by
  unfold noteSchedulerCount
  split
  · exact (aside.observe_note _ _).trans (aside.replica world _)
  · rfl

variable [ReflectionHost H]

theorem observe_callSetSeason (world : World H) (season : Season) :
    observe (world.callSetSeason season).1 = observe world :=
  aside.bridge world _

theorem observe_callAdvanceHours (world : World H) (hours : Int32) :
    observe (world.callAdvanceHours hours).1 = observe world :=
  aside.bridge world _

theorem observe_applySeason (world : World H) (season : Season) :
    observe (world.applySeason season).1 = observe world := by
  unfold applySeason
  extract_lets replica taken
  have set : observe taken = observe world :=
    (aside.replica _ _).trans ((aside.observe_note _ _).trans (aside.replica world _))
  have called := aside.observe_callSetSeason taken season
  rw [set] at called
  split <;> (rename_i answered; rw [answered] at called)
  · exact called
  · exact called
  · exact (aside.observe_deferOrDrop _ _ _).trans called

theorem observe_advanceHours (world : World H) (hours : Int32) :
    observe (world.advanceHours hours).1 = observe world := by
  unfold advanceHours
  extract_lets clock replica advanced
  have set : observe advanced = observe world :=
    (aside.observe_note _ _).trans (aside.replica world _)
  have called := aside.observe_callAdvanceHours advanced hours
  rw [set] at called
  split
  · split <;> (rename_i answered; rw [answered] at called)
    · exact (aside.observe_noteSchedulerCount _ _).trans called
    · exact called
    · exact (aside.observe_deferOrDrop _ _ _).trans called
  · exact (aside.replica _ _).trans set

theorem observe_receiveSeason (world : World H) (value : UInt8) :
    observe (world.receiveSeason value).1 = observe world := by
  unfold receiveSeason
  split
  · exact aside.observe_applySeason world _
  · exact aside.observe_note world _

theorem observe_retrySeason (world : World H) : observe world.retrySeason.1 = observe world := by
  unfold retrySeason
  split
  · rfl
  · rename_i season waits
    have called := aside.observe_callSetSeason world season
    dsimp only
    split <;> (rename_i answered; rw [answered] at called)
    · exact (aside.replica _ _).trans ((aside.observe_note _ _).trans called)
    · exact called
    · split
      · exact called
      · exact (aside.replica _ _).trans ((aside.observe_note _ _).trans called)

theorem observe_replayHours (waiting : List Int32) (world : World H) :
    observe (replayHours waiting world).1 = observe world := by
  induction waiting generalizing world with
  | nil => exact aside.replica world _
  | cons hours rest ih =>
      have called := aside.observe_callAdvanceHours world hours
      simp only [replayHours]
      split <;> (rename_i answered; rw [answered] at called)
      · exact (ih _).trans ((aside.observe_noteSchedulerCount _ _).trans called)
      · exact (aside.replica _ _).trans called
      · split
        · exact (aside.replica _ _).trans called
        · exact (aside.replica _ _).trans ((aside.observe_note _ _).trans called)

theorem observe_retryPending (world : World H) : observe world.retryPending.1 = observe world := by
  have season := aside.observe_retrySeason world
  unfold retryPending
  split
  · rename_i after fault unwound
    rw [unwound] at season
    exact season
  · rename_i after done
    rw [done] at season
    exact (aside.observe_replayHours _ after).trans season

end Aside

end World

/-! ### The ears of a world -/

namespace World

variable {H : Type}

/-- The listeners of a world and what they made of the signals so far. -/
def ears (world : World H) : Listeners × List Event :=
  (world.listeners, world.events)

theorem aside_ears : Aside (ears : World H → Listeners × List Event) where
  bridge _ _ := rfl
  replica _ _ := rfl

@[simp] theorem ears_noteIf (world : World H) (condition : Bool) (notice : Notice) :
    (world.noteIf condition notice).ears = world.ears :=
  aside_ears.observe_noteIf world condition notice

@[simp] theorem ears_spawn (world : World H) (id : EntityId) (state : AvatarState) :
    (world.spawn id state).1.ears = world.ears :=
  aside_ears.observe_spawn world id state

@[simp] theorem ears_applyUpdate (world : World H) (id : EntityId) (state : AvatarState) :
    (world.applyUpdate id state).1.ears = world.ears :=
  aside_ears.observe_applyUpdate world id state

@[simp] theorem ears_despawn (world : World H) (id : EntityId) :
    (world.despawn id).1.ears = world.ears :=
  aside_ears.observe_despawn world id

@[simp] theorem ears_tick (world : World H) : world.tick.ears = world.ears :=
  ears_noteIf _ _ _

@[simp] theorem ears_setLocalEntity (world : World H) (id : EntityId) :
    (world.setLocalEntity id).ears = world.ears :=
  aside_ears.observe_setLocalEntity world id

@[simp] theorem ears_close (world : World H) : world.close.ears = world.ears :=
  ears_noteIf _ _ _

@[simp] theorem ears_reject (world : World H) (now : Nat) (error : ChannelError) :
    (world.reject now error).ears = world.ears := by
  unfold reject
  dsimp only
  split
  · exact ears_close _
  · rfl

@[simp] theorem ears_enqueue (world : World H) (message : Wire.Message) :
    (world.enqueue message).1.ears = world.ears := by
  unfold enqueue
  split <;> rfl

@[simp] theorem ears_receiveUpdate (world : World H) (state : AvatarState) :
    (world.receiveUpdate state).ears = world.ears := by
  have updated := ears_applyUpdate world state.id state
  unfold receiveUpdate
  split <;> (rename_i answered; rw [answered] at updated; exact updated)

@[simp] theorem ears_retryPending [ReflectionHost H] (world : World H) :
    world.retryPending.1.ears = world.ears :=
  aside_ears.observe_retryPending world

end World

/-! ### The signal of a task -/

/-- The signal that work fires, if it fires one: `rows` says which entities have a row. -/
def Work.signal? (rows : EntityId → Bool) : Work → Option Signal
  | .receiveSpawn state => if state.isValid then some (.spawned state.id) else none
  | .receiveDespawn id => if rows id then some (.despawned id) else none
  | .receiveChat text => some (.chat text)
  | _ => none

/-- No work fires the signal of a frame. -/
theorem Work.kind_signal? {rows : EntityId → Bool} {work : Work} {signal : Signal}
    (fires : work.signal? rows = some signal) : signal.kind ≠ .frame := by
  unfold Work.signal? at fires
  split at fires
  · split at fires <;> cases fires
    nofun
  · split at fires <;> cases fires
    nofun
  · cases fires
    nofun
  · cases fires

namespace World

variable {H : Type}

/-- The entity has a row. -/
def hasRow (world : World H) (id : EntityId) : Bool :=
  world.replica.rows.contains id

/-- From one world to another nothing reaches the ears but the given signal, if there is
one. -/
def Tells (signal : Option Signal) (before after : World H) : Prop :=
  ∃ quiet : World H, quiet.ears = before.ears ∧
    after.ears = (signal.elim quiet fun signal => (quiet.fire signal).1).ears

theorem Tells.silent {before after : World H} (same : after.ears = before.ears) :
    before.Tells none after :=
  ⟨before, rfl, same⟩

theorem Tells.fired {before quiet : World H} (same : quiet.ears = before.ears)
    (signal : Signal) : before.Tells (some signal) (quiet.fire signal).1 :=
  ⟨quiet, same, rfl⟩

theorem tells_receiveSpawn (world : World H) (state : AvatarState) :
    world.Tells (if state.isValid then some (.spawned state.id) else none)
      (world.receiveSpawn state).1 := by
  have spawned := ears_spawn world state.id state
  unfold receiveSpawn
  by_cases valid : state.isValid = true
  · rw [if_pos valid]
    split
    · rename_i after error refused
      simp [spawn, valid] at refused
    · rename_i after done
      rw [done] at spawned
      dsimp only
      split
      · refine .fired ?_ _
        exact spawned
      · rename_i update held
        have updated := ears_applyUpdate
          { after with channel := { after.channel with
              early := (after.channel.early.take state.id).1 } }
          state.id update
        split <;> (rename_i answered; rw [answered] at updated; refine .fired ?_ _)
        · exact updated.trans spawned
        · exact updated.trans spawned
  · rw [if_neg valid]
    split
    · rename_i after error refused
      rw [refused] at spawned
      exact .silent spawned
    · rename_i after done
      simp [spawn, valid] at done

/-- Removing a row says whether there was one. -/
theorem despawn_snd (world : World H) (id : EntityId) :
    (world.despawn id).2 = world.hasRow id := rfl

@[simp] theorem hasRow_noteIf (world : World H) (condition : Bool) (notice : Notice) :
    (world.noteIf condition notice).hasRow = world.hasRow := by
  cases condition <;> rfl

/-- What is fired once the row of an entity was removed, if there was one. -/
def tellDespawn (id : EntityId) : World H × Bool → World H × Except Fault Unit
  | (world, true) => world.fire (.despawned id)
  | (world, false) => (world, .ok ())

theorem tells_receiveDespawn (world : World H) (id : EntityId) :
    world.Tells (if world.hasRow id then some (.despawned id) else none)
      (world.receiveDespawn id).1 := by
  let discarded : World H :=
    ({ world with channel := { world.channel with
        early := (world.channel.early.discard id).1 } } : World H).noteIf
      (world.channel.early.discard id).2 (.bufferedUpdateDropped id)
  have despawned : (discarded.despawn id).1.ears = world.ears :=
    (ears_despawn discarded id).trans (ears_noteIf _ _ _)
  have removed : (discarded.despawn id).2 = world.hasRow id :=
    (despawn_snd discarded id).trans (congrFun (hasRow_noteIf _ _ _) id)
  change world.Tells _ (tellDespawn id (discarded.despawn id)).1
  rw [← removed]
  clear removed
  generalize discarded.despawn id = answer at despawned ⊢
  obtain ⟨after, stood⟩ := answer
  cases stood with
  | true => exact .fired despawned _
  | false => exact .silent despawned

/-- From one world to another the ears take in the given signals one after another, and besides
them the signals of frames alone.  Listeners may be registered and removed in between. -/
inductive Hears : List Signal → World H → World H → Prop where
  | quiet {before after : World H} (same : after.ears = before.ears) : Hears [] before after
  | fire (signal : Signal) (world : World H) : Hears [signal] world (world.fire signal).1
  | frame (number : Nat) (world : World H) : Hears [] world (world.fire (.frame number)).1
  | listen (listener : Listener) (world : World H) :
      Hears [] world { world with listeners := (world.listeners.add listener).1 }
  | unlisten (key : ListenerKey) (world : World H) :
      Hears [] world { world with listeners := (world.listeners.remove key).1 }
  | append {earlier later : List Signal} {before middle after : World H}
      (first : Hears earlier before middle) (second : Hears later middle after) :
      Hears (earlier ++ later) before after

theorem Tells.hears {signal : Option Signal} {before after : World H}
    (tells : before.Tells signal after) : Hears signal.toList before after := by
  obtain ⟨quiet, unheard, ears⟩ := tells
  cases signal with
  | none => exact .quiet (ears.trans unheard)
  | some signal =>
      have fired := (Hears.quiet unheard).append (.fire signal quiet)
      simpa using fired.append (.quiet ears)

variable [ReflectionHost H]

/-- Whatever work does, its signal is all that reaches the ears; a note is left by the task
itself and is no signal. -/
theorem tells_perform {work : Work} (signals : ∀ label, work ≠ .note label) (world : World H) :
    world.Tells (work.signal? world.hasRow) (perform work world).1 := by
  cases work with
  | receiveSpawn state => exact tells_receiveSpawn world state
  | receiveDespawn id => exact tells_receiveDespawn world id
  | receiveUpdate state => exact .silent (ears_receiveUpdate world state)
  | receiveSeason value => exact .silent (aside_ears.observe_receiveSeason world value)
  | receiveChat text => exact .fired rfl _
  | applySeason season => exact .silent (aside_ears.observe_applySeason world season)
  | advanceHours hours => exact .silent (aside_ears.observe_advanceHours world hours)
  | spawn id state => exact .silent (ears_spawn world id state)
  | applyUpdate id state => exact .silent (ears_applyUpdate world id state)
  | despawn id => exact .silent (ears_despawn world id)
  | writeRow id state => exact .silent rfl
  | note label => exact absurd rfl (signals label)

end World

end ReplicaBridge
