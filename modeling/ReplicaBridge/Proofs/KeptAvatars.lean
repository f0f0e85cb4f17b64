/-
Module: ReplicaBridge.Proofs.KeptAvatars
Purpose: Every avatar that a session keeps, as a row or as an early update, is kept under its
  own identity and is valid, whatever is asked of the session on any thread.  Rows are written
  on several ways, which judge a state at different times; of a queued local write that
  judgement is all that is left, so it is an invariant of the queue as well.
Main exports: AvatarState.KeptAs, World.WellKept, Work.Checked, Operation.Checked,
  World.wellKept_perform, Session.WellKept.operate, Session.wellKept_operateAll
-/
import ReplicaBridge.Proofs.Lasting
import ReplicaBridge.Proofs.ReplicaJobs

namespace ReplicaBridge

open Host (CountedHost Loaded ReflectionHost TableStore)
open Schedule (GameLoop Script)
open Wire (Message)

/-! ### Well-kept avatars -/

/-- An avatar can be kept under an identity: it is its own, and the avatar is valid. -/
def AvatarState.KeptAs (id : EntityId) (state : AvatarState) : Prop :=
  state.id = id ∧ state.isValid = true

/-- A valid state is kept under the identity that it is given. -/
theorem AvatarState.keptAs_withId {state : AvatarState} (valid : state.isValid = true)
    (id : EntityId) : (state.withId id).KeptAs id :=
  ⟨rfl, (state.isValid_withId id).trans valid⟩

/-- What is known of an entity is well kept: its row, and the update held for it. -/
structure Track.WellKept (id : EntityId) (track : Track) : Prop where
  row : ∀ state, track.row = some state → state.KeptAs id
  held : ∀ update, track.held = some update → update.state.KeptAs id

/-- Every row and every early update is well kept. -/
structure World.WellKept {H : Type} (world : World H) : Prop where
  rows : ∀ id state, world.replica.rows.get? id = some state → state.KeptAs id
  early : ∀ id update, world.channel.early.held.get? id = some update → update.state.KeptAs id

namespace Track.WellKept

variable {id : EntityId} {track : Track}

theorem empty (id : EntityId) : Track.WellKept id {} :=
  ⟨nofun, nofun⟩

theorem withRow (kept : track.WellKept id) {state : AvatarState} (fits : state.KeptAs id) :
    Track.WellKept id { track with row := some state } where
  row _ found := Option.some.inj found ▸ fits
  held := kept.held

theorem withHeld (kept : track.WellKept id) {update : HeldUpdate}
    (fits : update.state.KeptAs id) :
    Track.WellKept id { track with held := some update } where
  row := kept.row
  held _ found := Option.some.inj found ▸ fits

end Track.WellKept

/-- A local write is of a valid state; what comes from the server is judged as it arrives. -/
def Deed.Checked : Deed → Prop
  | .write state => state.isValid = true
  | _ => True

namespace Track

variable {id : EntityId} {track : Track}

/-- A fresh row is valid, whether or not a held update was applied to it. -/
theorem keptAs_spawned {state : AvatarState} (valid : state.isValid = true) (owned : Bool)
    (held : Option HeldUpdate) : (spawned id owned state held).KeptAs id := by
  unfold spawned
  split
  · split
    · rename_i update judged
      exact AvatarState.keptAs_withId (Bool.and_eq_true_iff.mp judged).2 id
    · exact AvatarState.keptAs_withId valid id
  · exact AvatarState.keptAs_withId valid id

/-- What a deed leaves of an entity is well kept; an update is held only under the identity
that it names. -/
theorem WellKept.after (kept : track.WellKept id) {deed : Deed} (checked : deed.Checked)
    (named : ∀ state, deed = .update state → state.id = id) (owned : Bool) (tick : Nat) :
    (track.after id owned tick deed).WellKept id := by
  cases deed with
  | spawn state =>
      simp only [Track.after]
      split
      · rename_i valid
        exact (WellKept.empty id).withRow (keptAs_spawned valid owned track.held)
      · exact kept
  | despawn => exact .empty id
  | update state =>
      simp only [Track.after]
      split
      · rename_i judged
        have valid : state.isValid = true := (Bool.and_eq_true_iff.mp judged).2
        split
        · exact kept.withRow (AvatarState.keptAs_withId valid id)
        · exact kept.withHeld ⟨named state rfl, valid⟩
      · exact kept
  | write state => exact kept.withRow (AvatarState.keptAs_withId checked id)

/-- Updates that waited too long are dropped, the others stay as they are. -/
theorem WellKept.aged (kept : track.WellKept id) (now maxAge : Nat) :
    (track.aged now maxAge).WellKept id where
  row := kept.row
  held update found := kept.held update (Option.filter_eq_some_iff.mp found).1

end Track

/-! ### Worlds -/

/-- A row is written outright with a valid state only; all other work judges its states when it
is performed. -/
def Work.Checked : Work → Prop
  | .writeRow _ state => state.isValid = true
  | _ => True

namespace World

variable {H : Type} {world after : World H}

theorem wellKept_iff : world.WellKept ↔ ∀ id, (world.track id).WellKept id :=
  ⟨fun kept id => ⟨kept.rows id, kept.early id⟩,
    fun kept => ⟨fun id => (kept id).row, fun id => (kept id).held⟩⟩

namespace WellKept

theorem of_tracks (kept : world.WellKept) (same : ∀ id, after.track id = world.track id) :
    after.WellKept :=
  wellKept_iff.mpr fun id => same id ▸ wellKept_iff.mp kept id

theorem of_view (kept : world.WellKept) (same : after.view = world.view) : after.WellKept :=
  kept.of_tracks fun id => congrArg (View.track · id) same

theorem of_undisturbed (kept : world.WellKept) (undisturbed : Undisturbed world after) :
    after.WellKept :=
  kept.of_tracks undisturbed.tracks

theorem of_footing (kept : world.WellKept) {change : Footing → Footing}
    (same : after.view = world.view.onFooting change) : after.WellKept :=
  kept.of_tracks fun id => (congrArg (View.track · id) same).trans rfl

/-- One track is well kept, and the others are those that were. -/
theorem of_retracks (kept : world.WellKept) {id : EntityId} {track : Track}
    (changed : Retracks id track world after) (fits : track.WellKept id) : after.WellKept := by
  refine wellKept_iff.mpr fun other => ?_
  rw [changed.track_eq other]
  split
  · rename_i same
    exact same ▸ fits
  · exact wellKept_iff.mp kept other

theorem of_aged (kept : world.WellKept) (aged : after.view = world.view.aged) :
    after.WellKept := by
  refine wellKept_iff.mpr fun id => ?_
  have passed : after.track id = _ :=
    (congrArg (View.track · id) aged).trans (world.view.track_aged id)
  rw [passed]
  exact (wellKept_iff.mp kept id).aged _ _

end WellKept

theorem WellKept.writeRow (kept : world.WellKept) {state : AvatarState}
    (valid : state.isValid = true) (id : EntityId) : (world.writeRow id state).WellKept :=
  kept.of_retracks ((Retracks.quiet rfl id).writeRow state)
    ((wellKept_iff.mp kept id).withRow (AvatarState.keptAs_withId valid id))

theorem WellKept.despawn (kept : world.WellKept) (id : EntityId) :
    (world.despawn id).1.WellKept :=
  kept.of_retracks (Retracks.quiet rfl id).despawn
    ⟨nofun, (wellKept_iff.mp kept id).held⟩

theorem wellKept_spawn (kept : world.WellKept) (id : EntityId) (state : AvatarState) :
    (world.spawn id state).1.WellKept := by
  simp only [spawn]
  split
  · rename_i valid
    exact (kept.writeRow valid id).of_view (view_note _ _)
  · exact kept

theorem wellKept_applyUpdate (kept : world.WellKept) (id : EntityId) (state : AvatarState) :
    (world.applyUpdate id state).1.WellKept := by
  rw [applyUpdate_eq]
  split
  · rename_i valid
    split
    · exact kept
    · split
      · exact kept.writeRow valid id
      · exact kept
  · exact kept

theorem wellKept_setLocalEntity (kept : world.WellKept) (id : EntityId) :
    (world.setLocalEntity id).WellKept :=
  kept.of_footing (view_setLocalEntity world id)

section Work

variable [ReflectionHost H]

/-- A job of the server's is judged when it is performed, and it is about the entity that its
state names. -/
theorem WellKept.deed (kept : world.WellKept) (job : Job) {id : EntityId} {deed : Deed}
    (about : job.deed? = some (id, deed)) (checked : deed.Checked) :
    (world.perform job.work).1.WellKept :=
  have performed := kept.of_retracks (retracks_performJob about world)
    ((wellKept_iff.mp kept id).after checked
      (fun _ updates => Job.id_of_update (updates ▸ about)) _ _)
  performed.of_view (view_performJob world job).symm

/-- Whatever work is performed, whether or not it unwinds. -/
theorem wellKept_perform (kept : world.WellKept) {work : Work} (checked : work.Checked) :
    (world.perform work).1.WellKept := by
  cases work with
  | receiveSpawn state =>
      exact kept.deed { kind := .spawn, work := .receiveSpawn state } rfl trivial
  | receiveDespawn id =>
      exact kept.deed { kind := .despawn, work := .receiveDespawn id } rfl trivial
  | receiveUpdate state =>
      exact kept.deed { kind := .avatarUpdate state.id, work := .receiveUpdate state } rfl trivial
  | receiveSeason value => exact kept.of_undisturbed (undisturbed_receiveSeason world value)
  | receiveChat text => exact kept.of_view (view_fire world _)
  | applySeason season => exact kept.of_undisturbed (undisturbed_applySeason world season)
  | advanceHours hours => exact kept.of_undisturbed (undisturbed_advanceHours world hours)
  | spawn id state => exact wellKept_spawn kept id state
  | applyUpdate id state => exact wellKept_applyUpdate kept id state
  | despawn id => exact kept.despawn id
  | writeRow id state => exact kept.writeRow checked id
  | note label => exact kept.of_view (view_tell world _)

/-- No checked work, no tick and nothing about the queue spoils what is kept. -/
theorem lasting_wellKept : Lasting Work.Checked fun world : World H => world.WellKept where
  perform checked kept := wellKept_perform kept checked
  unmoved unmoved kept := kept.of_tracks unmoved.tracks
  aged aged kept := kept.of_aged aged
  cleared kept := ⟨kept.rows, fun id _ found =>
    absurd ((EntityMap.get?_empty id).symm.trans found) nofun⟩

end Work

end World

/-! ### Sessions -/

/-- A task does checked work only. -/
def Work.AllChecked (task : Schedule.Task (Script Work)) : Prop :=
  task.work.Does Work.Checked

/-- Tasks that are posted do checked work only, and so do the tasks that they post. -/
def Operation.Checked {H : Type} : Operation H → Prop
  | .post _ kind body => Schedule.Task.Fits Work.AllChecked { kind, work := body }
  | _ => True

theorem Mutation.checked_job {mutation : Mutation} {owner : Option EntityId} {job : Job}
    (made : mutation.job owner = .ok job) : job.work.Checked := by
  cases mutation with
  | updateLocal state =>
      simp only [Mutation.job] at made
      split at made
      · cases made
      · split at made
        · rename_i valid
          cases made
          exact (state.isValid_withId _).trans valid
        · cases made
  | advanceHours hours | despawn id =>
      cases made
      trivial
  | _ =>
      simp only [Mutation.job] at made
      split at made <;> cases made
      trivial

theorem Work.covers_checked : Work.Covers Work.Checked where
  message message := by cases message <;> trivial
  mutation made := Mutation.checked_job made

namespace Session

variable {H : Type} {session after : Session H}

/-- What is kept is well kept, and what is queued does checked work only. -/
abbrev WellKept (session : Session H) : Prop :=
  GameLoop.Guarded World.WellKept Work.AllChecked session

namespace WellKept

variable (kept : session.WellKept)

include kept

theorem clearChannel : session.clearChannel.WellKept :=
  kept.of_scheduler rfl
    ⟨kept.world.rows, fun id _ found => absurd ((EntityMap.get?_empty id).symm.trans found) nofun⟩

theorem clearReplica : session.clearReplica.WellKept :=
  kept.of_scheduler rfl
    ⟨fun id _ found => absurd ((EntityMap.get?_empty id).symm.trans found) nofun,
      kept.world.early⟩

variable [ReflectionHost H]

/-- The despawns that wait still run at the end; then all is forgotten. -/
theorem shutDown (caller : Caller) : (session.shutDown caller).WellKept := by
  have lasting : World.Lasting Work.Checked fun world : World H => world.WellKept :=
    World.lasting_wellKept
  have stopped := lasting.keeps.shutDown (lasting.close kept)
  have drained : (lastDrain (GameLoop.shutDown (session.mapWorld (·.close))) caller).WellKept := by
    cases caller with
    | gameThread =>
        have drained := lasting.drain stopped .gameThread
        exact drained.of_scheduler rfl (drained.world.of_view (World.view_note _ _))
    | elsewhere => exact stopped.of_scheduler rfl (stopped.world.of_view (World.view_note _ _))
  have cleared := drained.clearChannel.clearReplica
  exact cleared.of_scheduler rfl ⟨cleared.world.rows, cleared.world.early⟩

/-- Whatever is asked of the session. -/
theorem operate {operation : Operation H} (checked : operation.Checked) :
    (session.operate operation).WellKept := by
  cases operation with
  | setLocalEntity id =>
      exact kept.of_scheduler rfl (World.wellKept_setLocalEntity kept.world id)
  | clearReplica => exact kept.clearReplica
  | shutDown caller => exact kept.shutDown caller
  | post caller kind body =>
      exact World.lasting_wellKept.operate kept Work.covers_checked checked rfl
  | _ => exact World.lasting_wellKept.operate kept Work.covers_checked trivial rfl

theorem operateAll {operations : List (Operation H)}
    (checked : ∀ operation ∈ operations, operation.Checked) :
    (session.operateAll operations).WellKept := by
  induction operations generalizing session with
  | nil => exact kept
  | cons operation rest ih =>
      obtain ⟨first, later⟩ := List.forall_mem_cons.mp checked
      exact ih (kept.operate first) later

end WellKept

theorem wellKept_start (host : CountedHost H) (report : Report) (settings : Settings) :
    (start host report settings).WellKept :=
  ⟨⟨fun id _ found => absurd ((EntityMap.get?_empty id).symm.trans found) nofun,
    fun id _ found => absurd ((EntityMap.get?_empty id).symm.trans found) nofun⟩, nofun⟩

variable [ReflectionHost H]

/-- Whatever is asked of a session from its start on, on any thread and with any states, every
row and every early update is kept under its own identity and is valid.  Tasks that are posted
may do anything but write a row outright with a state that was not found valid. -/
theorem wellKept_operateAll (host : CountedHost H) (report : Report) (settings : Settings)
    {operations : List (Operation H)} (checked : ∀ operation ∈ operations, operation.Checked) :
    ((start host report settings).operateAll operations).world.WellKept :=
  ((wellKept_start host report settings).operateAll checked).world

/-- Broken states leave nothing behind on either thread, and rows are kept under the identity
they were written for: a spawn from the game thread that names another one, a queued local
write, an early update that its spawn lets through, and a write in a task that drains. -/
theorem wellKept_operateAll_mixed :
    let host : CountedHost (Loaded TableStore) := { store := { table := {} } }
    let frame (message : Message) := message.encode.toOption.getD []
    let broken (id : EntityId) : AvatarState :=
      { AvatarState.resting id with orientation := { x := 0, y := 0, z := 0, w := 0 } }
    let moved (id : EntityId) : AvatarState := { AvatarState.resting id with input := 1 }
    let script : Script Work := .act (.writeRow 3 (.resting 9))
      (.act (.applyUpdate 3 (broken 3)) (.drain .gameThread .done))
    let operations : List (Operation (Loaded TableStore)) :=
      [ .receive 0 (frame (.humanUpdate (moved 5))), .receive 1 (frame (.humanUpdate (moved 6)))
      , .drain .gameThread, .receive 2 (frame (.humanSpawn (.resting 5)))
      , .mutate .elsewhere (.spawn 2 (broken 2)), .mutate .gameThread (.spawn 4 (.resting 8))
      , .setLocalEntity 7, .sendLocal .elsewhere (.resting 1)
      , .post .elsewhere .general script, .runFrame .gameThread 1 ]
    let session := (start host {} {}).operateAll operations
    (∀ operation ∈ operations, operation.Checked) ∧ session.world.WellKept ∧
      [2, 3, 4, 5, 6, 7].map session.world.replica.rows.get? =
        [none, some (.resting 3), some (.resting 4), some (moved 5), none, some (.resting 7)] ∧
      (session.world.channel.early.held.get? 6).map (·.state) = some (moved 6) := by
  intro host frame broken moved script operations session
  have valid : (AvatarState.resting 9).isValid = true := by decide +kernel
  have checked : ∀ operation ∈ operations, operation.Checked := by
    simp [operations, script, Operation.Checked, Schedule.Task.Fits, Work.AllChecked,
      Script.Does, Script.Posts, Work.Checked, valid]
  exact ⟨checked, wellKept_operateAll host {} {} checked, by decide +kernel, by decide +kernel⟩

end Session

end ReplicaBridge
