/-
Module: ReplicaBridge.Proofs.UnsupportedHost
Purpose: Which calls a session still makes once the host was found to be unsupported.  A
  fault or a layout that does not match closes the gate, and then there are none; a name
  that stands for something of another kind leaves the gate open, and calls go on.
Main exports: World.workPasses, Session.passes, StopsCalling, CallsAstray,
  Session.looks_step, Session.Holds.leads_run, Bridge.Advances
-/
import ReplicaBridge.Proofs.HostCalls
import ReplicaBridge.Proofs.InputEffects

namespace ReplicaBridge

open Host (CountedHost Loaded PropertyRecord Recorded ReflectionHost TableEntry TableStore)
open Schedule (Scheduler)
open Wire (Message)

/-! ### What a session passes through -/

namespace World

variable {H : Type} [ReflectionHost H]

/-- The states of the bridge while the host is switched to a season. -/
def callSetSeasonPasses (world : World H) (season : Season) : List (Bridge H) :=
  world.bridge.setCurrentSeasonPasses .gameThread
    world.settings.reflection.seasonChangerClass season

/-- The states of the bridge while the host's schedulers are advanced. -/
def callAdvanceHoursPasses (world : World H) (hours : Int32) : List (Bridge H) :=
  world.bridge.advanceHoursPasses .gameThread world.settings.reflection.schedulerClass hours

/-- The states of the bridge while an action is performed. -/
def workPasses (world : World H) (work : Work) : List (Bridge H) :=
  match work with
  | .receiveSeason value =>
    match Season.targetOfByte? value with
    | some season =>
      let noted := world.note (.seasonSet season)
      noted.bridge :: noted.callSetSeasonPasses season
    | none => []
  | .advanceHours hours =>
    if world.replica.pending.hours.isEmpty then
      let noted := world.note (.clockAdvanced hours (world.replica.clock + hours.toInt64))
      noted.bridge :: noted.callAdvanceHoursPasses hours
    else []
  | _ => []

/-- The states of the bridge while jobs are performed in order. -/
def queuePasses : List Job → World H → List (Bridge H)
  | [], _ => []
  | job :: rest, world =>
    world.workPasses job.work ++ (world.performJob job).bridge ::
      queuePasses rest (world.performJob job)

/-- The states of the bridge while waiting hours are replayed. -/
def replayHoursPasses : List Int32 → World H → List (Bridge H)
  | [], _ => []
  | hours :: rest, world =>
    world.callAdvanceHoursPasses hours ++
      match world.callAdvanceHours hours with
      | (called, .ok count) =>
        let noted := called.noteSchedulerCount count
        noted.bridge :: replayHoursPasses rest noted
      | (_, .error _) => []

/-- The states of the bridge while everything that waits for the host is tried. -/
def retryPasses (world : World H) : List (Bridge H) :=
  (match world.replica.pending.season with
  | some season => world.callSetSeasonPasses season
  | none => []) ++ world.retrySeason.1.bridge ::
    match world.retrySeason with
    | (retried, .ok ()) => replayHoursPasses retried.replica.pending.hours retried
    | (_, .error _) => []

end World

namespace Session

variable {H : Type} [ReflectionHost H]

/-- The states of the bridge while a session takes an input, when the jobs are queued. -/
def stepPasses (session : Session (Recorded H)) (jobs : List Job) (input : Input H) :
    List (Bridge (Recorded H)) :=
  (match input with
  | .runFrame .gameThread _ =>
    World.queuePasses jobs session.world ++ (session.world.performAll jobs).retryPasses
  | _ => []) ++ [(session.step input).world.bridge]

/-- The states of the bridge along a run. -/
def passes (session : Session (Recorded H)) (backlog : Scheduler Work) :
    List (Input H) → List (Bridge (Recorded H))
  | [] => []
  | input :: rest =>
    session.stepPasses backlog.queue input ++
      passes (session.step input) (input.reschedule (session.posted? input) backlog) rest

end Session

/-- Once the host counts as unsupported it is not called any more. -/
def StopsCalling {H : Type} (passes : List (Bridge (Recorded H))) : Prop :=
  passes.Pairwise fun earlier later => earlier.unsupported = true → later.calls = earlier.calls

instance {H : Type} (passes : List (Bridge (Recorded H))) : Decidable (StopsCalling passes) :=
  inferInstanceAs (Decidable (List.Pairwise _ passes))

/-- The host counted as unsupported while the gate was open, and then it was called. -/
def CallsAstray {H : Type} (passes : List (Bridge (Recorded H))) : Prop :=
  ∃ earlier later, [earlier, later].Sublist passes ∧ earlier.unsupported = true ∧
    earlier.gate.disabled = false ∧ later.calls ≠ earlier.calls

/-! ### Reports -/

/-- Something was reported, and nothing about the kind of the host. -/
structure Report.Grows (before after : Report) : Prop where
  journal : before.journal <+: after.journal
  unsupported : after.status.hostUnsupported = before.status.hostUnsupported

theorem Report.Grows.refl (report : Report) : report.Grows report :=
  ⟨List.prefix_refl _, rfl⟩

theorem Report.Grows.trans {before middle after : Report} (first : before.Grows middle)
    (second : middle.Grows after) : before.Grows after where
  journal := first.journal.trans second.journal
  unsupported := second.unsupported.trans first.unsupported

theorem Report.grows_note (report : Report) (notice : Notice) :
    report.Grows (report.note notice) :=
  ⟨List.prefix_append _ _, rfl⟩

theorem Report.grows_requestDisconnect (report : Report) (reason : String) :
    report.Grows (report.requestDisconnect reason) := by
  unfold requestDisconnect
  split
  · exact ⟨List.prefix_refl _, rfl⟩
  · exact ⟨List.prefix_append _ _, rfl⟩

namespace World

variable {H : Type}

/-- A world's report grew. -/
def Grows (before after : World H) : Prop :=
  before.bridge.report.Grows after.bridge.report

theorem Grows.of_bridge {before after : World H} (same : after.bridge = before.bridge) :
    before.Grows after := by
  simp only [Grows]
  rw [same]
  exact .refl _

theorem Grows.trans {before middle after : World H} (first : before.Grows middle)
    (second : middle.Grows after) : before.Grows after :=
  Report.Grows.trans first second

section Steps

variable {before after : World H} (grows : before.Grows after)

include grows

theorem Grows.note (notice : Notice) : before.Grows (after.note notice) :=
  Report.Grows.trans grows (Report.grows_note _ notice)

theorem Grows.noteIf (condition : Bool) (notice : Notice) :
    before.Grows (after.noteIf condition notice) := by
  cases condition with
  | false => exact grows
  | true => exact grows.note notice

theorem Grows.hear (event : Schedule.QueueEvent) : before.Grows (after.hear event) := by
  cases event with
  | nestedDrain executed => exact grows
  | _ => exact grows.note _

theorem Grows.spawn (id : EntityId) (state : AvatarState) :
    before.Grows (after.spawn id state).1 := by
  simp only [World.spawn]
  split
  · apply Grows.note
    exact grows
  · exact grows

theorem Grows.applyUpdate (id : EntityId) (state : AvatarState) :
    before.Grows (after.applyUpdate id state).1 := by
  simp only [World.applyUpdate]
  split <;> exact grows

theorem Grows.despawn (id : EntityId) : before.Grows (after.despawn id).1 := by
  unfold World.despawn
  apply Grows.noteIf
  exact grows

end Steps

theorem bridge_enqueue (world : World H) (message : Message) :
    (world.enqueue message).1.bridge = world.bridge := by
  simp only [enqueue]
  split <;> rfl

theorem bridge_sendChat (world : World H) (text : String) :
    (world.sendChat text).1.bridge = world.bridge := by
  simp only [sendChat]
  split
  · rfl
  · exact bridge_enqueue world _

theorem bridge_react (signal : Signal) (reaction : Reaction) (world : World H) :
    (react signal reaction world).bridge = world.bridge := by
  cases reaction with
  | record label => rfl
  | forward => cases signal <;> rfl
  | reply opening =>
      cases signal with
      | chat text =>
          have sent := bridge_sendChat world (opening ++ text)
          simp only [react]
          split
          · rename_i after answered
            rw [answered] at sent
            exact sent
          · rename_i after error answered
            rw [answered] at sent
            exact sent
      | _ => rfl

/-- Listeners report nothing of their own. -/
theorem Grows.fire {before after : World H} (grows : before.Grows after) (signal : Signal) :
    before.Grows (after.fire signal).1 := by
  have announced : before.Grows ((announcement? signal).elim after after.note) := by
    cases announcement? signal with
    | none => exact grows
    | some notice => exact grows.note notice
  refine announced.trans (.of_bridge ?_)
  exact observe_fireEach World.bridge signal (bridge_react signal) _ _ _

theorem grows_tick (world : World H) : world.Grows world.tick := by
  unfold tick
  apply Grows.noteIf
  exact .of_bridge rfl

theorem grows_setLocalEntity (world : World H) (id : EntityId) :
    world.Grows (world.setLocalEntity id) := by
  unfold setLocalEntity
  apply Grows.noteIf
  exact .of_bridge rfl

theorem grows_reject (world : World H) (now : Nat) (error : ChannelError) :
    world.Grows (world.reject now error) := by
  have noted : world.Grows (world.note (.messageDropped error)) :=
    Grows.note (.of_bridge rfl) _
  unfold reject
  dsimp only
  split
  · simp only [close]
    apply Grows.noteIf
    exact noted.trans (Report.grows_requestDisconnect _ _)
  · exact noted

theorem grows_refuseDrain (world : World H) : world.Grows world.refuseDrain := by
  have elsewhere : world.Grows (world.reportOn .elsewhere) := ⟨List.prefix_refl _, rfl⟩
  have heard := elsewhere.hear .drainRefused
  exact ⟨heard.journal, heard.unsupported⟩

/-! Messages about an avatar report at most what became of them. -/

theorem grows_receiveUpdate (world : World H) (state : AvatarState) :
    world.Grows (world.receiveUpdate state) := by
  have applied := Grows.applyUpdate (.refl world.bridge.report) state.id state
  simp only [receiveUpdate]
  split
  · rename_i after answered
    rw [answered] at applied
    exact applied
  · rename_i after outcome _ answered
    rw [answered] at applied
    exact applied
  · rename_i after error answered
    rw [answered] at applied
    exact applied.note _

theorem grows_receiveDespawn (world : World H) (id : EntityId) :
    world.Grows (world.receiveDespawn id).1 := by
  have gone (early : EarlyUpdates) (dropped : Bool) :
      world.Grows ((({ world with channel := { world.channel with early } }).noteIf dropped
        (.bufferedUpdateDropped id)).despawn id).1 := by
    apply Grows.despawn
    apply Grows.noteIf
    exact .of_bridge rfl
  have despawned := gone (world.channel.early.discard id).1 (world.channel.early.discard id).2
  unfold receiveDespawn
  dsimp only
  split
  · rename_i after answered
    rw [answered] at despawned
    exact despawned.fire _
  · rename_i after answered
    rw [answered] at despawned
    exact despawned

theorem grows_receiveSpawn (world : World H) (state : AvatarState) :
    world.Grows (world.receiveSpawn state).1 := by
  have spawned := Grows.spawn (.refl world.bridge.report) state.id state
  unfold receiveSpawn
  split
  · rename_i after error answered
    rw [answered] at spawned
    exact spawned.note _
  · rename_i after answered
    rw [answered] at spawned
    dsimp only
    split
    · apply Grows.fire
      exact spawned
    · rename_i update _
      have taken : world.Grows { after with
          channel := { after.channel with early := (after.channel.early.take state.id).1 } } :=
        spawned
      have applied := taken.applyUpdate state.id update
      split
      · rename_i answered
        rw [answered] at applied
        exact applied.fire _
      · rename_i answered
        rw [answered] at applied
        exact (applied.note _).fire _

end World

/-! ### What inputs lead to -/

namespace World

variable {H : Type}

open Bridge (Leads Looks)

/-- A change that touches neither the host nor the gate. -/
theorem Grows.looks {before after : World (Recorded H)} (grows : before.Grows after)
    (host : after.bridge.host = before.bridge.host)
    (gate : after.bridge.gate = before.bridge.gate) : Looks before.bridge after.bridge where
  calls := congrArg (·.store.calls) host
  gate := gate
  journal := grows.journal
  raised unsupported := grows.unsupported.trans unsupported
  cause unsupported := Or.inl (grows.unsupported.symm.trans unsupported)

theorem Grows.looks_of_backdrop {before after : World (Recorded H)} (grows : before.Grows after)
    (same : after.backdrop = before.backdrop) : Looks before.bridge after.bridge :=
  grows.looks (congrArg Backdrop.host same) (congrArg Backdrop.gate same)

theorem looks_deferOrDrop (world : World (Recorded H)) (error : CallError)
    (change : PendingEffects → PendingEffects) :
    Looks world.bridge (world.deferOrDrop error change).bridge := by
  simp only [deferOrDrop]
  split
  · exact Bridge.looks_note world.bridge _
  · exact Bridge.looks_note world.bridge _

theorem looks_noteSchedulerCount (world : World (Recorded H)) (count : Nat) :
    Looks world.bridge (world.noteSchedulerCount count).bridge := by
  simp only [noteSchedulerCount]
  split
  · exact Bridge.looks_note world.bridge _
  · exact .refl _

variable [ReflectionHost H]

theorem leads_callSetSeason (world : World (Recorded H)) (season : Season) :
    Leads world.bridge (world.callSetSeasonPasses season) (world.callSetSeason season).1.bridge :=
  Bridge.leads_setCurrentSeason world.bridge _ _ season

theorem leads_callAdvanceHours (world : World (Recorded H)) (hours : Int32) :
    Leads world.bridge (world.callAdvanceHoursPasses hours)
      (world.callAdvanceHours hours).1.bridge :=
  Bridge.leads_advanceHours world.bridge _ _ hours

/-! Nothing but notes follows a call. -/

theorem looks_applySeason (world : World (Recorded H)) (season : Season) :
    Looks ((world.note (.seasonSet season)).callSetSeason season).1.bridge
      (world.applySeason season).1.bridge := by
  generalize reached : ((world.note (.seasonSet season)).callSetSeason season).1.bridge = bridge
  unfold applySeason
  dsimp only
  split
  · rename_i after answered
    have same : after.bridge = bridge := (congrArg (·.1.bridge) answered).symm.trans reached
    rw [← same]
    exact .refl after.bridge
  · rename_i after fault answered
    have same : after.bridge = bridge := (congrArg (·.1.bridge) answered).symm.trans reached
    rw [← same]
    exact .refl after.bridge
  · rename_i after error answered
    have same : after.bridge = bridge := (congrArg (·.1.bridge) answered).symm.trans reached
    rw [← same]
    exact looks_deferOrDrop after error _

/-- Hours that queue behind earlier ones ask nothing of the host. -/
theorem leads_advanceHours (world : World (Recorded H)) (hours : Int32) :
    ∃ last, Leads world.bridge (world.workPasses (.advanceHours hours)) last ∧
      Looks last (world.advanceHours hours).1.bridge := by
  have noted := Bridge.looks_note world.bridge
    (.clockAdvanced hours (world.replica.clock + hours.toInt64))
  have called := leads_callAdvanceHours
    (world.note (.clockAdvanced hours (world.replica.clock + hours.toInt64))) hours
  unfold workPasses advanceHours
  dsimp only
  split
  · rename_i free
    refine ⟨_, .cons noted.moves called, ?_⟩
    generalize reached : ((world.note
      (.clockAdvanced hours (world.replica.clock + hours.toInt64))).callAdvanceHours
        hours).1.bridge = bridge
    split
    · split
      · rename_i after count answered
        have same : after.bridge = bridge := (congrArg (·.1.bridge) answered).symm.trans reached
        rw [← same]
        exact looks_noteSchedulerCount after count
      · rename_i after fault answered
        have same : after.bridge = bridge := (congrArg (·.1.bridge) answered).symm.trans reached
        rw [← same]
        exact .refl after.bridge
      · rename_i after error answered
        have same : after.bridge = bridge := (congrArg (·.1.bridge) answered).symm.trans reached
        rw [← same]
        exact looks_deferOrDrop after error _
    · rename_i busy
      exact absurd free busy
  · rename_i busy
    refine ⟨_, .nil _, ?_⟩
    split
    · rename_i free
      exact absurd free busy
    · exact noted

theorem looks_retrySeason (world : World (Recorded H)) {season : Season}
    (waits : world.replica.pending.season = some season) :
    Looks (world.callSetSeason season).1.bridge world.retrySeason.1.bridge := by
  simp only [retrySeason]
  rw [waits]
  dsimp only
  split
  · rename_i after answered
    rw [answered]
    exact Bridge.looks_note after.bridge _
  · rename_i after fault answered
    rw [answered]
    exact .refl after.bridge
  · rename_i after error answered
    rw [answered]
    split
    · exact .refl after.bridge
    · exact Bridge.looks_note after.bridge _

theorem leads_replayHours (waiting : List Int32) (world : World (Recorded H)) :
    ∃ last, Leads world.bridge (replayHoursPasses waiting world) last ∧
      Looks last (replayHours waiting world).1.bridge := by
  induction waiting generalizing world with
  | nil => exact ⟨world.bridge, .nil _, .refl _⟩
  | cons hours rest ih =>
      have called := leads_callAdvanceHours world hours
      simp only [replayHoursPasses, replayHours]
      rcases answered : world.callAdvanceHours hours with ⟨after, outcome⟩
      rw [answered] at called
      cases outcome with
      | ok count =>
          obtain ⟨last, leads, looks⟩ := ih (after.noteSchedulerCount count)
          have counted := looks_noteSchedulerCount after count
          exact ⟨last, called.append (.cons counted.moves leads), looks⟩
      | error halt =>
          refine ⟨after.bridge, called.append (.nil _), ?_⟩
          cases halt with
          | unwound fault => exact .refl after.bridge
          | refused error =>
              dsimp only
              split
              · exact .refl after.bridge
              · exact Bridge.looks_note after.bridge _

theorem leads_retryPending (world : World (Recorded H)) :
    ∃ last, Leads world.bridge world.retryPasses last ∧
      Looks last world.retryPending.1.bridge := by
  have tried : Leads world.bridge ((match world.replica.pending.season with
      | some season => world.callSetSeasonPasses season
      | none => []) ++ [world.retrySeason.1.bridge]) world.retrySeason.1.bridge := by
    cases waits : world.replica.pending.season with
    | some season =>
        exact (leads_callSetSeason world season).concat (looks_retrySeason world waits).moves
    | none =>
        have same : world.retrySeason.1 = world := by
          simp only [retrySeason]
          rw [waits]
        rw [same]
        exact .cons (Looks.refl _).moves (.nil _)
  simp only [retryPasses, retryPending]
  rw [List.append_cons]
  rcases answered : world.retrySeason with ⟨after, outcome⟩
  rw [answered] at tried
  cases outcome with
  | error fault => exact ⟨after.bridge, tried.append (.nil _), .refl _⟩
  | ok fine =>
      obtain ⟨last, leads, looks⟩ := leads_replayHours after.replica.pending.hours after
      exact ⟨last, tried.append leads, looks⟩

/-- What a job asks of the host. -/
theorem leads_perform {job : Job} (posted : Job.Posted job) (world : World (Recorded H)) :
    ∃ last, Leads world.bridge (world.workPasses job.work) last ∧
      Looks last (world.perform job.work).1.bridge := by
  cases posted with
  | localWrite id valid => exact ⟨_, .nil _, .refl _⟩
  | message valid =>
      rename_i message
      cases message with
      | humanSpawn state =>
          have changed := retracks_receiveSpawn world state
          exact ⟨_, .nil _, (grows_receiveSpawn world state).looks_of_backdrop changed.backdrop⟩
      | humanDespawn id =>
          have changed := retracks_receiveDespawn world id
          exact ⟨_, .nil _, (grows_receiveDespawn world id).looks_of_backdrop changed.backdrop⟩
      | humanUpdate state =>
          have changed := retracks_receiveUpdate world state
          exact ⟨_, .nil _,
            (grows_receiveUpdate world state).looks_of_backdrop changed.backdrop⟩
      | envSeason value =>
          change ∃ last, Leads world.bridge (world.workPasses (.receiveSeason value)) last ∧
            Looks last (world.receiveSeason value).1.bridge
          unfold workPasses receiveSeason
          dsimp only
          cases Season.targetOfByte? value with
          | none => exact ⟨_, .nil _, Bridge.looks_note world.bridge _⟩
          | some season =>
              have noted := Bridge.looks_note world.bridge (.seasonSet season)
              have called := leads_callSetSeason (world.note (.seasonSet season)) season
              exact ⟨_, .cons noted.moves called, looks_applySeason world season⟩
      | envClockAdvance hours => exact leads_advanceHours world hours
      | chat text =>
          have grows := Grows.fire (.refl world.bridge.report) (.chat text)
          exact ⟨_, .nil _,
            grows.looks_of_backdrop (congrArg View.backdrop (view_fire world _))⟩

theorem looks_performJob (world : World (Recorded H)) (job : Job) :
    Looks (world.perform job.work).1.bridge (world.performJob job).bridge := by
  simp only [performJob]
  split
  · rename_i after answered
    rw [answered]
    exact .refl after.bridge
  · rename_i after fault answered
    rw [answered]
    exact Bridge.looks_note after.bridge _

theorem leads_performAll {jobs : List Job} (posted : ∀ job ∈ jobs, Job.Posted job)
    (world : World (Recorded H)) :
    Leads world.bridge (queuePasses jobs world) (world.performAll jobs).bridge := by
  induction jobs generalizing world with
  | nil => exact .nil _
  | cons job rest ih =>
      obtain ⟨last, leads, looks⟩ := leads_perform (posted job List.mem_cons_self) world
      have ended := looks.trans (looks_performJob world job)
      have later := ih (fun other waits => posted other (List.mem_cons_of_mem job waits))
        (world.performJob job)
      exact leads.append (.cons ended.moves later)

/-- After the retries a frame asks nothing of the host. -/
theorem looks_finishFrame (world : World (Recorded H)) (number : Nat) :
    Looks world.retryPending.1.bridge (world.finishFrame .gameThread number).bridge := by
  unfold finishFrame
  dsimp only
  split
  · rename_i after fault answered
    rw [answered]
    exact .refl after.bridge
  · rename_i after answered
    rw [answered]
    have grows := (grows_tick after).fire (.frame number)
    have seen : (after.tick.fire (.frame number)).1.view = after.view.aged :=
      (view_fire _ _).trans (view_tick after)
    exact grows.looks (congrArg (fun view => view.backdrop.host) seen)
      (congrArg (fun view => view.backdrop.gate) seen)

end World

namespace Session

variable {H : Type} [ReflectionHost H]

open Bridge (Leads Looks)

theorem grows_queue (session : Session H) (kind : Schedule.TaskKind) (work : Work) :
    session.world.Grows (session.queue kind work).world := by
  unfold queue Schedule.GameLoop.post Schedule.GameLoop.hear
  dsimp only
  split
  · exact .refl _
  · exact World.Grows.hear (.refl session.world.bridge.report) _

theorem grows_receive (session : Session H) (now : Nat) (frame : Bytes) :
    session.world.Grows (session.receive now frame).1.world := by
  unfold receive
  split
  · exact .refl _
  · dsimp only
    split
    · refine World.Grows.trans (.of_bridge ?_) (World.grows_reject _ now _)
      rfl
    · refine World.Grows.trans (.of_bridge ?_) (grows_queue _ _ _)
      rfl

theorem grows_sendLocal (session : Session H) (caller : Caller) (state : AvatarState) :
    session.world.Grows (session.sendLocal caller state).1.world := by
  have rerouted (id : EntityId) : session.world.Grows
      (reroute session "Replica.updateLocal" (.localAvatarUpdate id)
        (.writeRow id (state.withId id))).world := by
    refine World.Grows.trans ?_ (grows_queue _ _ _)
    exact Report.grows_note _ _
  simp only [sendLocal, updateLocal]
  by_cases closed : session.world.channel.closed = true
  · rw [if_pos closed]
    exact .refl _
  · rw [if_neg closed]
    cases session.world.replica.localEntity with
    | none => exact .refl _
    | some id =>
        dsimp only
        by_cases valid : state.isValid = true
        · rw [if_pos valid]
          cases caller with
          | gameThread =>
              apply World.Grows.of_bridge
              exact World.bridge_enqueue (session.world.writeRow id (state.withId id))
                (.humanUpdate (state.withId id))
          | elsewhere =>
              apply (rerouted id).trans
              apply World.Grows.of_bridge
              exact World.bridge_enqueue (reroute session "Replica.updateLocal"
                (.localAvatarUpdate id) (.writeRow id (state.withId id))).world
                (.humanUpdate (state.withId id))
        · rw [if_neg valid]
          exact .refl _

/-- Inputs that drain no queue ask nothing of the host. -/
theorem looks_step (session : Session (Recorded H)) {input : Input H}
    (waits : input.drains = false) :
    Looks session.world.bridge (session.step input).world.bridge := by
  have of_view {view : View (Recorded H)} (grows : session.world.Grows (session.step input).world)
      (seen : (session.step input).world.view = view)
      (host : view.backdrop.host = session.world.bridge.host)
      (gate : view.backdrop.gate = session.world.bridge.gate) :
      Looks session.world.bridge (session.step input).world.bridge := by
    apply grows.looks
    · exact (congrArg (fun view => view.backdrop.host) seen).trans host
    · exact (congrArg (fun view => view.backdrop.gate) seen).trans gate
  cases input with
  | receive now frame =>
      apply of_view (grows_receive session now frame) (view_receive session now frame)
      · split <;> rfl
      · split <;> rfl
  | runFrame caller number =>
      cases caller with
      | gameThread => cases waits
      | elsewhere =>
          have refused := World.grows_refuseDrain session.world
          have grows := (refused.trans (World.grows_tick _)).fire (.frame number)
          have ended := world_runFrame_elsewhere session number
          refine of_view ?_ (view_runFrame_elsewhere session number) rfl rfl
          rw [ended]
          exact grows
  | setLocalEntity id =>
      exact of_view (World.grows_setLocalEntity session.world id)
        (World.view_setLocalEntity session.world id) rfl rfl
  | sendLocal caller state =>
      apply of_view (grows_sendLocal session caller state) (view_sendLocal session caller state)
      · split <;> rfl
      · split <;> rfl
  | registryChanged => exact ⟨rfl, rfl, List.prefix_append _ _, id, Or.inl⟩
  | hostChanges store => exact ⟨rfl, rfl, List.prefix_refl _, id, Or.inl⟩
  | listen listener => exact .refl _
  | unlisten key => exact .refl _

/-- What an input leads to. -/
theorem Holds.leads_step {session : Session (Recorded H)} {backlog : Scheduler Work}
    (holds : session.Holds backlog) (input : Input H) :
    Leads session.world.bridge (session.stepPasses backlog.queue input)
      (session.step input).world.bridge := by
  cases drains : input.drains with
  | false =>
      have looks := looks_step session drains
      have only : session.stepPasses backlog.queue input = [(session.step input).world.bridge] := by
        simp only [stepPasses]
        split
        · cases drains
        · rfl
      rw [only]
      exact .cons looks.moves (.nil _)
  | true =>
      obtain ⟨number, rfl⟩ := Input.eq_frame_of_drains drains
      obtain ⟨last, leads, looks⟩ :=
        World.leads_retryPending (session.world.performAll backlog.queue)
      have ended := looks.trans (World.looks_finishFrame _ number)
      rw [← holds.world_runFrame number] at ended
      exact ((World.leads_performAll holds.posted session.world).append leads).concat
        ended.moves

theorem Holds.leads_run {session : Session (Recorded H)} {backlog : Scheduler Work}
    (holds : session.Holds backlog) (inputs : List (Input H)) :
    Leads session.world.bridge (session.passes backlog inputs)
      (session.run inputs).world.bridge := by
  induction inputs generalizing session backlog with
  | nil => exact .nil _
  | cons input rest ih => exact (holds.leads_step input).append (ih (holds.step input))

end Session

/-! ### Calls to an unsupported host -/

namespace Bridge

variable {H : Type}

/-- What remains of moves when they follow one another. -/
structure Advances (before after : Bridge (Recorded H)) : Prop where
  journal : before.report.journal <+: after.report.journal
  raised : before.unsupported = true → after.unsupported = true
  closed : before.gate.disabled = true →
    after.gate.disabled = true ∧ after.calls = before.calls
  cause : after.unsupported = true →
    before.unsupported = true ∨ after.gate.disabled = true ∨ after.report.TellsMismatch

theorem Advances.refl (bridge : Bridge (Recorded H)) : Advances bridge bridge :=
  ⟨List.prefix_refl _, id, fun shut => ⟨shut, rfl⟩, Or.inl⟩

theorem Moves.advances {before after : Bridge (Recorded H)} (moves : Moves before after) :
    Advances before after where
  journal := moves.journal
  raised := moves.raised
  closed := moves.closed
  cause unsupported := (moves.cause unsupported).imp_right fun cause => cause.imp_right And.left

theorem Advances.trans {before middle after : Bridge (Recorded H)}
    (first : Advances before middle) (second : Advances middle after) :
    Advances before after where
  journal := first.journal.trans second.journal
  raised unsupported := second.raised (first.raised unsupported)
  closed shut := by
    obtain ⟨shut', calls⟩ := first.closed shut
    obtain ⟨shut'', calls'⟩ := second.closed shut'
    exact ⟨shut'', calls'.trans calls⟩
  cause unsupported := by
    rcases second.cause unsupported with earlier | shut | tells
    · rcases first.cause earlier with earliest | shut | tells
      · exact Or.inl earliest
      · exact Or.inr (Or.inl (second.closed shut).1)
      · exact Or.inr (Or.inr (tells.mono second.journal))
    · exact Or.inr (Or.inl shut)
    · exact Or.inr (Or.inr tells)

variable {before after : Bridge (Recorded H)} {passes : List (Bridge (Recorded H))}
  (leads : Leads before passes after)

include leads

/-- Everything on the way lies between the ends. -/
theorem Leads.between : ∀ pass ∈ before :: passes, Advances before pass ∧ Advances pass after := by
  induction leads with
  | nil bridge =>
      intro pass among
      rw [List.mem_singleton.1 among]
      exact ⟨.refl bridge, .refl bridge⟩
  | cons moves _ ih =>
      rename_i before next after rest _
      have onward := (ih next List.mem_cons_self).2
      intro pass among
      rcases List.mem_cons.1 among with rfl | later
      · exact ⟨.refl pass, moves.advances.trans onward⟩
      · obtain ⟨reached, ahead⟩ := ih pass later
        exact ⟨moves.advances.trans reached, ahead⟩

theorem Leads.pairwise : (before :: passes).Pairwise Advances := by
  induction leads with
  | nil bridge => exact List.pairwise_singleton _ bridge
  | cons moves rest ih =>
      refine List.pairwise_cons.2 ⟨fun pass among => ?_, ih⟩
      exact moves.advances.trans (rest.between pass among).1

/-- A closed gate lets no call through, so only calls through an open gate go astray. -/
theorem Leads.stops_iff : StopsCalling (before :: passes) ↔ ¬CallsAstray (before :: passes) := by
  constructor
  · rintro stops ⟨earlier, later, within, unsupported, _, differ⟩
    have stopped := List.pairwise_iff_forall_sublist.1 stops within
    exact differ (stopped unsupported)
  · intro never
    apply List.pairwise_iff_forall_sublist.2
    intro earlier later within unsupported
    have advances := List.pairwise_iff_forall_sublist.1 leads.pairwise within
    cases gate : earlier.gate.disabled with
    | true => exact (advances.closed gate).2
    | false =>
        by_cases same : later.calls = earlier.calls
        · exact same
        · exact absurd ⟨earlier, later, within, unsupported, gate, same⟩ never

end Bridge

namespace Session

variable {H : Type}

/-- Once the host counts as unsupported a session does not call it any more, unless the gate
was still open; and then something had turned out to be of another kind than expected, for
everything else that makes a host unsupported closes the gate.  Without such a mismatch there
are no further calls. -/
theorem stopsCalling_iff [ReflectionHost H] (host : CountedHost H) (report : Report)
    (settings : Settings) (inputs : List (Input H)) :
    let start : Session (Recorded H) := begin host report settings
    let passes := start.passes (Scheduler.ofSoftCap settings.scheduler.softCap) inputs
    let after := (start.run inputs).world.bridge
    Bridge.Leads start.world.bridge passes after ∧
      (StopsCalling (start.world.bridge :: passes) ↔
        ¬CallsAstray (start.world.bridge :: passes)) ∧
      (∀ pass ∈ passes, pass.unsupported = true → report.status.hostUnsupported = true ∨
        pass.gate.disabled = true ∨ pass.report.TellsMismatch) ∧
      (StopsCalling (start.world.bridge :: passes) ∨ report.status.hostUnsupported = true ∨
        after.report.TellsMismatch) := by
  intro start passes after
  have leads : Bridge.Leads start.world.bridge passes after :=
    (Holds.begin host report settings).leads_run inputs
  have cause : ∀ pass ∈ start.world.bridge :: passes, pass.unsupported = true →
      report.status.hostUnsupported = true ∨ pass.gate.disabled = true ∨
        pass.report.TellsMismatch := by
    intro pass among unsupported
    exact (leads.between pass among).1.cause unsupported
  refine ⟨leads, leads.stops_iff, ?_, ?_⟩
  · intro pass among
    exact cause pass (List.mem_cons_of_mem _ among)
  · by_cases astray : CallsAstray (start.world.bridge :: passes)
    · right
      obtain ⟨earlier, later, within, unsupported, passable, _⟩ := astray
      have among := within.subset List.mem_cons_self
      rcases cause earlier among unsupported with first | shut | tells
      · exact Or.inl first
      · exact absurd (passable.symm.trans shut) Bool.false_ne_true
      · exact Or.inr (tells.mono (leads.between earlier among).2.journal)
    · exact Or.inl (leads.stops_iff.2 astray)

/-- An object has the name of the season changer's class, so the first season makes the host
unsupported; the hours that come after it are sent to the host's scheduler all the same. -/
theorem calls_after_mismatch :
    let scheduler : TableEntry :=
      { TableEntry.named (Text.utf8 "Game.Scheduler") 1 with
        methods := [(Text.utf8 "AdvanceHours", { address := 48 })] }
    let hours : PropertyRecord :=
      { name := Text.utf8 "InHours", offset := 0, elementSize := 4, arrayDim := 1, flags := 128 }
    let advanceHours : TableEntry :=
      { TableEntry.named (Text.utf8 "Game.Scheduler.AdvanceHours") 2 with
        chain := [{ record := hours, readable := true }] }
    let table : TableStore :=
      { slots := [some (.named (Text.utf8 "Game.SeasonChanger") 0), some scheduler,
          some advanceHours,
          some { TableEntry.named (Text.utf8 "Level.Scheduler_0") 0 with
            owner := { address := 32 } }] }
    let settings : Settings := {}
    let start : Session (Recorded (Loaded TableStore)) :=
      begin { store := { table } } {} settings
    let frame (message : Message) : Input (Loaded TableStore) :=
      .receive 0 (message.encode.toOption.getD [])
    let sent := [frame (.envSeason 1), .runFrame .gameThread 1]
    let later := sent ++ [frame (.envClockAdvance 6), .runFrame .gameThread 2]
    (start.run sent).world.bridge.unsupported = true ∧
      (start.run sent).world.bridge.calls = [] ∧
      (start.run later).world.bridge.calls =
        [{ target := { address := 64 }, function := { address := 48 }, frame := [6, 0, 0, 0] }] ∧
      ¬StopsCalling (start.world.bridge ::
        start.passes (Scheduler.ofSoftCap settings.scheduler.softCap) later) := by
  decide +kernel

end Session

end ReplicaBridge
