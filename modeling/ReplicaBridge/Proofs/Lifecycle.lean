/-
Module: ReplicaBridge.Proofs.Lifecycle
Purpose: The life of the process.  A session starts exactly if the host is ready, none is
  running and the host was never found unsupported, as long as there can be room for its queue;
  a start that is refused changes nothing.  Nothing that happens to the bridge takes back that
  the host was found unsupported, so from then on no session starts any more.
Main exports: World.keeps_unsupported, Operation.Advances, Session.unsupported_operate,
  Occurrence, Plugin.occur, Plugin.occurAll, Plugin.MayStart, Plugin.unsupported_occur,
  Plugin.starts_only_on_supported_host
-/
import ReplicaBridge.Plugin
import ReplicaBridge.Proofs.Deliveries
import ReplicaBridge.Proofs.SessionOperations
import ReplicaBridge.Proofs.SteadyLoop

namespace ReplicaBridge

open Host (Loaded Recorded ReflectionHost TableHeader TableStore)
open Schedule (GameLoop Scheduler)

/-! ### Work -/

namespace World

variable {H : Type}

theorem Grows.raised {before after : World (Recorded H)} (grows : before.Grows after)
    (unsupported : before.bridge.unsupported = true) : after.bridge.unsupported = true :=
  grows.unsupported.trans unsupported

variable [ReflectionHost H] {world : World (Recorded H)}
  (unsupported : world.bridge.unsupported = true)

include unsupported

theorem unsupported_applySeason (season : Season) :
    (world.applySeason season).1.bridge.unsupported = true :=
  (looks_applySeason world season).raised
    ((leads_callSetSeason (world.note (.seasonSet season)) season).raised unsupported)

theorem unsupported_advanceHours (hours : Int32) :
    (world.advanceHours hours).1.bridge.unsupported = true := by
  obtain ⟨last, leads, looks⟩ := leads_advanceHours world hours
  exact looks.raised (leads.raised unsupported)

theorem unsupported_retryPending : world.retryPending.1.bridge.unsupported = true := by
  obtain ⟨last, leads, looks⟩ := leads_retryPending world
  exact looks.raised (leads.raised unsupported)

theorem unsupported_perform (work : Work) :
    (perform work world).1.bridge.unsupported = true := by
  have unchanged : world.Grows world := .of_bridge rfl
  cases work with
  | receiveSpawn state => exact (grows_receiveSpawn world state).raised unsupported
  | receiveDespawn id => exact (grows_receiveDespawn world id).raised unsupported
  | receiveUpdate state => exact (grows_receiveUpdate world state).raised unsupported
  | receiveSeason value =>
      simp only [perform, receiveSeason]
      split
      · exact unsupported_applySeason unsupported _
      · exact unsupported
  | receiveChat text => exact (unchanged.fire (.chat text)).raised unsupported
  | applySeason season => exact unsupported_applySeason unsupported season
  | advanceHours hours => exact unsupported_advanceHours unsupported hours
  | spawn id state => exact (unchanged.spawn id state).raised unsupported
  | applyUpdate id state => exact (unchanged.applyUpdate id state).raised unsupported
  | despawn id => exact (unchanged.despawn id).raised unsupported
  | writeRow id state => exact unsupported
  | note label => exact unsupported

theorem unsupported_finishFrame (caller : Caller) (number : Nat) :
    (world.finishFrame caller number).bridge.unsupported = true := by
  cases caller with
  | gameThread =>
      exact (looks_finishFrame world number).raised (unsupported_retryPending unsupported)
  | elsewhere => exact ((grows_tick world).fire (.frame number)).raised unsupported

omit [ReflectionHost H] in
theorem unsupported_close : world.close.bridge.unsupported = true := by
  simp only [close, noteIf]
  split <;> exact unsupported

omit unsupported in
/-- No work and nothing about the queue takes back that the host is unsupported. -/
theorem keeps_unsupported :
    GameLoop.Keeps fun world : World (Recorded H) => world.bridge.unsupported = true where
  perform work _ unsupported := unsupported_perform unsupported work
  hear event world unsupported := (Grows.hear (.refl world.bridge.report) event).raised unsupported
  onThread _ _ unsupported := unsupported

end World

/-! ### Operations on a session -/

/-- What is done to the way into the host advances it. -/
def Operation.Advances {H : Type} : Operation (Recorded H) → Prop
  | .bridge change => ∀ bridge, Bridge.Advances bridge (change bridge)
  | _ => True

namespace Session

variable {H : Type} [ReflectionHost H] {session : Session (Recorded H)}
  (unsupported : session.world.bridge.unsupported = true)

include unsupported

theorem unsupported_queue (kind : Schedule.TaskKind) (work : Work) :
    (session.queue kind work).world.bridge.unsupported = true :=
  (grows_queue session kind work).raised unsupported

theorem unsupported_mutate (caller : Caller) (mutation : Mutation) :
    (session.mutate caller mutation).1.world.bridge.unsupported = true := by
  rw [mutate_eq]
  split
  · rename_i job _
    cases caller with
    | gameThread => exact World.unsupported_perform unsupported job.work
    | elsewhere =>
        have noted : (session.mapWorld (·.note (.threadViolation mutation.operation))
            ).world.bridge.unsupported = true := unsupported
        exact unsupported_queue noted job.kind job.work
  · exact unsupported

theorem unsupported_runFrame (caller : Caller) (number : Nat) :
    (session.runFrame caller number).1.world.bridge.unsupported = true := by
  rw [runFrame_eq]
  exact World.unsupported_finishFrame
    (World.keeps_unsupported.world_drain session unsupported caller) caller number

theorem unsupported_shutDown (caller : Caller) :
    (session.shutDown caller).world.bridge.unsupported = true := by
  have closed : (session.mapWorld (·.close)).world.bridge.unsupported = true :=
    World.unsupported_close unsupported
  have stopped := World.keeps_unsupported.shutDown (.of_world closed)
  cases caller with
  | gameThread => exact World.keeps_unsupported.world_drain _ stopped.world .gameThread
  | elsewhere => exact stopped.world

/-- Whatever is asked of a session, an unsupported host stays so. -/
theorem unsupported_operate {operation : Operation (Recorded H)} (advances : operation.Advances) :
    (session.operate operation).world.bridge.unsupported = true := by
  have guarded : GameLoop.Guarded (fun world => world.bridge.unsupported = true) (fun _ => True)
      session := .of_world unsupported
  have unchanged : session.world.Grows session.world := .of_bridge rfl
  cases operation with
  | receive now frame => exact (grows_receive session now frame).raised unsupported
  | mutate caller mutation => exact unsupported_mutate unsupported caller mutation
  | setLocalEntity id => exact (World.grows_setLocalEntity session.world id).raised unsupported
  | sendLocal caller state => exact (grows_sendLocal session caller state).raised unsupported
  | sendChat text =>
      exact (World.Grows.of_bridge (World.bridge_sendChat session.world text)).raised unsupported
  | post caller kind body =>
      have posts : (GameLoop.handTo caller (·.post kind body) session).Guarded _ _ :=
        World.keeps_unsupported.handTo caller
          (fun _ guarded => World.keeps_unsupported.post guarded
            ⟨trivial, body.posts_of_forall fun _ => trivial⟩) guarded
      exact posts.world
  | drain caller => exact World.keeps_unsupported.world_drain session unsupported caller
  | retryPending caller =>
      cases caller with
      | gameThread => exact World.unsupported_retryPending unsupported
      | elsewhere => exact unsupported
  | tick => exact (World.grows_tick session.world).raised unsupported
  | fire signal => exact (unchanged.fire signal).raised unsupported
  | runFrame caller number => exact unsupported_runFrame unsupported caller number
  | bridge change => exact (advances session.world.bridge).raised unsupported
  | close => exact World.unsupported_close unsupported
  | stop caller =>
      exact (World.keeps_unsupported.handTo caller
        (fun _ guarded => World.keeps_unsupported.shutDown guarded) guarded).world
  | shutDown caller => exact unsupported_shutDown unsupported caller
  | _ => exact unsupported

end Session

/-! ### The life of the process -/

/-- What happens to the bridge over the life of the process. -/
inductive Occurrence (H : Type) where
  | load (thread : Thread) (table : Option TableHeader)
  | unload (thread : Thread)
  | registryReady (thread : Thread)
  | start (thread : Thread) (settings : Settings)
  | shutDown (thread : Thread)
  | gameFrame (thread : Thread)
  | registryChanged (thread : Thread)
  | requestDisconnect (reason : String)
  /-- A fatal condition is raised, by whatever finds it. -/
  | raiseUnsupported (reason : String)
  /-- The host's objects are others from here on, and it may be ready or not. -/
  | hostChanges (store : H)
  /-- Something is asked of the running session, if there is one. -/
  | operation (thread : Thread) (make : Caller → Operation (Recorded H))
      (advances : ∀ caller, (make caller).Advances)

/-- Of a status that was reset no flag is left, unless the host is unsupported. -/
theorem Status.word_clear {status : Status} (supported : status.hostUnsupported = false) :
    status.clear.word = 0 := by
  simp [clear, word, supported]

namespace Plugin

variable {H : Type} [ReflectionHost H]

/-- What an occurrence makes of the plugin. -/
def occur (plugin : Plugin (Recorded H)) : Occurrence H → Plugin (Recorded H)
  | .load thread table => (plugin.load thread table).1
  | .unload thread => plugin.unload thread
  | .registryReady thread => (plugin.registryReady thread).1
  | .start thread settings => (plugin.start thread settings).1
  | .shutDown thread => (plugin.shutDown thread).1
  | .gameFrame thread => (plugin.gameFrame thread).1
  | .registryChanged thread => plugin.registryChanged thread
  | .requestDisconnect reason =>
    plugin.withHostAndReport plugin.host (plugin.report.requestDisconnect reason)
  | .raiseUnsupported reason =>
    plugin.withHostAndReport plugin.host (plugin.report.raiseUnsupported reason)
  | .hostChanges store =>
    plugin.withHostAndReport { plugin.host with store := { plugin.host.store with store } }
      plugin.report
  | .operation thread make _ =>
    (plugin.onSession thread () fun caller session => (session.operate (make caller), ())).1

/-- What occurrences make of the plugin, one after another. -/
def occurAll (plugin : Plugin (Recorded H)) (occurrences : List (Occurrence H)) :
    Plugin (Recorded H) :=
  occurrences.foldl occur plugin

/-! ### Starting a session -/

/-- The host is ready, no session is running, and the host was not found unsupported. -/
def MayStart (plugin : Plugin H) : Prop :=
  ReflectionHost.isReady plugin.host.store = true ∧ plugin.isRunning = false ∧
    plugin.status.hostUnsupported = false

section Start

variable (plugin : Plugin H) (thread : Thread) (settings : Settings)

/-- A session may start: it does, unless there is no room for its queue. -/
theorem start_of_mayStart (mayStart : plugin.MayStart) :
    let cleared := { plugin.report with status := plugin.status.clear }
    plugin.start thread settings =
      match Scheduler.roomFault? settings.scheduler.softCap with
      | some fault => ({ plugin with phase := .idle plugin.host cleared }, .error (.unwound fault))
      | none => ({ plugin with
          phase := .running thread (Session.start plugin.host cleared settings) }, .ok ()) := by
  obtain ⟨ready, stopped, supported⟩ := mayStart
  unfold start
  rw [if_pos ready]
  obtain ⟨phase⟩ := plugin
  cases phase with
  | running gameThread session => cases stopped
  | idle host report =>
      simp only [status, Plugin.report, Plugin.host] at supported ⊢
      rw [if_neg (by simp [supported])]
      unfold Session.start?
      cases Scheduler.roomFault? settings.scheduler.softCap <;> rfl

/-- Otherwise the start is refused. -/
theorem start_of_not_mayStart (kept : ¬plugin.MayStart) :
    ∃ error, plugin.start thread settings = (plugin, .error (.refused error)) := by
  unfold start
  split
  · rename_i ready
    obtain ⟨phase⟩ := plugin
    cases phase with
    | running gameThread session => exact ⟨_, rfl⟩
    | idle host report =>
        have unsupported : report.status.hostUnsupported = true := by
          by_contra supported
          exact kept ⟨ready, rfl, Bool.eq_false_iff.mpr supported⟩
        exact ⟨_, if_pos unsupported⟩
  · exact ⟨_, rfl⟩

/-- A session that started was one that may, and no flag is set when it does. -/
theorem started_of_ok (succeeded : (plugin.start thread settings).2 = .ok ()) :
    let started := (plugin.start thread settings).1
    started.status.word = 0 ∧
      started.session? = some (Session.start plugin.host started.report settings) := by
  by_cases mayStart : plugin.MayStart
  · have starts := plugin.start_of_mayStart thread settings mayStart
    cases room : Scheduler.roomFault? settings.scheduler.softCap with
    | some fault =>
        rw [room] at starts
        rw [starts] at succeeded
        cases succeeded
    | none =>
        rw [room] at starts
        rw [starts]
        exact ⟨Status.word_clear mayStart.2.2, rfl⟩
  · obtain ⟨error, refused⟩ := plugin.start_of_not_mayStart thread settings mayStart
    rw [refused] at succeeded
    cases succeeded

theorem shutDown_answer : (plugin.shutDown thread).2 = plugin.isRunning ∧
    (plugin.shutDown thread).1.isRunning = false := by
  unfold shutDown
  cases phase : plugin.phase <;> simp [isRunning, session?, phase]

end Start

/-! ### What is never taken back -/

section Lasting

omit [ReflectionHost H] in
theorem report_withHostAndReport (plugin : Plugin (Recorded H))
    (host : Host.CountedHost (Recorded H)) (report : Report) :
    (plugin.withHostAndReport host report).report = report := by
  unfold withHostAndReport
  split <;> rfl

variable {plugin : Plugin (Recorded H)} (unsupported : plugin.status.hostUnsupported = true)

include unsupported

theorem not_mayStart : ¬plugin.MayStart :=
  fun ⟨_, _, supported⟩ => Bool.false_ne_true (supported.symm.trans unsupported)

omit [ReflectionHost H] in
theorem unsupported_running {gameThread : Thread} {session : Session (Recorded H)}
    (running : plugin.phase = .running gameThread session) :
    session.world.bridge.unsupported = true := by
  unfold status Plugin.report at unsupported
  rw [running] at unsupported
  exact unsupported

omit [ReflectionHost H] in
theorem unsupported_onSession {α : Type} (thread : Thread) (otherwise : α)
    {change : Caller → Session (Recorded H) → Session (Recorded H) × α}
    (kept : ∀ caller session, session.world.bridge.unsupported = true →
      (change caller session).1.world.bridge.unsupported = true) :
    (plugin.onSession thread otherwise change).1.status.hostUnsupported = true := by
  unfold onSession
  split
  · exact unsupported
  · rename_i gameThread session running
    exact kept (thread.callerFor gameThread) session (unsupported_running unsupported running)

theorem unsupported_shutDown (thread : Thread) :
    (plugin.shutDown thread).1.status.hostUnsupported = true := by
  unfold shutDown
  split
  · exact unsupported
  · rename_i gameThread session running
    exact session.unsupported_shutDown (unsupported_running unsupported running)
      (thread.callerFor gameThread)

theorem unsupported_gameFrame (thread : Thread) :
    (plugin.gameFrame thread).1.status.hostUnsupported = true := by
  have counted : ({ plugin with frames := plugin.frames + 1 } :
      Plugin (Recorded H)).status.hostUnsupported = true := unsupported
  have framed := unsupported_onSession counted thread (.ok 0) fun caller session raised =>
    session.unsupported_runFrame raised caller (plugin.frames + 1)
  unfold gameFrame
  dsimp only
  split
  · rename_i unwound
    rw [unwound] at framed
    exact framed
  · rename_i ran
    rw [ran] at framed
    split
    · exact unsupported_shutDown framed thread
    · exact framed

theorem unsupported_start (thread : Thread) (settings : Settings) :
    (plugin.start thread settings).1.status.hostUnsupported = true := by
  obtain ⟨error, refused⟩ := plugin.start_of_not_mayStart thread settings (not_mayStart unsupported)
  rw [refused]
  exact unsupported

omit [ReflectionHost H] in
theorem unsupported_configure : plugin.configure.1.status.hostUnsupported = true := by
  have same : plugin.configure.1.phase = plugin.phase := by
    unfold configure
    split <;> rfl
  unfold status Plugin.report at unsupported ⊢
  rw [same]
  exact unsupported

omit [ReflectionHost H] in
theorem unsupported_load (thread : Thread) (table : Option TableHeader) :
    (plugin.load thread table).1.status.hostUnsupported = true := by
  have configured := unsupported_configure unsupported
  unfold load
  dsimp only
  split
  · exact configured
  · split <;> exact configured

theorem unsupported_startForLoader (thread : Thread) :
    (plugin.startForLoader thread).1.status.hostUnsupported = true := by
  have configured := unsupported_configure unsupported
  obtain ⟨error, refused⟩ := plugin.configure.1.start_of_not_mayStart thread plugin.configure.2
    (not_mayStart configured)
  unfold startForLoader
  dsimp only
  rw [refused]
  exact configured

theorem unsupported_registryReady (thread : Thread) :
    (plugin.registryReady thread).1.status.hostUnsupported = true := by
  unfold registryReady
  split
  · exact unsupported
  · split
    · split
      · exact unsupported
      · have marked : (plugin.markReady true).status.hostUnsupported = true := unsupported
        exact unsupported_startForLoader marked thread
    · exact unsupported

/-- Whatever happens, a host once found unsupported stays so. -/
theorem unsupported_occur (occurrence : Occurrence H) :
    (plugin.occur occurrence).status.hostUnsupported = true := by
  cases occurrence with
  | load thread table => exact unsupported_load unsupported thread table
  | unload thread => exact unsupported_shutDown unsupported thread
  | registryReady thread => exact unsupported_registryReady unsupported thread
  | start thread settings => exact unsupported_start unsupported thread settings
  | shutDown thread => exact unsupported_shutDown unsupported thread
  | gameFrame thread => exact unsupported_gameFrame unsupported thread
  | registryChanged thread =>
      exact unsupported_onSession unsupported thread () fun _ _ raised => raised
  | requestDisconnect reason =>
      rw [occur, status, report_withHostAndReport]
      exact (Report.grows_requestDisconnect plugin.report reason).unsupported.trans unsupported
  | raiseUnsupported reason =>
      rw [occur, status, report_withHostAndReport]
      rfl
  | hostChanges store =>
      rw [occur, status, report_withHostAndReport]
      exact unsupported
  | operation thread make advances =>
      exact unsupported_onSession unsupported thread () fun caller session raised =>
        session.unsupported_operate raised (advances caller)

theorem unsupported_occurAll (occurrences : List (Occurrence H)) :
    (plugin.occurAll occurrences).status.hostUnsupported = true := by
  induction occurrences generalizing plugin with
  | nil => exact unsupported
  | cons occurrence rest ih => exact ih (unsupported_occur unsupported occurrence)

end Lasting

/-! ### The states of the process -/

/-- After anything that happened, and if there can be room for the queue: a session starts
exactly if it may, and otherwise nothing changes at all; the session that started is a new one
and no flag is set.  The end of a session says whether there was one and leaves none.  A host
that was found unsupported is so ever after: the banner stays, and no session starts. -/
theorem starts_only_on_supported_host (plugin : Plugin (Recorded H))
    (occurrences : List (Occurrence H)) :
    let now := plugin.occurAll occurrences
    (∀ thread settings, Scheduler.roomFault? settings.scheduler.softCap = none →
        ((now.start thread settings).2 = .ok () ↔ now.MayStart) ∧
          ∀ halt, (now.start thread settings).2 = .error halt →
            (now.start thread settings).1 = now) ∧
      (∀ thread settings, (now.start thread settings).2 = .ok () →
        let started := (now.start thread settings).1
        started.status.word = 0 ∧
          started.session? = some (Session.start now.host started.report settings)) ∧
      (∀ thread, (now.shutDown thread).2 = now.isRunning ∧
        (now.shutDown thread).1.isRunning = false) ∧
      (plugin.status.hostUnsupported = true →
        now.status.hostUnsupported = true ∧ now.status.banner? = some Status.bannerText ∧
          ∀ thread settings, ∃ error,
            now.start thread settings = (now, .error (.refused error))) := by
  intro now
  refine ⟨fun thread settings room => ?_, now.started_of_ok, now.shutDown_answer,
    fun unsupported => ?_⟩
  · by_cases mayStart : now.MayStart
    · have starts := now.start_of_mayStart thread settings mayStart
      rw [room] at starts
      rw [starts]
      exact ⟨iff_of_true rfl mayStart, nofun⟩
    · obtain ⟨error, refused⟩ := now.start_of_not_mayStart thread settings mayStart
      rw [refused]
      exact ⟨iff_of_false nofun mayStart, fun _ _ => rfl⟩
  · have lasting := unsupported_occurAll unsupported occurrences
    exact ⟨lasting, if_pos lasting, fun thread settings =>
      now.start_of_not_mayStart thread settings (not_mayStart lasting)⟩

/-- The host is found unsupported while a session runs.  The frame that follows ends the session,
and neither asking again for a disconnect nor a new store gets another one started. -/
theorem starts_only_on_supported_host_until_mismatch :
    let idle : Plugin (Recorded (Loaded TableStore)) :=
      { phase := .idle { store := { store := { table := {} } } } {} }
    let doomed := idle.occurAll [.start { number := 0 } {}, .raiseUnsupported "size mismatch"]
    let later := doomed.occurAll [.gameFrame { number := 0 }, .requestDisconnect "too late",
      .hostChanges { table := {} }]
    Scheduler.roomFault? ({} : Settings).scheduler.softCap = none ∧
      (idle.start { number := 0 } {}).2 = .ok () ∧
      doomed.isRunning = true ∧ doomed.status.hostUnsupported = true ∧
      later.isRunning = false ∧ later.status.banner? = some Status.bannerText ∧
      ∃ error, later.start { number := 0 } {} = (later, .error (.refused error)) := by
  intro idle doomed later
  have room : Scheduler.roomFault? ({} : Settings).scheduler.softCap = none := by decide
  have mayStart : idle.MayStart := by
    unfold MayStart
    decide +kernel
  obtain ⟨starts, -⟩ := starts_only_on_supported_host idle []
  obtain ⟨-, -, -, lasting⟩ := starts_only_on_supported_host doomed
    [.gameFrame { number := 0 }, .requestDisconnect "too late", .hostChanges { table := {} }]
  have unsupported : doomed.status.hostUnsupported = true := by decide +kernel
  obtain ⟨-, banner, refused⟩ := lasting unsupported
  exact ⟨room, (starts { number := 0 } {} room).1.mpr mayStart, by decide +kernel, unsupported,
    by decide +kernel, banner, refused { number := 0 } {}⟩

/-- A soft cap for whose queue there can be no room is found out only after the flags were reset,
so a start that fails takes a request to disconnect along. -/
theorem start_unwinds_past_reset_flags :
    let plugin : Plugin (Loaded TableStore) :=
      { phase := .idle { store := { table := {} } } (({} : Report).requestDisconnect "too slow") }
    let settings : Settings := { scheduler := { softCap := 2 ^ 58 } }
    let started := plugin.start { number := 0 } settings
    (ReflectionHost.isReady plugin.host.store = true ∧ plugin.isRunning = false ∧
        plugin.status.hostUnsupported = false) ∧
      started.2 = .error (.unwound .noRoom) ∧ started.1.isRunning = false ∧
      plugin.status.word = 2 ∧ started.1.status.word = 0 := by
  decide +kernel

end Plugin

end ReplicaBridge
