/-
Module: ReplicaBridge.Proofs.LoaderSession
Purpose: The session that the loader starts and ends.  The flag of the registry signal, the
  running session and the state of the host are changed by several calls and may disagree; after
  any of them the registry signal says whether a session is running, a running session has
  one chat forwarder and no other listener, and each chat line that a frame drains is
  delivered once if the loader listens.
Main exports: Listeners.forwarding, chatLines, World.ears_performAll_forwarding,
  Session.Serves, LoaderCall, Plugin.take, Plugin.Attended, Plugin.Attended.take,
  Plugin.loader_session_consistent
-/
import ReplicaBridge.Plugin
import ReplicaBridge.Proofs.Ending
import ReplicaBridge.Proofs.FrameTeardown
import ReplicaBridge.Proofs.Lifecycle
import ReplicaBridge.Proofs.LocalAuthority
import ReplicaBridge.Proofs.ToldHistory

namespace ReplicaBridge

open Host (CountedHost Loaded Recorded ReflectionHost TableHeader TableStore)
open Schedule (GameLoop Scheduler Script)
open Wire (Message)

/-! ### The chat forwarder alone -/

/-- The chat forwarder is registered and nothing else; it was called that often. -/
def Listeners.forwarding (calls : Nat) : Listeners :=
  { slots := [{ listener := some { Plugin.chatForwarder with calls } }] }

/-- The chat line that work tells the listeners. -/
def Work.chatLine? : Work → Option String
  | .receiveChat text => some text
  | _ => none

/-- The chat lines among jobs, in order. -/
def chatLines (jobs : List Job) : List String :=
  jobs.filterMap (·.work.chatLine?)

namespace World

variable {H : Type} {world : World H} {calls : Nat} {events : List Event}
  (ears : world.ears = (.forwarding calls, events))

include ears

/-- A chat line is forwarded once; no other signal is heard. -/
theorem ears_fire_forwarding (signal : Signal) : (world.fire signal).1.ears =
    match signal with
    | .chat text => (.forwarding (calls + 1), events ++ [.forwarded text])
    | _ => (.forwarding calls, events) := by
  obtain ⟨settings, bridge, replica, channel, listeners, told⟩ := world
  obtain ⟨rfl, rfl⟩ : listeners = .forwarding calls ∧ told = events := Prod.mk.inj ears
  cases signal <;> rfl

/-- Work tells the listeners its chat line, if it has one. -/
theorem ears_perform_forwarding [ReflectionHost H] {work : Work}
    (signals : ∀ label, work ≠ .note label) : (world.perform work).1.ears =
      (.forwarding (calls + work.chatLine?.toList.length),
        events ++ work.chatLine?.toList.map .forwarded) := by
  obtain ⟨quiet, same, told⟩ := tells_perform signals world
  rw [told]
  have heard := ears_fire_forwarding (same.trans ears)
  cases work with
  | receiveChat text => exact heard (.chat text)
  | receiveSpawn state =>
      simp only [Work.signal?]
      split
      · exact (heard (.spawned state.id)).trans (by simp [Work.chatLine?])
      · exact (same.trans ears).trans (by simp [Work.chatLine?])
  | receiveDespawn id =>
      simp only [Work.signal?]
      split
      · exact (heard (.despawned id)).trans (by simp [Work.chatLine?])
      · exact (same.trans ears).trans (by simp [Work.chatLine?])
  | _ => exact (same.trans ears).trans (by simp [Work.chatLine?])

/-- Jobs tell the listeners their chat lines in order, each of them once. -/
theorem ears_performAll_forwarding [ReflectionHost H] {jobs : List Job}
    (signals : ∀ job ∈ jobs, ∀ label, job.work ≠ .note label) : (world.performAll jobs).ears =
      (.forwarding (calls + (chatLines jobs).length),
        events ++ (chatLines jobs).map .forwarded) := by
  induction jobs generalizing world calls events with
  | nil => simpa [chatLines] using ears
  | cons job rest ih =>
      obtain ⟨first, later⟩ := List.forall_mem_cons.mp signals
      have told := (ears_performJob world job).trans (ears_perform_forwarding ears first)
      rw [performAll_cons, ih told later]
      cases line : job.work.chatLine? with
      | none => simp [chatLines, line]
      | some text => simp [chatLines, line, Nat.add_assoc, Nat.add_comm 1]

theorem ears_finishFrame_forwarding [ReflectionHost H] (caller : Caller) (number : Nat) :
    (world.finishFrame caller number).ears = (.forwarding calls, events) := by
  have heard {before : World H} (same : before.ears = world.ears) :
      (before.tick.fire (.frame number)).1.ears = (.forwarding calls, events) :=
    ears_fire_forwarding (((ears_tick before).trans same).trans ears) (.frame number)
  cases caller with
  | elsewhere => exact heard rfl
  | gameThread =>
      have retried := ears_retryPending world
      simp only [finishFrame]
      split <;> (rename_i answered; rw [answered] at retried)
      · exact retried.trans ears
      · exact heard retried

end World

/-! ### The queue -/

/-- What an update is superseded by never takes a chat line away. -/
theorem Job.Posted.chatLine?_of_keyed {job : Job} (posted : job.Posted)
    (keyed : job.kind.coalesceKey? ≠ none) : job.work.chatLine? = none := by
  cases posted with
  | message valid =>
      rename_i message
      cases message with
      | chat text => exact absurd rfl keyed
      | _ => rfl
  | localWrite id valid => rfl

/-- Posting a job adds its chat line to those that wait, if it has one. -/
theorem chatLines_post {backlog : Scheduler Work} (accepting : backlog.shuttingDown = false)
    (posted : ∀ job ∈ backlog.queue, Job.Posted job) {job : Job} (last : job.Posted) :
    chatLines (backlog.post job).1.queue =
      chatLines backlog.queue ++ job.work.chatLine?.toList := by
  have appended : chatLines (backlog.queue ++ [job]) =
      chatLines backlog.queue ++ job.work.chatLine?.toList := by
    unfold chatLines
    rw [List.filterMap_append]
    cases line : job.work.chatLine? <;> simp [line]
  rcases Scheduler.queue_post accepting job with same | passed
  · rw [same, appended]
  · rw [passed, ← appended]
    refine Schedule.filterMap_coalesce _ fun other waits keyed => ?_
    rcases List.mem_append.mp waits with earlier | newest
    · exact (posted other earlier).chatLine?_of_keyed keyed
    · exact (List.mem_singleton.mp newest ▸ last).chatLine?_of_keyed keyed

namespace Session

variable {H : Type}

/-- The chat lines that wait in the queue. -/
def waitingLines (session : Session H) : List String :=
  chatLines session.queuedJobs

/-- The chat line that a frame brings, if the session takes its message over. -/
def broughtLine? (session : Session H) (frame : Bytes) : Option String :=
  (session.accepted? frame).bind fun message => (jobFor message).work.chatLine?

/-- The chat forwarder is the only listener; those chat lines wait, and those were forwarded
and nothing else happened. -/
structure Serves (session : Session H) (waiting forwarded : List String) : Prop where
  backlog : ∃ backlog, session.Holds backlog ∧ chatLines backlog.queue = waiting
  ears : ∃ calls, session.world.ears = (.forwarding calls, forwarded.map .forwarded)

/-- All that waits does so in order: it despawns at most, if it outlives the end. -/
theorem Holds.orderly {session : Session H} {backlog : Scheduler Work}
    (holds : session.Holds backlog) : session.Orderly := by
  refine ⟨trivial, fun task waits => ?_⟩
  rw [holds.queued] at waits
  obtain ⟨job, among, rfl⟩ := List.mem_map.mp waits
  have orderly : Job.Orderly job := by
    cases holds.posted job among with
    | message valid => exact orderly_jobFor _
    | localWrite id valid => exact fun kind => by cases kind
  exact ⟨fun kind => (orderly kind).elim fun id ends => ⟨job.work, id, rfl, ends⟩, trivial⟩

namespace Serves

variable {session after : Session H} {waiting forwarded : List String}
  (serves : session.Serves waiting forwarded)

include serves

theorem waitingLines_eq : session.waitingLines = waiting := by
  obtain ⟨backlog, holds, lines⟩ := serves.backlog
  rw [waitingLines, holds.queuedJobs_eq, lines]

theorem of_same (scheduler : after.scheduler = session.scheduler)
    (ears : after.world.ears = session.world.ears) : after.Serves waiting forwarded := by
  obtain ⟨backlog, holds, lines⟩ := serves.backlog
  exact ⟨⟨backlog, holds.of_scheduler_eq scheduler, lines⟩, by rw [ears]; exact serves.ears⟩

theorem of_post {job : Job} (posted : job.Posted)
    (scheduler : after.scheduler = (session.scheduler.post (job.map Script.once)).1)
    (ears : after.world.ears = session.world.ears) :
    after.Serves (waiting ++ job.work.chatLine?.toList) forwarded := by
  obtain ⟨backlog, holds, rfl⟩ := serves.backlog
  exact ⟨⟨_, holds.of_post posted scheduler, chatLines_post holds.accepting holds.posted posted⟩,
    by rw [ears]; exact serves.ears⟩

/-- Once what happened was delivered. -/
theorem delivered : Serves (session.mapWorld fun world => { world with events := [] })
    waiting [] := by
  obtain ⟨backlog, holds, lines⟩ := serves.backlog
  obtain ⟨calls, ears⟩ := serves.ears
  exact ⟨⟨backlog, holds.of_scheduler_eq rfl, lines⟩, calls,
    Prod.ext (congrArg Prod.fst ears :) rfl⟩

variable [ReflectionHost H]

theorem receive (now : Nat) (frame : Bytes) : (session.receive now frame).1.Serves
    (waiting ++ (session.broughtLine? frame).toList) forwarded := by
  have scheduled := scheduler_receive session now frame
  have ears := ears_receive session now frame
  unfold broughtLine?
  cases accepted : session.accepted? frame with
  | none =>
      rw [accepted] at scheduled
      simpa using serves.of_same scheduled ears
  | some message =>
      rw [accepted] at scheduled
      have valid := valid_of_accept (accepted?_eq_some_iff.1 accepted).2
      exact serves.of_post (.message valid) scheduled ears

theorem sendLocal (caller : Caller) (state : AvatarState) :
    (session.sendLocal caller state).1.Serves waiting forwarded := by
  have scheduled := scheduler_sendLocal session caller state
  have ears := ears_sendLocal session caller state
  split at scheduled
  · rename_i id written
    have valid := (localWrite?_eq_some_iff.1 written).2.1
    simpa [localJob, Work.chatLine?] using
      serves.of_post (.localWrite id valid) scheduled ears
  · exact serves.of_same scheduled ears

omit [ReflectionHost H] in
theorem sendChat (text : String) :
    (session.onWorld (·.sendChat text)).1.Serves waiting forwarded := by
  refine serves.of_same rfl ?_
  simp only [onWorld, World.sendChat]
  split
  · rfl
  · exact World.ears_enqueue session.world (.chat text)

/-- A frame on the game thread forwards the chat lines that wait, each of them once. -/
theorem runFrame (number : Nat) :
    (session.runFrame .gameThread number).1.Serves [] (forwarded ++ waiting) := by
  obtain ⟨backlog, holds, rfl⟩ := serves.backlog
  obtain ⟨calls, ears⟩ := serves.ears
  have performed := World.ears_performAll_forwarding ears
    fun job waits => (holds.posted job waits).ne_note
  have finished := World.ears_finishFrame_forwarding performed .gameThread number
  rw [runFrame_eq, drain_gameThread holds.queued holds.accepting]
  constructor
  · exact ⟨backlog.take.1.countExecuted backlog.queue.length,
      ⟨rfl, holds.accepting, fun job waits => by cases waits⟩, rfl⟩
  · rw [List.map_append]
    exact ⟨_, finished⟩

/-- The end of the session on the game thread forwards nothing: the chat lines that wait are
dropped. -/
theorem events_shutDown : (session.shutDown .gameThread).world.events =
    forwarded.map .forwarded := by
  obtain ⟨backlog, holds, -⟩ := serves.backlog
  obtain ⟨calls, ears⟩ := serves.ears
  have despawns : ∀ job ∈ despawnJobs session.scheduler.queue,
      ∃ id, job.work.despawned? = some id :=
    fun _ among => despawned_of_mem holds.orderly.onlyDespawns among
  have silent : chatLines (despawnJobs session.scheduler.queue) = [] := by
    refine List.filterMap_eq_nil_iff.mpr fun job among => ?_
    obtain ⟨id, ends⟩ := despawns job among
    cases work : job.work <;> simp_all [Work.chatLine?, Work.despawned?]
  have performed := World.ears_performAll_forwarding (session.ears_stop.trans ears)
    fun job among label noted => by
      obtain ⟨id, ends⟩ := despawns job among
      rw [noted] at ends
      cases ends
  rw [silent, List.map_nil, List.append_nil] at performed
  rw [shutDown_gameThread holds.orderly]
  exact congrArg Prod.snd performed

end Serves

/-- A session serves the loader once the chat forwarder is registered. -/
theorem serves_start (host : CountedHost H) (report : Report) (settings : Settings) :
    Serves (Session.mapWorld (Session.start host report settings) fun world =>
      { world with listeners := (world.listeners.add Plugin.chatForwarder).1 }) [] [] where
  backlog := ⟨Scheduler.ofSoftCap settings.scheduler.softCap, ⟨rfl, rfl, nofun⟩, rfl⟩
  ears := ⟨0, rfl⟩

end Session

/-! ### What the loader calls -/

/-- What comes to a plugin that was loaded: from its loader on the game thread, from the
networking layer on any thread, and from what finds the host unsupported or changes it. -/
inductive LoaderCall (H : Type) where
  | load (table : Option TableHeader)
  | unload
  | registryReady
  | registryChanged
  | gameFrame
  /-- The loader listens to chat lines from here on, or no longer. -/
  | listenToChat (listens : Bool)
  | receive (thread : Thread) (now : Nat) (frame : Bytes)
  | poll (thread : Thread)
  | setLocalEntity (thread : Thread) (id : EntityId)
  | sendLocal (thread : Thread) (state : AvatarState)
  | sendChat (thread : Thread) (bytes : Bytes)
  | requestDisconnect (reason : String)
  /-- A fatal condition is raised, by whatever finds it. -/
  | raiseUnsupported (reason : String)
  /-- The host's objects are others from here on, and it may be ready or not. -/
  | hostChanges (store : H)

namespace Plugin

variable {H : Type}

/-- The chat lines that wait in the queue of the running session. -/
def waitingLines (plugin : Plugin H) : List String :=
  plugin.session?.elim [] Session.waitingLines

/-- The chat line that a frame from the server brings, if a session takes it over. -/
def broughtLine? (plugin : Plugin H) (frame : Bytes) : Option String :=
  plugin.session?.bind (·.broughtLine? frame)

/-- What reaches the loader of chat lines that were forwarded: all of them if it listens, each
of them once. -/
def reached (plugin : Plugin H) (lines : List String) : List Event :=
  if plugin.listensToChat then lines.map .forwarded else []

/-- What a call delivers to the loader. -/
def deliveredBy (plugin : Plugin H) : LoaderCall H → List Event
  | .gameFrame => plugin.reached plugin.waitingLines
  | _ => []

/-- The chat lines that wait after a call: a frame forwards them and an end drops them. -/
def waitingAfter (plugin : Plugin H) : LoaderCall H → List String
  | .gameFrame | .unload => []
  | .receive _ _ frame => plugin.waitingLines ++ (plugin.broughtLine? frame).toList
  | _ => plugin.waitingLines

/-- The plugin was loaded on the thread.  A session that runs there serves the loader, and
the flag of the registry signal is set; those chat lines wait in it. -/
inductive Attended (thread : Thread) : List String → Plugin H → Prop
  | idle {plugin : Plugin H} {host : CountedHost H} {report : Report} {registryReady : Bool}
      (phase : plugin.phase = .idle host report)
      (loading : plugin.loading = some { thread, registryReady }) : Attended thread [] plugin
  | running {plugin : Plugin H} {session : Session H} {waiting : List String}
      (phase : plugin.phase = .running thread session)
      (loading : plugin.loading = some { thread, registryReady := true })
      (serves : session.Serves waiting []) : Attended thread waiting plugin

/-- Whoever attended to the plugin does so afterwards; what was delivered in between. -/
structure Passes (thread : Thread) (before after : Plugin H) (waiting : List String)
    (events : List Event) : Prop where
  attended : after.Attended thread waiting
  delivered : after.delivered = before.delivered ++ events

variable {thread : Thread} {waiting : List String} {plugin : Plugin H}

theorem reached_nil (plugin : Plugin H) : plugin.reached [] = [] := by
  unfold reached
  split <;> rfl

/-- Reading the settings is nothing to a session. -/
theorem configure_same (plugin : Plugin H) :
    ∃ files settings, plugin.configure.1 = { plugin with files, settings } := by
  unfold configure
  split
  · exact ⟨_, _, rfl⟩
  · exact ⟨_, _, rfl⟩

/-- What a session forwarded is delivered, and the plugin goes on with the session. -/
theorem passes_resume (plugin : Plugin H) {session : Session H} {forwarded : List String}
    (loading : plugin.loading = some { thread, registryReady := true })
    (serves : session.Serves waiting forwarded) :
    plugin.Passes thread (plugin.resume thread session) waiting (plugin.reached forwarded) where
  attended := .running rfl loading serves.delivered
  delivered := by
    obtain ⟨calls, ears⟩ := serves.ears
    have events : session.world.events = forwarded.map .forwarded := congrArg Prod.snd ears
    have all : (session.world.events.filter plugin.delivers) = plugin.reached forwarded := by
      rw [events, reached]
      split <;> (rename_i listens; simp [List.filter_map, Function.comp_def, delivers, listens])
    simp only [resume, deliver, all]

namespace Attended

theorem waitingLines_eq (attended : plugin.Attended thread waiting) :
    plugin.waitingLines = waiting := by
  cases attended with
  | idle phase loading => simp [waitingLines, session?, phase]
  | running phase loading serves =>
      simp only [waitingLines, session?, phase, Option.elim]
      exact serves.waitingLines_eq

theorem loading (attended : plugin.Attended thread waiting) :
    ∃ registryReady, plugin.loading = some { thread, registryReady } := by
  cases attended with
  | idle phase loading => exact ⟨_, loading⟩
  | running phase loading serves => exact ⟨_, loading⟩

theorem serves (attended : plugin.Attended thread waiting) {session : Session H}
    (runs : plugin.session? = some session) : session.Serves waiting [] := by
  cases attended with
  | idle phase loading => simp [session?, phase] at runs
  | running phase loading serves =>
      simp only [session?, phase, Option.some.injEq] at runs
      exact runs ▸ serves

/-- What is neither the phase nor the loading may be anything. -/
theorem of_same (attended : plugin.Attended thread waiting) {after : Plugin H}
    (phase : after.phase = plugin.phase) (loading : after.loading = plugin.loading) :
    after.Attended thread waiting := by
  cases attended with
  | idle idle loaded => exact .idle (phase.trans idle) (loading.trans loaded)
  | running running loaded serves =>
      exact .running (phase.trans running) (loading.trans loaded) serves

/-- While nothing is running the flag of the registry signal may be anything. -/
theorem markReady (idle : plugin.isRunning = false) (attended : plugin.Attended thread waiting)
    (registryReady : Bool) : (plugin.markReady registryReady).Attended thread waiting := by
  cases attended with
  | idle phase loading =>
      have marked : (plugin.markReady registryReady).loading = some { thread, registryReady } := by
        simp [Plugin.markReady, loading]
      exact .idle phase marked
  | running phase loading serves => simp [isRunning, session?, phase] at idle

/-- Something is done with the running session that forwards no chat line. -/
theorem onSession {α : Type} (attended : plugin.Attended thread waiting) (caller : Thread)
    (otherwise : α) {change : Caller → Session H → Session H × α} {after : List String}
    (kept : ∀ session, plugin.session? = some session → session.Serves waiting [] →
      ∀ caller, (change caller session).1.Serves after [])
    (idle : plugin.session? = none → after = waiting) :
    plugin.Passes thread (plugin.onSession caller otherwise change).1 after [] := by
  cases attended with
  | idle phase loading =>
      rw [idle (by simp [session?, phase])]
      simp only [Plugin.onSession, phase]
      exact ⟨.idle phase loading, (List.append_nil _).symm⟩
  | running phase loading serves =>
      have changed := kept _ (by simp [session?, phase]) serves (caller.callerFor thread)
      simp only [Plugin.onSession, phase]
      have passes := passes_resume plugin loading changed
      rwa [reached_nil] at passes

/-- Something is done with the running session that leaves its chat lines alone. -/
theorem onSession_still {α : Type} (attended : plugin.Attended thread waiting) (caller : Thread)
    (otherwise : α) {change : Caller → Session H → Session H × α}
    (kept : ∀ session, session.Serves waiting [] → ∀ caller,
      (change caller session).1.Serves waiting []) :
    plugin.Passes thread (plugin.onSession caller otherwise change).1 waiting [] :=
  attended.onSession caller otherwise (fun session _ => kept session) fun _ => rfl

/-- The host and the report may become anything. -/
theorem withHostAndReport (attended : plugin.Attended thread waiting) (host : CountedHost H)
    (report : Report) :
    plugin.Passes thread (plugin.withHostAndReport host report) waiting [] := by
  unfold Plugin.withHostAndReport
  cases attended with
  | idle phase loading =>
      simp only [phase]
      exact ⟨.idle rfl loading, (List.append_nil _).symm⟩
  | running phase loading serves =>
      simp only [phase]
      exact ⟨.running rfl loading (serves.of_same rfl rfl), (List.append_nil _).symm⟩

/-- A load while the plugin is loaded reads the settings at most. -/
theorem load (attended : plugin.Attended thread waiting) (table : Option TableHeader) :
    plugin.Passes thread (plugin.load thread table).1 waiting [] := by
  obtain ⟨files, settings, configured⟩ := plugin.configure_same
  obtain ⟨registryReady, loaded⟩ := attended.loading
  have loads : (plugin.load thread table).1 = { plugin with files, settings } := by
    simp only [Plugin.load, configured, loaded]
  rw [loads]
  exact ⟨attended.of_same rfl rfl, (List.append_nil _).symm⟩

variable [ReflectionHost H]

theorem shutDown (attended : plugin.Attended thread waiting) :
    plugin.Passes thread (plugin.shutDown thread).1 [] [] := by
  cases attended with
  | idle phase loading =>
      simp only [Plugin.shutDown, phase]
      exact ⟨.idle phase loading, (List.append_nil _).symm⟩
  | running phase loading serves =>
      have same : thread.callerFor thread = .gameThread := if_pos rfl
      simp only [Plugin.shutDown, phase, same]
      refine ⟨.idle rfl loading, ?_⟩
      simp only [deliver, serves.events_shutDown]
      rfl

/-- While no session is running, a start leaves it so or makes a fresh one. -/
theorem start_of_idle {host : CountedHost H} {report : Report}
    (phase : plugin.phase = .idle host report) (thread : Thread) (settings : Settings) :
    (∃ error left, plugin.start thread settings =
        ({ plugin with phase := .idle host left }, .error error)) ∨
      ∃ left, plugin.start thread settings =
        ({ plugin with phase := .running thread (Session.start host left settings) }, .ok ()) := by
  have same : ({ plugin with phase := .idle host report } : Plugin H) = plugin := by rw [← phase]
  simp only [Plugin.start, phase]
  split
  · split
    · exact .inl ⟨_, report, by rw [same]⟩
    · unfold Session.start?
      cases Scheduler.roomFault? settings.scheduler.softCap with
      | some fault => exact .inl ⟨_, _, rfl⟩
      | none => exact .inr ⟨_, rfl⟩
  · exact .inl ⟨_, report, by rw [same]⟩

/-- The session of the loader starts with the chat forwarder, or none does. -/
theorem startForLoader {host : CountedHost H} {report : Report}
    (phase : plugin.phase = .idle host report)
    (loading : plugin.loading = some { thread, registryReady := true }) :
    plugin.Passes thread (plugin.startForLoader thread).1 [] [] ∧
      (plugin.startForLoader thread).2 = (plugin.startForLoader thread).1.isRunning := by
  obtain ⟨files, settings, configured⟩ := plugin.configure_same
  have idle : plugin.configure.1.phase = .idle host report := by rw [configured, phase]
  rcases start_of_idle idle thread plugin.configure.2 with
    ⟨error, report, refused⟩ | ⟨report, started⟩
  · unfold Plugin.startForLoader
    dsimp only
    rw [refused, configured]
    exact ⟨⟨.idle rfl loading, (List.append_nil _).symm⟩, rfl⟩
  · have passes := passes_resume plugin loading
      (Session.serves_start host report plugin.configure.2)
    rw [reached_nil] at passes
    unfold Plugin.startForLoader
    dsimp only
    rw [started, configured]
    exact ⟨⟨passes.attended.of_same rfl rfl, passes.delivered⟩, rfl⟩

/-- The signal of the registry is answered by whether a session is running then; a running one
goes on. -/
theorem registryReady (attended : plugin.Attended thread waiting) :
    plugin.Passes thread (plugin.registryReady thread).1 waiting [] ∧
      (plugin.registryReady thread).2 = (plugin.registryReady thread).1.isRunning ∧
      (plugin.isRunning = true → plugin.registryReady thread = (plugin, true)) := by
  cases attended with
  | idle phase loading =>
      have stopped : plugin.isRunning = false := by simp [isRunning, session?, phase]
      have marked : (plugin.markReady true).loading =
          some { thread, registryReady := true } := by simp [Plugin.markReady, loading]
      have idle : (plugin.markReady true).phase = .idle _ _ := phase
      obtain ⟨passes, answer⟩ := startForLoader idle marked
      have starts : plugin.registryReady thread =
          (plugin.markReady true).startForLoader thread := by
        simp [Plugin.registryReady, loading, stopped]
      rw [starts]
      refine ⟨⟨passes.attended, passes.delivered⟩, answer, fun runs => ?_⟩
      exact absurd (stopped.symm.trans runs) Bool.false_ne_true
  | running phase loading serves =>
      have runs : plugin.isRunning = true := by simp [isRunning, session?, phase]
      have same : plugin.registryReady thread = (plugin, true) := by
        simp [Plugin.registryReady, loading, runs]
      rw [same]
      exact ⟨⟨.running phase loading serves, (List.append_nil _).symm⟩, runs.symm, fun _ => rfl⟩

/-- A frame of the game delivers the chat lines that wait, and tears the session down if that
was asked for; a frame that unwinds delivers them too. -/
theorem gameFrame (attended : plugin.Attended thread waiting) :
    plugin.Passes thread (plugin.gameFrame thread).1 [] (plugin.reached waiting) := by
  cases attended with
  | idle phase loading =>
      rw [gameFrame_idle phase, reached_nil]
      exact ⟨.idle phase loading, (List.append_nil _).symm⟩
  | running phase loading serves =>
      have same : thread.callerFor thread = .gameThread := if_pos rfl
      have passes := passes_resume { plugin with frames := plugin.frames + 1 } loading
        (serves.runFrame (plugin.frames + 1))
      rw [List.nil_append] at passes
      simp only [Plugin.gameFrame, Plugin.onSession, phase, same]
      split <;> (rename_i answered; obtain ⟨rfl, -⟩ := Prod.mk.inj answered)
      · exact ⟨passes.attended, passes.delivered⟩
      · split
        · have ended := passes.attended.shutDown
          refine ⟨ended.attended, ended.delivered.trans ?_⟩
          rw [List.append_nil]
          exact passes.delivered
        · exact ⟨passes.attended, passes.delivered⟩

end Attended

variable [ReflectionHost H]

/-- What a call makes of a plugin that was loaded on the thread. -/
def take (thread : Thread) (plugin : Plugin H) : LoaderCall H → Plugin H
  | .load table => (plugin.load thread table).1
  | .unload => plugin.unload thread
  | .registryReady => (plugin.registryReady thread).1
  | .registryChanged => plugin.registryChanged thread
  | .gameFrame => (plugin.gameFrame thread).1
  | .listenToChat listens => { plugin with listensToChat := listens }
  | .receive caller now frame => (plugin.receive caller now frame).1
  | .poll caller => (plugin.poll caller).1
  | .setLocalEntity caller id => (plugin.setLocalEntity caller id).1
  | .sendLocal caller state => (plugin.sendLocal caller state).1
  | .sendChat caller bytes => (plugin.sendChat caller bytes).1
  | .requestDisconnect reason =>
    plugin.withHostAndReport plugin.host (plugin.report.requestDisconnect reason)
  | .raiseUnsupported reason =>
    plugin.withHostAndReport plugin.host (plugin.report.raiseUnsupported reason)
  | .hostChanges store => plugin.withHostAndReport { plugin.host with store } plugin.report

/-- What calls make of the plugin, one after another. -/
def takeAll (thread : Thread) (plugin : Plugin H) (calls : List (LoaderCall H)) : Plugin H :=
  calls.foldl (take thread) plugin

namespace Attended

/-- Every call delivers the chat lines that are due, and is attended to. -/
theorem take (attended : plugin.Attended thread waiting) (call : LoaderCall H) :
    plugin.Passes thread (plugin.take thread call) (plugin.waitingAfter call)
      (plugin.deliveredBy call) := by
  obtain rfl := attended.waitingLines_eq
  cases call with
  | load table => exact attended.load table
  | unload =>
      have ended := attended.shutDown
      exact ⟨ended.attended.markReady (plugin.shutDown_answer thread).2 false, ended.delivered⟩
  | registryReady => exact attended.registryReady.1
  | registryChanged =>
      exact attended.onSession_still thread () fun _ serves _ => serves.of_same rfl rfl
  | gameFrame => exact attended.gameFrame
  | listenToChat listens => exact ⟨attended.of_same rfl rfl, (List.append_nil _).symm⟩
  | receive caller now frame =>
      refine attended.onSession caller _ (fun session running serves _ => ?_) fun idle => ?_
      · have received := serves.receive now frame
        simp only [waitingAfter, broughtLine?, running, Option.bind_some]
        split <;> (rename_i answered; rw [answered] at received; exact received)
      · simp [waitingAfter, broughtLine?, idle]
  | poll caller => exact attended.onSession_still caller _ fun _ serves _ => serves.of_same rfl rfl
  | setLocalEntity caller id =>
      exact attended.onSession_still caller _ fun _ serves _ =>
        serves.of_same rfl (World.ears_setLocalEntity _ id)
  | sendLocal caller state =>
      exact attended.onSession_still caller _ fun _ serves caller => serves.sendLocal caller state
  | sendChat caller bytes =>
      unfold Plugin.take Plugin.sendChat
      dsimp only
      split
      · exact ⟨attended, (List.append_nil _).symm⟩
      · exact attended.onSession_still caller _ fun _ serves _ => serves.sendChat _
  | requestDisconnect reason => exact attended.withHostAndReport _ _
  | raiseUnsupported reason => exact attended.withHostAndReport _ _
  | hostChanges store => exact attended.withHostAndReport _ _

theorem takeAll (attended : plugin.Attended thread waiting) (calls : List (LoaderCall H)) :
    ∃ left, (plugin.takeAll thread calls).Attended thread left := by
  induction calls generalizing plugin waiting with
  | nil => exact ⟨waiting, attended⟩
  | cons call rest ih => exact ih (attended.take call).attended

end Attended

omit [ReflectionHost H] in
/-- A plugin that was just loaded is attended to on the thread that loaded it. -/
theorem attended_load {plugin : Plugin H} {thread : Thread} {table : Option TableHeader}
    (stopped : plugin.isRunning = false) (unloaded : plugin.loading = none)
    (loaded : (plugin.load thread table).2 = .ok ()) :
    (plugin.load thread table).1.Attended thread [] := by
  obtain ⟨files, settings, configured⟩ := plugin.configure_same
  simp only [load, configured, unloaded] at loaded ⊢
  cases phase : plugin.phase with
  | running gameThread session => simp [isRunning, session?, phase] at stopped
  | idle host report =>
      cases checked : TableHeader.check table with
      | error error => simp [checked] at loaded
      | ok answer => exact .idle rfl rfl

/-- After a load, whatever the loader, the host and the networking layer call and however ready or
unsupported the host is by then: the signal of the registry answers whether a session is running
when it returns, and repeating it while one is running changes nothing.  Every session that
is running has one chat forwarder and no other listener.  A frame of the game delivers each chat
line that waits once, in order, if the loader listens, and leaves none; an unload drops them; no
other call delivers anything, and only a frame from the server brings a line. -/
theorem loader_session_consistent (plugin : Plugin H) (thread : Thread)
    (table : Option TableHeader) (stopped : plugin.isRunning = false)
    (unloaded : plugin.loading = none) (loaded : (plugin.load thread table).2 = .ok ())
    (calls : List (LoaderCall H)) :
    let now := (plugin.load thread table).1.takeAll thread calls
    (now.registryReady thread).2 = (now.registryReady thread).1.isRunning ∧
      (now.isRunning = true → now.registryReady thread = (now, true)) ∧
      (∀ session, now.session? = some session →
        ∃ heard, session.world.listeners = .forwarding heard) ∧
      ∀ call : LoaderCall H,
        (now.take thread call).delivered = now.delivered ++ now.deliveredBy call ∧
          (now.take thread call).waitingLines = now.waitingAfter call := by
  intro now
  obtain ⟨waiting, attended⟩ := (attended_load stopped unloaded loaded).takeAll calls
  obtain ⟨-, answer, repeated⟩ := attended.registryReady
  refine ⟨answer, repeated, fun session runs => ?_, fun call => ?_⟩
  · obtain ⟨heard, ears⟩ := (attended.serves runs).ears
    exact ⟨heard, congrArg Prod.fst ears⟩
  · have passes := attended.take call
    exact ⟨passes.delivered, passes.attended.waitingLines_eq⟩

/-- The signal is repeated, a chat line is dropped by an unload, and the second session is torn
down by a frame that still delivers its line; the host is unsupported from then on. -/
theorem loader_session_consistent_over_restarts :
    let fresh : Plugin (Loaded TableStore) := { phase := .idle { store := { table := {} } } {} }
    let game : Thread := { number := 0 }
    let table : Option TableHeader := some { version := 1, missing := [] }
    let line (text : String) : LoaderCall (Loaded TableStore) :=
      .receive { number := 1 } 0 ((Message.chat text).encode.toOption.getD [])
    let calls : List (LoaderCall (Loaded TableStore)) :=
      [ .registryReady, .registryReady, line "unheard", .gameFrame, .listenToChat true, line "one"
      , .registryReady, line "two", .gameFrame, line "dropped", .unload, .registryReady
      , .raiseUnsupported "layout", line "three" ]
    let now := (fresh.load game table).1.takeAll game calls
    let torn := now.take game .gameFrame
    fresh.isRunning = false ∧ fresh.loading = none ∧ (fresh.load game table).2 = .ok () ∧
      now.delivered = [.forwarded "one", .forwarded "two"] ∧
      torn.delivered = now.delivered ++ [.forwarded "three"] ∧
      torn.isRunning = false ∧ (torn.registryReady game).2 = false := by
  intro fresh game table line calls now torn
  have loaded : (fresh.load game table).2 = .ok () := by rfl
  obtain ⟨-, -, -, delivers⟩ := loader_session_consistent fresh game table rfl rfl loaded calls
  have due : now.deliveredBy .gameFrame = [.forwarded "three"] := by decide +kernel
  have delivered := (delivers .gameFrame).1
  rw [due] at delivered
  exact ⟨rfl, rfl, loaded, by decide +kernel, delivered, by decide +kernel, by decide +kernel⟩

end Plugin

end ReplicaBridge
