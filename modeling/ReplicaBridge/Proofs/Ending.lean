/-
Module: ReplicaBridge.Proofs.Ending
Purpose: The end of a session is complete and final.  On the game thread the despawns that wait
  are run in their order and nothing else is; then all that was replicated, resolved and
  registered is gone, and whatever is asked of the session later, nothing comes in, nothing goes
  out and no host is called, also if work was left in the queue.
Main exports: Work.despawned?, despawnJobs, Session.drain_shuttingDown, Operation.Lawful,
  Session.Orderly, World.Bare, Operation.Late, Session.Over, Session.Over.operateAll,
  Session.Unresponsive, Session.stop, World.forgetAll, Session.ending_complete_and_final
-/
import ReplicaBridge.Proofs.Callbacks
import ReplicaBridge.Proofs.SessionOperations
import ReplicaBridge.Proofs.SteadyLoop
import ReplicaBridge.Proofs.ToldSignals

namespace ReplicaBridge

open Host (CountedHost Loaded Recorded ReflectionHost TableStore)
open Schedule (GameLoop QueueEvent Scheduler Script TaskKind)
open Wire (Message)

/-! ### Queued despawns -/

/-- The entity that work despawns, on the server's word or because any thread asked for it. -/
def Work.despawned? : Work → Option EntityId
  | .receiveDespawn id | .despawn id => some id
  | _ => none

/-- A task of the kind that the end of a session still runs does nothing but a despawn. -/
def OnlyDespawns (task : Schedule.Task (Script Work)) : Prop :=
  task.kind = .despawn → ∃ work id, task.work = .once work ∧ work.despawned? = some id

/-- The job of a task that despawns. -/
def despawnJob? (task : Schedule.Task (Script Work)) : Option Job :=
  match task.kind, task.work with
  | .despawn, .act work .done => some { kind := .despawn, work }
  | _, _ => none

/-- The despawns of a queue, in order. -/
def despawnJobs (queue : List (Schedule.Task (Script Work))) : List Job :=
  queue.filterMap despawnJob?

theorem despawnJob?_of_kind_ne {task : Schedule.Task (Script Work)} (other : task.kind ≠ .despawn) :
    despawnJob? task = none := by
  unfold despawnJob?
  split
  · rename_i kind _
    exact absurd kind other
  · rfl

theorem despawnJob?_of_kind {task : Schedule.Task (Script Work)} (orderly : OnlyDespawns task)
    (kind : task.kind = .despawn) : ∃ job id, despawnJob? task = some job ∧
      task = job.map Script.once ∧ job.work.despawned? = some id := by
  obtain ⟨work, id, once, despawns⟩ := orderly kind
  obtain ⟨taskKind, script⟩ := task
  subst kind once
  exact ⟨{ kind := .despawn, work }, id, rfl, rfl, despawns⟩

/-- Nothing of the kind that outlives the end is left out. -/
theorem filter_despawn {queue : List (Schedule.Task (Script Work))}
    (orderly : ∀ task ∈ queue, OnlyDespawns task) :
    queue.filter (·.kind == .despawn) =
      (despawnJobs queue).map (Schedule.Task.map Script.once) := by
  induction queue with
  | nil => rfl
  | cons task rest ih =>
      obtain ⟨first, later⟩ := List.forall_mem_cons.mp orderly
      unfold despawnJobs at ih ⊢
      by_cases kind : task.kind = .despawn
      · obtain ⟨job, id, found, single, -⟩ := despawnJob?_of_kind first kind
        rw [List.filter_cons_of_pos (by simp [kind]), List.filterMap_cons_some found, ih later,
          List.map_cons, single]
      · rw [List.filter_cons_of_neg (by simp [kind]),
          List.filterMap_cons_none (despawnJob?_of_kind_ne kind), ih later]

/-- Every job among the despawns of a queue despawns something. -/
theorem despawned_of_mem {queue : List (Schedule.Task (Script Work))}
    (orderly : ∀ task ∈ queue, OnlyDespawns task) {job : Job} (among : job ∈ despawnJobs queue) :
    ∃ id, job.work.despawned? = some id := by
  obtain ⟨task, waits, found⟩ := List.mem_filterMap.mp among
  by_cases kind : task.kind = .despawn
  · obtain ⟨other, id, known, -, despawns⟩ := despawnJob?_of_kind (orderly task waits) kind
    cases found.symm.trans known
    exact ⟨id, despawns⟩
  · cases found.symm.trans (despawnJob?_of_kind_ne kind)

namespace Session

variable {H : Type} [ReflectionHost H]

/-- A batch that is run at the end: the despawns are performed, all else is dropped. -/
theorem runBatch_shuttingDown (nested : GameLoop.Nested Work (World H))
    {batch : List (Schedule.Task (Script Work))} (orderly : ∀ task ∈ batch, OnlyDespawns task)
    (session : Session H) :
    GameLoop.runBatch nested true batch session =
      ({ scheduler := session.scheduler.countDiscarded (batch.length - (despawnJobs batch).length)
         world := World.performAll (despawnJobs batch) session.world },
        (despawnJobs batch).length) := by
  induction batch generalizing session with
  | nil => rfl
  | cons task rest ih =>
      obtain ⟨first, later⟩ := List.forall_mem_cons.mp orderly
      have fewer : (despawnJobs rest).length ≤ rest.length := List.length_filterMap_le _ _
      by_cases kind : task.kind = .despawn
      · obtain ⟨job, id, found, single, -⟩ := despawnJob?_of_kind first kind
        have jobs : despawnJobs (task :: rest) = job :: despawnJobs rest :=
          List.filterMap_cons_some found
        have stays : (true && task.kind != .despawn) = false := by simp [kind]
        rw [GameLoop.runBatch, stays, if_neg Bool.false_ne_true, jobs]
        rw [single, runTask_once, ih later]
        simp only [List.length_cons, Nat.add_sub_add_right, World.performAll_cons]
      · have jobs : despawnJobs (task :: rest) = despawnJobs rest :=
          List.filterMap_cons_none (despawnJob?_of_kind_ne kind)
        have goes : (true && task.kind != .despawn) = true := by simp [kind]
        rw [GameLoop.runBatch, if_pos goes, ih later, jobs]
        simp only [Scheduler.countDiscarded, List.length_cons, Prod.mk.injEq, and_true]
        congr 2
        omega

/-- The queue when the despawns in it were run and everything else was dropped. -/
def emptied (scheduler : Scheduler (Script Work)) : Scheduler (Script Work) :=
  let run := (despawnJobs scheduler.queue).length
  (scheduler.take.1.countDiscarded (scheduler.length - run)).countExecuted run

theorem drain_shuttingDown {session : Session H}
    (orderly : ∀ task ∈ session.scheduler.queue, OnlyDespawns task)
    (stopped : session.scheduler.shuttingDown = true) :
    GameLoop.drain session .gameThread =
      ({ scheduler := emptied session.scheduler
         world := World.performAll (despawnJobs session.scheduler.queue) session.world },
        (despawnJobs session.scheduler.queue).length) := by
  have taken : session.scheduler.take.2 = session.scheduler.queue := rfl
  have still : session.scheduler.take.1.shuttingDown = true := stopped
  simp only [GameLoop.drain, GameLoop.drainTo, GameLoop.drainOnce]
  rw [taken, still, runBatch_shuttingDown _ orderly]
  rfl

end Session

/-! ### What is queued -/

/-- A job of the kind that the end of a session still runs despawns something. -/
def Job.Orderly (job : Job) : Prop :=
  job.kind = .despawn → ∃ id, job.work.despawned? = some id

theorem Session.orderly_jobFor (message : Message) : (Session.jobFor message).Orderly := by
  intro kind
  cases message with
  | humanDespawn id => exact ⟨id, rfl⟩
  | _ => cases kind

theorem Mutation.orderly_job {mutation : Mutation} {owner : Option EntityId} {job : Job}
    (made : mutation.job owner = .ok job) : job.Orderly := by
  intro kind
  cases mutation with
  | despawn id =>
      cases made
      exact ⟨id, rfl⟩
  | advanceHours hours =>
      cases made
      cases kind
  | applySeason season | applySeasonByte value | applyUpdate id state | spawn id state =>
      simp only [Mutation.job] at made
      split at made <;> cases made
      cases kind
  | updateLocal state =>
      simp only [Mutation.job] at made
      split at made
      · cases made
      · split at made <;> cases made
        cases kind

/-- Any task that is posted despawns at most, if it is of the kind that outlives the end. -/
def Operation.Lawful {H : Type} : Operation H → Prop
  | .post _ kind body => Schedule.Task.Fits OnlyDespawns { kind, work := body }
  | _ => True

namespace Session

variable {H : Type}

/-- What waits despawns at most, if it is of the kind that outlives the end. -/
abbrev Orderly (session : Session H) : Prop :=
  GameLoop.Guarded (fun _ : World H => True) OnlyDespawns session

theorem keeps_true [ReflectionHost H] : GameLoop.Keeps fun _ : World H => True where
  perform _ _ _ := trivial
  hear _ _ _ := trivial
  onThread _ _ _ := trivial

theorem Orderly.onlyDespawns {session : Session H} (orderly : session.Orderly) :
    ∀ task ∈ session.scheduler.queue, OnlyDespawns task :=
  fun task waits => (orderly.queue task waits).1

namespace Orderly

variable {session after : Session H} (orderly : session.Orderly)

include orderly

theorem of_scheduler (same : after.scheduler = session.scheduler) : after.Orderly :=
  ⟨trivial, same ▸ orderly.queue⟩

theorem of_post {job : Job} (posted : job.Orderly)
    (scheduler : after.scheduler = (session.scheduler.post (job.map Script.once)).1) :
    after.Orderly := by
  refine ⟨trivial, fun task waits => ?_⟩
  rw [scheduler] at waits
  rcases Scheduler.mem_queue_post waits with before | rfl
  · exact orderly.queue task before
  · exact ⟨fun kind => (posted kind).elim fun id ends => ⟨job.work, id, rfl, ends⟩, trivial⟩

variable [ReflectionHost H]

theorem receive (now : Nat) (frame : Bytes) : (session.receive now frame).1.Orderly := by
  have scheduled := scheduler_receive session now frame
  split at scheduled
  · exact orderly.of_post (orderly_jobFor _) scheduled
  · exact orderly.of_scheduler scheduled

theorem sendLocal (caller : Caller) (state : AvatarState) :
    (session.sendLocal caller state).1.Orderly := by
  have scheduled := scheduler_sendLocal session caller state
  split at scheduled
  · exact orderly.of_post (fun kind => by cases kind) scheduled
  · exact orderly.of_scheduler scheduled

theorem mutate (caller : Caller) (mutation : Mutation) :
    (session.mutate caller mutation).1.Orderly := by
  rw [mutate_eq]
  split
  · rename_i job made
    cases caller with
    | gameThread => exact orderly.of_scheduler rfl
    | elsewhere => exact orderly.of_post (Mutation.orderly_job made) (scheduler_queue _ _ _)
  · exact orderly

theorem shutDown (caller : Caller) : (session.shutDown caller).Orderly := by
  have closed : (session.mapWorld (·.close)).Orderly := orderly.of_scheduler rfl
  have stopped := keeps_true.shutDown closed
  cases caller with
  | gameThread => exact of_scheduler (keeps_true.drain stopped .gameThread) rfl
  | elsewhere => exact of_scheduler stopped rfl

theorem operate {operation : Operation H} (lawful : operation.Lawful) :
    (session.operate operation).Orderly := by
  cases operation with
  | receive now frame => exact orderly.receive now frame
  | mutate caller mutation => exact orderly.mutate caller mutation
  | sendLocal caller state => exact orderly.sendLocal caller state
  | post caller kind body =>
      exact keeps_true.handTo caller (fun _ orderly => keeps_true.post orderly lawful) orderly
  | drain caller => exact keeps_true.drain orderly caller
  | retryPending caller =>
      cases caller with
      | gameThread => exact orderly.of_scheduler rfl
      | elsewhere => exact orderly
  | runFrame caller number =>
      have drained : Orderly _ := keeps_true.drain orderly caller
      have scheduled := congrArg GameLoop.scheduler (runFrame_eq session caller number)
      exact of_scheduler drained scheduled
  | stop caller =>
      exact keeps_true.handTo caller (fun _ orderly => keeps_true.shutDown orderly) orderly
  | shutDown caller => exact orderly.shutDown caller
  | _ => exact orderly.of_scheduler rfl

theorem operateAll {operations : List (Operation H)}
    (lawful : ∀ operation ∈ operations, operation.Lawful) :
    (session.operateAll operations).Orderly := by
  induction operations generalizing session with
  | nil => exact orderly
  | cons operation rest ih =>
      obtain ⟨first, later⟩ := List.forall_mem_cons.mp lawful
      exact ih (orderly.operate first) later

end Orderly

end Session

/-! ### What the despawns do -/

/-- A despawn tells of nothing but itself. -/
theorem Work.kind_signal?_of_despawned {work : Work} {id : EntityId}
    (despawns : work.despawned? = some id) {rows : EntityId → Bool} {signal : Signal}
    (fires : work.signal? rows = some signal) : signal.kind ≠ .chat := by
  cases work with
  | receiveDespawn other =>
      simp only [signal?] at fires
      split at fires <;> cases fires
      intro chat
      cases chat
  | despawn other => cases fires
  | _ => cases despawns

namespace World

variable {H : Type}

/-- What leaves a session: the calls of the host and the frames for the server. -/
def exits (world : World H) : CountedHost H × Nat × Bool :=
  (world.bridge.host, world.channel.sent, world.channel.closed)

theorem exits_noteIf (world : World H) (condition : Bool) (notice : Notice) :
    (world.noteIf condition notice).exits = world.exits := by
  cases condition <;> rfl

/-- No answer is sent to a signal that is no chat line. -/
theorem exits_fire {signal : Signal} (other : signal.kind ≠ .chat) (world : World H) :
    (world.fire signal).1.exits = world.exits := by
  have rings : world.Rings (world.fire signal).1 := rings_fire (.inl other)
  obtain ⟨notices, listeners, events, fired⟩ := rings
  rw [fired]
  simp [exits]

theorem exits_despawn (world : World H) (id : EntityId) :
    (world.despawn id).1.exits = world.exits :=
  (exits_noteIf _ _ _).trans rfl

theorem exits_receiveDespawn (world : World H) (id : EntityId) :
    (world.receiveDespawn id).1.exits = world.exits := by
  have discarded := exits_noteIf
    { world with channel := { world.channel with early := (world.channel.early.discard id).1 } }
    (world.channel.early.discard id).2 (.bufferedUpdateDropped id)
  have removed := (exits_despawn _ id).trans discarded
  unfold receiveDespawn
  dsimp only
  split <;> (rename_i answered; rw [answered] at removed)
  · exact (exits_fire (by nofun) _).trans removed
  · exact removed

/-- Signals are fired one after another. -/
def fireAll (signals : List Signal) (world : World H) : World H :=
  signals.foldl (fun world signal => (world.fire signal).1) world

variable [ReflectionHost H]

theorem exits_performJob {job : Job} {id : EntityId} (despawns : job.work.despawned? = some id)
    (world : World H) : (world.performJob job).exits = world.exits := by
  have performed : (perform job.work world).1.exits = world.exits := by
    obtain ⟨kind, work⟩ := job
    cases work with
    | receiveDespawn other => exact exits_receiveDespawn world other
    | despawn other => exact exits_despawn world other
    | _ => cases despawns
  unfold performJob
  split <;> (rename_i answered; rw [answered] at performed)
  · exact performed
  · exact performed

theorem exits_performAll {jobs : List Job}
    (despawns : ∀ job ∈ jobs, ∃ id, job.work.despawned? = some id) (world : World H) :
    (performAll jobs world).exits = world.exits := by
  induction jobs generalizing world with
  | nil => rfl
  | cons job rest ih =>
      obtain ⟨⟨id, first⟩, later⟩ := List.forall_mem_cons.mp despawns
      exact (ih later _).trans (exits_performJob first world)

/-- Whether or not a job unwinds, what it told is what its work told. -/
theorem ears_performJob (world : World H) (job : Job) :
    (world.performJob job).ears = (world.perform job.work).1.ears := by
  unfold performJob
  split <;> (rename_i answered; rw [answered])
  rfl

/-- Along the despawns the ears take in the signals of those that the server asked for and that
found a row, one after another, and nothing else. -/
theorem ears_performAll {jobs : List Job}
    (despawns : ∀ job ∈ jobs, ∃ id, job.work.despawned? = some id) {world ringing : World H}
    (same : world.ears = ringing.ears) :
    (performAll jobs world).ears = (fireAll (toldAll jobs world) ringing).ears := by
  induction jobs generalizing world ringing with
  | nil => exact same
  | cons job rest ih =>
      obtain ⟨⟨id, first⟩, later⟩ := List.forall_mem_cons.mp despawns
      have unnoted : ∀ label, job.work ≠ .note label := by
        intro label noted
        rw [noted] at first
        cases first
      obtain ⟨quiet, unheard, told⟩ := tells_perform unnoted world
      rw [performAll_cons, toldAll, fireAll, List.foldl_append]
      refine ih later ?_
      rw [ears_performJob, told]
      cases fires : job.work.signal? world.hasRow with
      | none => exact unheard.trans same
      | some signal =>
          exact ears_fire_congr (Work.kind_signal?_of_despawned first fires) (unheard.trans same)

end World

/-! ### A session that is over -/

theorem EntityMap.erase_empty {α : Type} (id : EntityId) :
    (EntityMap.empty : EntityMap α).erase id = .empty :=
  EntityMap.ext fun other => by simp [EntityMap.get?_erase]

theorem EntityMap.filter_empty {α : Type} (keep : α → Bool) :
    (EntityMap.empty : EntityMap α).filter keep = .empty :=
  EntityMap.ext fun other => by simp [EntityMap.get?_filter]

namespace World

variable {H : Type}

/-- Nothing is left of what was replicated, held back, to be sent, resolved and registered, and
the channel is closed. -/
structure Bare (world : World H) : Prop where
  replica : world.replica = { manySchedulersNoted := world.replica.manySchedulersNoted }
  early : world.channel.early = .empty
  outgoing : world.channel.outgoing = []
  objects : world.bridge.registry.objects = []
  functions : world.bridge.registry.functions = []
  listeners : world.listeners.occupied = []
  closed : world.channel.closed = true

namespace Bare

variable {world : World H} (bare : world.Bare)

include bare

theorem of_same {after : World H} (replica : after.replica = world.replica)
    (channel : after.channel = world.channel)
    (registry : after.bridge.registry = world.bridge.registry)
    (listeners : after.listeners = world.listeners) : after.Bare where
  replica := by rw [replica, ← bare.replica]
  early := by rw [channel, bare.early]
  outgoing := by rw [channel, bare.outgoing]
  objects := by rw [registry, bare.objects]
  functions := by rw [registry, bare.functions]
  listeners := by rw [listeners, bare.listeners]
  closed := by rw [channel, bare.closed]

/-- There is no row to remove. -/
theorem despawn (id : EntityId) : world.despawn id = (world, false) := by
  have rows : world.replica.rows = .empty := congrArg Replica.rows bare.replica
  have removed : world.replica.despawn id = (world.replica, false) := by
    unfold Replica.despawn
    rw [rows, EntityMap.erase_empty, EntityMap.contains, EntityMap.get?_empty, ← rows]
    rfl
  unfold World.despawn
  rw [removed]
  rfl

theorem receiveDespawn (id : EntityId) : world.receiveDespawn id = (world, .ok ()) := by
  have discarded : world.channel.early.discard id = (world.channel.early, false) := by
    unfold EarlyUpdates.discard
    rw [bare.early, EarlyUpdates.empty, EntityMap.erase_empty, EntityMap.contains,
      EntityMap.get?_empty]
    rfl
  unfold World.receiveDespawn
  rw [discarded]
  exact congrArg (tellDespawn id) (bare.despawn id)

/-- Nobody hears a frame. -/
theorem fire_frame (number : Nat) : (world.fire (.frame number)).1 = world := by
  have unheard := Listeners.fireEach_of_occupied_nil bare.listeners (.frame number)
    (react (.frame number)) (List.range world.listeners.slots.length) world
  simp only [fire, Listeners.fire, announcement?, Option.elim_none, unheard]

theorem noteIf (condition : Bool) (notice : Notice) : (world.noteIf condition notice).Bare := by
  cases condition <;> exact bare.of_same rfl rfl rfl rfl

/-- There is nothing to age. -/
theorem tick : world.tick.Bare := by
  let ticked := world.channel.advanceTick world.settings.replication.pendingUpdateTicks
  have aged : ticked.1.early = .empty := by
    simp only [ticked, Channel.advanceTick, EarlyUpdates.expire, bare.early, EarlyUpdates.empty,
      EntityMap.filter_empty]
  have bareTicked : ({ world with channel := ticked.1 } : World H).Bare :=
    ⟨bare.replica, aged, bare.outgoing, bare.objects, bare.functions, bare.listeners, bare.closed⟩
  exact bareTicked.noteIf _ _

variable [ReflectionHost H]

theorem performJob {job : Job} {id : EntityId} (despawns : job.work.despawned? = some id) :
    world.performJob job = world := by
  obtain ⟨kind, work⟩ := job
  cases work with
  | receiveDespawn other =>
      simp only [World.performJob, perform, bare.receiveDespawn]
  | despawn other =>
      simp only [World.performJob, perform, bare.despawn]
  | _ => cases despawns

theorem performAll {jobs : List Job}
    (despawns : ∀ job ∈ jobs, ∃ id, job.work.despawned? = some id) :
    World.performAll jobs world = world := by
  induction jobs with
  | nil => rfl
  | cons job rest ih =>
      obtain ⟨⟨id, first⟩, later⟩ := List.forall_mem_cons.mp despawns
      rw [performAll_cons, bare.performJob first, ih later]

/-- There is nothing to try. -/
theorem retryPending : world.retryPending = (world, .ok ()) := by
  have pending : world.replica.pending = {} := congrArg Replica.pending bare.replica
  have kept : world.keepHours [] = world := by
    obtain ⟨settings, bridge, ⟨rows, season, clock, owner, waiting, noted⟩, _, _, _⟩ := world
    obtain rfl : waiting = {} := pending
    rfl
  have season : world.retrySeason = (world, .ok ()) := by
    unfold retrySeason
    rw [pending]
  unfold World.retryPending
  rw [season]
  dsimp only
  rw [pending, replayHours, kept]

/-- All that is left of a frame is that it is counted. -/
theorem finishFrame (caller : Caller) (number : Nat) :
    world.finishFrame caller number = world.tick := by
  cases caller with
  | elsewhere => exact bare.tick.fire_frame number
  | gameThread =>
      unfold World.finishFrame
      rw [bare.retryPending]
      exact bare.tick.fire_frame number

end Bare

end World

/-! ### Operations on a session that is over -/

/-- What may still be asked of a session that is over. -/
inductive Operation.Late {H : Type} : Operation H → Prop
  | receive (now : Nat) (frame : Bytes) : Late (.receive now frame)
  | sendChat (text : String) : Late (.sendChat text)
  | sendLocal (caller : Caller) (state : AvatarState) : Late (.sendLocal caller state)
  | runFrame (caller : Caller) (number : Nat) : Late (.runFrame caller number)
  | poll : Late .poll
  | registryChanged : Late (.bridge Bridge.registryChanged)

namespace Session

variable {H : Type} [ReflectionHost H]

/-- The session is over: it is bare, it accepts no work, and all that waits in its queue
despawns or is going to be dropped.  Its host and its counter of sent frames are the given. -/
structure Over (host : CountedHost H) (sent : Nat) (session : Session H) : Prop where
  bare : session.world.Bare
  exits : session.world.exits = (host, sent, true)
  stopped : session.scheduler.shuttingDown = true
  orderly : session.Orderly

/-- Everything comes back as it is from a session that is over, with the answer that it is
closed. -/
structure Unresponsive (session : Session H) : Prop where
  receive : ∀ now frame, session.receive now frame = (session, .error .closed)
  sendChat : ∀ text, session.onWorld (·.sendChat text) = (session, .error .closed)
  sendLocal : ∀ caller state, session.sendLocal caller state = (session, .error .closed)
  poll : session.poll = (session, none)

theorem unresponsive {session : Session H} (bare : session.world.Bare) :
    session.Unresponsive where
  receive := receive_of_closed bare.closed
  sendChat := sendChat_of_closed bare.closed
  sendLocal := sendLocal_of_closed bare.closed
  poll := by
    simp only [Session.poll, onWorld, Channel.poll, bare.outgoing]

namespace Over

variable {host : CountedHost H} {sent : Nat} {session : Session H}
  (gone : session.Over host sent)

include gone

/-- Despawns that were left in the queue find no row. -/
theorem drain (caller : Caller) : Over host sent (GameLoop.drain session caller).1 := by
  cases caller with
  | elsewhere =>
      rw [drain_elsewhere]
      exact ⟨gone.bare.of_same rfl rfl rfl rfl, gone.exits, gone.stopped,
        gone.orderly.of_scheduler rfl⟩
  | gameThread =>
      have despawns : ∀ job ∈ despawnJobs session.scheduler.queue,
          ∃ id, job.work.despawned? = some id :=
        fun _ among => despawned_of_mem gone.orderly.onlyDespawns among
      have orderly : Orderly _ := keeps_true.drain gone.orderly .gameThread
      rw [drain_shuttingDown gone.orderly.onlyDespawns gone.stopped] at orderly ⊢
      rw [gone.bare.performAll despawns] at orderly ⊢
      exact ⟨gone.bare, gone.exits, gone.stopped, orderly⟩

theorem runFrame (caller : Caller) (number : Nat) :
    (session.runFrame caller number).1.Over host sent := by
  have drained := gone.drain caller
  rw [runFrame_eq]
  refine ⟨?_, ?_, drained.stopped, drained.orderly.of_scheduler rfl⟩
  · simp only [mapWorld, drained.bare.finishFrame]
    exact drained.bare.tick
  · simp only [mapWorld, drained.bare.finishFrame]
    exact (World.exits_noteIf _ _ _).trans drained.exits

theorem operate {operation : Operation H} (late : operation.Late) :
    (session.operate operation).Over host sent := by
  have unresponsive := session.unresponsive gone.bare
  cases late with
  | receive now frame =>
      rw [Session.operate, unresponsive.receive]
      exact gone
  | sendChat text =>
      rw [Session.operate, unresponsive.sendChat]
      exact gone
  | sendLocal caller state =>
      rw [Session.operate, unresponsive.sendLocal]
      exact gone
  | poll =>
      rw [Session.operate, unresponsive.poll]
      exact gone
  | runFrame caller number => exact gone.runFrame caller number
  | registryChanged =>
      refine ⟨?_, gone.exits, gone.stopped, gone.orderly.of_scheduler rfl⟩
      exact { gone.bare with objects := rfl, functions := rfl }

theorem operateAll {operations : List (Operation H)}
    (late : ∀ operation ∈ operations, operation.Late) :
    (session.operateAll operations).Over host sent := by
  induction operations generalizing session with
  | nil => exact gone
  | cons operation rest ih =>
      obtain ⟨first, later⟩ := List.forall_mem_cons.mp late
      exact ih (gone.operate first) later

end Over

/-! ### The end -/

/-- The channel is closed and the queue stops accepting work. -/
def stop (session : Session H) : Session H :=
  GameLoop.shutDown (session.mapWorld (·.close))

end Session

/-- Everything replicated, resolved and registered is forgotten. -/
def World.forgetAll {H : Type} (world : World H) : World H :=
  { world with
    channel := world.channel.clear
    replica := world.replica.clear
    bridge := world.bridge.registryChanged
    listeners := world.listeners.clear }

namespace Session

variable {H : Type} [ReflectionHost H]

theorem shutDown_eq (session : Session H) (caller : Caller) :
    session.shutDown caller =
      Session.mapWorld (lastDrain session.stop caller) (·.forgetAll) := rfl

theorem stop_cases (session : Session H) :
    session.stop.scheduler = { session.scheduler with shuttingDown := true } ∧
      ∃ notices, session.stop.world =
        { session.world.close with bridge := session.world.close.bridge.noteAll notices } := by
  unfold stop GameLoop.shutDown Scheduler.shutDown
  by_cases already : session.scheduler.shuttingDown = true
  · have same : ({ session.scheduler with shuttingDown := true } : Scheduler (Script Work)) =
        session.scheduler := by rw [← already]
    rw [if_pos (by exact already), same]
    exact ⟨rfl, [], rfl⟩
  · rw [if_neg (by exact already)]
    exact ⟨rfl, [_], rfl⟩

theorem shuttingDown_stop (session : Session H) : session.stop.scheduler.shuttingDown = true := by
  rw [session.stop_cases.1]

theorem exits_stop (session : Session H) :
    session.stop.world.exits = (session.world.bridge.host, session.world.channel.sent, true) := by
  have closed : session.world.close.exits =
      (session.world.bridge.host, session.world.channel.sent, true) :=
    World.exits_noteIf _ _ _
  obtain ⟨notices, stopped⟩ := session.stop_cases.2
  rw [stopped, ← closed]
  simp [World.exits]

theorem Orderly.stop {session : Session H} (orderly : session.Orderly) : session.stop.Orderly :=
  keeps_true.shutDown (of_scheduler orderly rfl)

/-- What the last drain leaves for the end. -/
theorem exits_lastDrain {session : Session H} (orderly : session.Orderly) (caller : Caller) :
    (lastDrain session.stop caller).world.exits = session.stop.world.exits := by
  cases caller with
  | elsewhere => rfl
  | gameThread =>
      simp only [lastDrain]
      rw [drain_shuttingDown orderly.stop.onlyDespawns session.shuttingDown_stop]
      exact World.exits_performAll
        (fun _ among => despawned_of_mem orderly.stop.onlyDespawns among) _

theorem over_shutDown {session : Session H} (orderly : session.Orderly) (caller : Caller) :
    (session.shutDown caller).Over session.world.bridge.host session.world.channel.sent := by
  have drained := exits_lastDrain orderly caller
  rw [exits_stop] at drained
  refine ⟨?_, drained, ?_, orderly.shutDown caller⟩
  · exact ⟨rfl, rfl, rfl, rfl, rfl, Listeners.occupied_clear _, congrArg (·.2.2) drained⟩
  · cases caller with
    | elsewhere => exact session.shuttingDown_stop
    | gameThread =>
        rw [shutDown_eq]
        simp only [lastDrain]
        rw [drain_shuttingDown orderly.stop.onlyDespawns session.shuttingDown_stop]
        exact session.shuttingDown_stop

omit [ReflectionHost H] in
theorem orderly_start (host : CountedHost H) (report : Report) (settings : Settings) :
    (Session.start host report settings).Orderly :=
  ⟨trivial, nofun⟩

theorem ears_stop (session : Session H) : session.stop.world.ears = session.world.ears := by
  obtain ⟨notices, stopped⟩ := session.stop_cases.2
  rw [stopped]
  exact World.ears_close session.world

/-- What the end on the game thread comes to. -/
theorem shutDown_gameThread {session : Session H} (orderly : session.Orderly) :
    let jobs := despawnJobs session.scheduler.queue
    session.shutDown .gameThread =
      { scheduler := emptied session.stop.scheduler
        world := ((World.performAll jobs session.stop.world).note
          (.shutdownDrained jobs.length)).forgetAll } := by
  intro jobs
  have same : session.stop.scheduler.queue = session.scheduler.queue := by
    rw [session.stop_cases.1]
  rw [shutDown_eq]
  simp only [lastDrain]
  rw [drain_shuttingDown orderly.stop.onlyDespawns session.shuttingDown_stop, same]
  rfl

/-- On the game thread the end of a session runs the despawns that wait, in their order, once the
channel is closed, and drops everything else; the listeners are told of exactly those that the
server asked for and that find a row.  Then, on whichever thread it was called, everything
replicated, held back, to be sent, resolved and registered is gone.  Whatever is asked of the
session later, it stays so: every frame from the server and every send is answered that the
channel is closed, nothing is there to be polled, and the host is called no more, even if
despawns were left in the queue and a later frame runs them. -/
theorem ending_complete_and_final (host : CountedHost H) (report : Report) (settings : Settings)
    (operations : List (Operation H)) (lawful : ∀ operation ∈ operations, operation.Lawful) :
    let session := (Session.start host report settings).operateAll operations
    let jobs := despawnJobs session.scheduler.queue
    let signals := World.toldAll jobs session.stop.world
    let ended := session.shutDown .gameThread
    (session.scheduler.queue.filter (·.kind == .despawn) =
          jobs.map (Schedule.Task.map Script.once) ∧
        ended.world = ((World.performAll jobs session.stop.world).note
          (.shutdownDrained jobs.length)).forgetAll ∧
        ended.world.events = (World.fireAll signals session.world).events ∧
        ended.scheduler.queue = [] ∧
        ended.scheduler.executed = session.scheduler.executed + jobs.length ∧
        ended.scheduler.discarded =
          session.scheduler.discarded + (session.scheduler.queue.length - jobs.length)) ∧
      ∀ (caller : Caller) (calls : List (Operation H)), (∀ call ∈ calls, call.Late) →
        let late := (session.shutDown caller).operateAll calls
        late.Unresponsive ∧ late.world.Bare ∧
          late.world.bridge.host = session.world.bridge.host ∧
          late.world.channel.sent = session.world.channel.sent := by
  intro session jobs signals ended
  have orderly : session.Orderly := (orderly_start host report settings).operateAll lawful
  constructor
  · have comes : ended = _ := shutDown_gameThread orderly
    have told : (World.performAll jobs session.stop.world).ears =
        (World.fireAll signals session.world).ears :=
      World.ears_performAll (fun _ among => despawned_of_mem orderly.onlyDespawns among)
        session.ears_stop
    refine ⟨filter_despawn orderly.onlyDespawns, ?_, ?_, ?_, ?_, ?_⟩
    · rw [comes]
    · rw [comes]
      exact congrArg Prod.snd told
    all_goals
      rw [comes, session.stop_cases.1]
      rfl
  · intro caller calls lateCalls late
    have gone := (over_shutDown orderly caller).operateAll lateCalls
    exact ⟨unresponsive gone.bare, gone.bare, congrArg Prod.fst gone.exits,
      congrArg (·.2.1) gone.exits⟩

/-- Of the despawns that wait, one finds a row by the server's word, one by that of another
thread and one none; the chat line is dropped.  On another thread all four are left in the queue,
and a frame runs the despawns when nothing is there any more. -/
theorem ending_complete_and_final_with_leftovers :
    let host : CountedHost (Recorded (Loaded TableStore)) := { store := { store := { table := {} } } }
    let frame (message : Message) := message.encode.toOption.getD []
    let gone : Listener :=
      { kind := .despawned, reaction := .record "gone", panics := fun _ => true }
    let operations : List (Operation (Recorded (Loaded TableStore))) :=
      [ .receive 0 (frame (.humanSpawn (.resting 7))), .receive 1 (frame (.humanSpawn (.resting 8)))
      , .runFrame .gameThread 1, .listen gone, .receive 2 (frame (.humanDespawn 7))
      , .receive 3 (frame (.chat "bye")), .mutate .elsewhere (.despawn 8)
      , .receive 4 (frame (.humanDespawn 9)) ]
    let session := (Session.start host {} {}).operateAll operations
    let ended := session.shutDown .gameThread
    let late := (session.shutDown .elsewhere).operateAll
      [.runFrame .gameThread 2, .bridge Bridge.registryChanged]
    (∀ operation ∈ operations, operation.Lawful) ∧
      ended.world.events = [.heard "gone" (.despawned 7)] ∧
      ended.scheduler.executed = session.scheduler.executed + 3 ∧
      ended.scheduler.discarded = session.scheduler.discarded + 1 ∧
      late.Unresponsive ∧ late.world.Bare ∧
      late.scheduler.executed = session.scheduler.executed + 3 := by
  intro host frame gone operations session ended late
  have lawful : ∀ operation ∈ operations, operation.Lawful := by
    simp [operations, Operation.Lawful]
  have calls : ∀ call ∈ [Operation.runFrame .gameThread 2, .bridge Bridge.registryChanged],
      (call : Operation (Recorded (Loaded TableStore))).Late := by
    intro call among
    rcases List.mem_cons.mp among with rfl | among
    · exact .runFrame .gameThread 2
    · rw [List.mem_singleton.mp among]
      exact .registryChanged
  obtain ⟨-, final⟩ := ending_complete_and_final host {} {} operations lawful
  obtain ⟨unresponsive, bare, -, -⟩ := final .elsewhere _ calls
  exact ⟨lawful, by decide +kernel, by decide +kernel, by decide +kernel, unresponsive, bare,
    by decide +kernel⟩

/-- A despawn that another thread asked for is run at the end and takes its row away, but it is not
told to the listeners, who hear of the server's alone. -/
theorem ending_without_word_of_rerouted_despawn :
    let host : CountedHost (Loaded TableStore) := { store := { table := {} } }
    let spawned := (Message.humanSpawn (.resting 7)).encode.toOption.getD []
    let gone : Listener :=
      { kind := .despawned, reaction := .record "gone", panics := fun _ => false }
    let session := (Session.start host {} {}).operateAll
      [ .receive 0 spawned, .runFrame .gameThread 1, .listen gone
      , .mutate .elsewhere (.despawn 7) ]
    session.world.hasRow 7 = true ∧
      (despawnJobs session.scheduler.queue).map (·.work.despawned?) = [some 7] ∧
      (session.shutDown .gameThread).scheduler.executed = session.scheduler.executed + 1 ∧
      (session.shutDown .gameThread).world.events = [] := by
  decide +kernel

end Session

end ReplicaBridge
