/-
Module: ReplicaBridge.Proofs.EnvironmentHistory
Purpose: What a host learns of seasons and hours along a run.  With a host that keeps its
  contract and is never found unsupported, every hour reaches every scheduler exactly once
  and in order, however late the scheduler comes, and the host's season is the newest one
  as soon as none waits.  A loaded function table is such a host, whatever its entries answer.
Main exports: Inbox, Session.deliveries, Session.Attends, Session.Attends.run, Session.kept_run,
  Session.hours_delivered, Session.season_converges
-/
import ReplicaBridge.Proofs.EnvironmentEffects
import ReplicaBridge.Proofs.SupersededDeeds

namespace ReplicaBridge

open Host (CountedHost FunctionTable Loaded PropertyRecord Recorded ReflectionHost TableEntry
  TableStore)
open Schedule (Scheduler)
open Wire (Message)

/-! ### What comes in -/

/-- The messages that were taken over, oldest first: those that a drain has run, and those
that wait for one. -/
structure Inbox where
  drained : List Message := []
  waiting : List Message := []

namespace Inbox

variable {H : Type}

def step (session : Session (Recorded H)) (inbox : Inbox) : Input H → Inbox
  | .receive _ frame =>
    { inbox with waiting := inbox.waiting ++ (session.accepted? frame).toList }
  | .runFrame .gameThread _ => { drained := inbox.drained ++ inbox.waiting }
  | _ => inbox

def run [ReflectionHost H] : Session (Recorded H) → Inbox → List (Input H) → Inbox
  | _, inbox, [] => inbox
  | session, inbox, input :: rest => run (session.step input) (inbox.step session input) rest

/-- The changes that were drained. -/
def changes (inbox : Inbox) : List Change :=
  inbox.drained.filterMap Message.change?

theorem changes_step {session : Session (Recorded H)} (inbox : Inbox) {input : Input H}
    (waits : input.drains = false) : (inbox.step session input).changes = inbox.changes := by
  unfold step
  split
  · rfl
  · cases waits
  · rfl

/-- Every season that is taken over is a target. -/
theorem isTarget_of_mem {inbox : Inbox} {season : Season}
    (among : season ∈ seasonsOf inbox.changes) : season.isTarget = true := by
  obtain ⟨change, taken, same⟩ := List.mem_filterMap.1 among
  obtain ⟨message, _, brings⟩ := List.mem_filterMap.1 taken
  cases change with
  | hours delta => cases same
  | season target =>
      cases same
      cases message with
      | envSeason value =>
          obtain ⟨other, found, same⟩ := Option.map_eq_some_iff.1 brings
          cases same
          exact (Option.filter_eq_some_iff.1 found).2
      | envClockAdvance hours => cases brings
      | _ => cases brings

end Inbox

namespace Session

variable {H : Type} [ReflectionHost H]

/-! ### What is delivered -/

/-- What is delivered while a session takes an input, when the jobs are queued. -/
def stepDeliveries (session : Session (Recorded H)) (jobs : List Job) (input : Input H) :
    List (Delivery (Recorded H)) :=
  match input with
  | .runFrame .gameThread _ =>
    World.queueDeliveries jobs session.world ++ (session.world.performAll jobs).retryDeliveries
  | _ => []

/-- What is delivered along a run. -/
def deliveries (session : Session (Recorded H)) (backlog : Scheduler Work) :
    List (Input H) → List (Delivery (Recorded H))
  | [] => []
  | input :: rest =>
    session.stepDeliveries backlog.queue input ++
      deliveries (session.step input) (input.reschedule (session.posted? input) backlog) rest

/-! ### Along a run -/

/-- The changes that wait in the queue are those of the messages that wait, whatever passes
have dropped; and what was drained is settled. -/
structure Attends (sound : H → Prop) (session : Session (Recorded H)) (backlog : Scheduler Work)
    (inbox : Inbox) (deliveries : List (Delivery (Recorded H))) : Prop where
  holds : session.Holds backlog
  waiting : backlog.queue.filterMap Job.change? = inbox.waiting.filterMap Message.change?
  kept : session.world.Kept sound inbox.changes deliveries

omit [ReflectionHost H] in
/-- No pass drops a change of the environment. -/
theorem filterMap_change?_post {backlog : Scheduler Work} {job : Job}
    (accepting : backlog.shuttingDown = false) (queued : ∀ other ∈ backlog.queue, Job.Posted other)
    (posted : Job.Posted job) : (backlog.post job).1.queue.filterMap Job.change? =
      backlog.queue.filterMap Job.change? ++ job.change?.toList := by
  have appended : (backlog.queue ++ [job]).filterMap Job.change? =
      backlog.queue.filterMap Job.change? ++ job.change?.toList := by
    rw [List.filterMap_append]
    cases about : job.change? with
    | none => simp [about]
    | some change => simp [about]
  rcases Scheduler.queue_post accepting job with same | passed
  · rw [same, appended]
  · rw [passed, Schedule.filterMap_coalesce, appended]
    intro other among keyed
    have posts : Job.Posted other := by
      rcases List.mem_append.1 among with earlier | last
      · exact queued other earlier
      · rw [List.mem_singleton.1 last]
        exact posted
    obtain ⟨key, keyed⟩ := Option.ne_none_iff_exists'.1 keyed
    rcases posts.deed_of_key keyed with ⟨state, _, _, about⟩ | ⟨id, state, _, about⟩
    · exact Job.change?_of_deed? about
    · exact Job.change?_of_deed? about

omit [ReflectionHost H] in
/-- The changes in the queue are those of the messages that wait. -/
theorem Holds.waiting_step {session : Session (Recorded H)} {backlog : Scheduler Work}
    {inbox : Inbox} (holds : session.Holds backlog)
    (waiting : backlog.queue.filterMap Job.change? = inbox.waiting.filterMap Message.change?)
    (input : Input H) :
    (input.reschedule (session.posted? input) backlog).queue.filterMap Job.change? =
      (inbox.step session input).waiting.filterMap Message.change? := by
  have accepting := holds.accepting
  have queued := holds.posted
  cases input with
  | receive now frame =>
      cases accepted : session.accepted? frame with
      | none =>
          simp only [Input.reschedule, Input.drains, posted?, Inbox.step, accepted]
          simpa using waiting
      | some message =>
          have valid := valid_of_accept (accepted?_eq_some_iff.1 accepted).2
          have posts := filterMap_change?_post accepting queued (.message valid)
          simp only [Input.reschedule, Input.drains, posted?, Inbox.step, accepted]
          rw [waiting, Job.change?_jobFor] at posts
          refine posts.trans ?_
          rw [Option.toList_some, List.filterMap_append]
          cases brings : message.change? with
          | none => simp [brings]
          | some change => simp [brings]
  | runFrame caller number =>
      cases caller with
      | gameThread => rfl
      | elsewhere => exact waiting
  | sendLocal caller state =>
      cases caller with
      | gameThread => exact waiting
      | elsewhere =>
          cases written : session.localWrite? state with
          | none =>
              simp only [Input.reschedule, Input.drains, posted?, Inbox.step, written]
              simpa using waiting
          | some id =>
              have valid := (localWrite?_eq_some_iff.1 written).2.1
              have posts := filterMap_change?_post accepting queued (.localWrite id valid)
              simp only [Input.reschedule, Input.drains, posted?, Inbox.step, written]
              rw [waiting] at posts
              refine posts.trans (List.append_nil _)
  | _ => exact waiting

/-- Inputs that drain no queue leave the environment as it is. -/
theorem backdrop_step (session : Session (Recorded H)) {input : Input H}
    (waits : input.drains = false) (keeps : input ≠ .registryChanged)
    (stays : ∀ store, input ≠ .hostChanges store) :
    (session.step input).world.backdrop =
      { session.world.backdrop with footing := (session.step input).world.footing } := by
  have seen := view_step session waits
  have only : (session.viewAfter input).backdrop =
      { session.world.backdrop with footing := (session.viewAfter input).backdrop.footing } := by
    cases input with
    | receive now frame =>
        simp only [viewAfter]
        split <;> rfl
    | sendLocal caller state =>
        cases caller with
        | elsewhere => rfl
        | gameThread =>
            simp only [viewAfter]
            split <;> rfl
    | registryChanged => exact absurd rfl keeps
    | hostChanges store => exact absurd rfl (stays store)
    | _ => rfl
  rw [← seen] at only
  exact only

section Steps

variable {sound : H → Prop} {session : Session (Recorded H)} {backlog : Scheduler Work}
  {inbox : Inbox} {deliveries : List (Delivery (Recorded H))}

/-- The host may have changed, and what was resolved may be forgotten, as long as the host is
one that keeps its contract. -/
theorem kept_of_bridge {world : World (Recorded H)} {changes : List Change}
    (kept : world.Kept sound changes deliveries) {after : Bridge (Recorded H)}
    (looks : Bridge.Looks world.bridge after)
    (trusted : world.bridge.Trusted sound → after.Trusted sound) :
    ({ world with bridge := after }).Kept sound changes deliveries := by
  rcases kept with raised | settled
  · exact Or.inl (looks.raised raised)
  · refine Or.inr (settled.move ?_ rfl rfl rfl rfl)
    exact settled.accounts.stay (trusted settled.accounts.trusted) looks.calls

variable (contract : Host.Contract sound)

include contract

theorem Attends.step (attends : session.Attends sound backlog inbox deliveries) {input : Input H}
    (fine : ∀ store, input = .hostChanges store → sound store) :
    (session.step input).Attends sound (input.reschedule (session.posted? input) backlog)
      (inbox.step session input)
      (deliveries ++ session.stepDeliveries backlog.queue input) where
  holds := attends.holds.step input
  waiting := attends.holds.waiting_step attends.waiting input
  kept := by
    have kept := attends.kept
    cases drains : input.drains with
    | true =>
        obtain ⟨number, rfl⟩ := Input.eq_frame_of_drains drains
        have performed := kept.performAll contract attends.holds.posted
        have finished := performed.finishFrame contract number
        have changes : (inbox.step session (.runFrame .gameThread number)).changes =
            inbox.changes ++ backlog.queue.filterMap Job.change? := by
          rw [attends.waiting]
          exact List.filterMap_append
        rw [attends.holds.world_runFrame, changes]
        simp only [stepDeliveries]
        rw [← List.append_assoc]
        exact finished
    | false =>
        have looks := looks_step session drains
        have nothing : session.stepDeliveries backlog.queue input = [] := by
          unfold stepDeliveries
          split
          · cases drains
          · rfl
        rw [nothing, List.append_nil, inbox.changes_step drains]
        by_cases forgets : input = .registryChanged
        · subst forgets
          refine kept_of_bridge kept looks fun trusted => ?_
          exact ⟨trusted.store, nofun, trusted.gate⟩
        · by_cases moves : ∃ store, input = .hostChanges store
          · obtain ⟨store, rfl⟩ := moves
            refine kept_of_bridge kept looks fun trusted => ?_
            exact ⟨fine store rfl, trusted.functions, trusted.gate⟩
          · have stays : ∀ store, input ≠ .hostChanges store := fun store same =>
              moves ⟨store, same⟩
            exact kept.of_looks looks (backdrop_step session drains forgets stays)

/-- So it goes on to the end of every run. -/
theorem Attends.run (attends : session.Attends sound backlog inbox deliveries)
    {inputs : List (Input H)} (fine : ∀ store, .hostChanges store ∈ inputs → sound store) :
    (session.run inputs).world.Kept sound (Inbox.run session inbox inputs).changes
      (deliveries ++ session.deliveries backlog inputs) := by
  induction inputs generalizing session backlog inbox deliveries with
  | nil =>
      simp only [run_nil, Inbox.run, Session.deliveries, List.append_nil]
      exact attends.kept
  | cons input rest ih =>
      have first : ∀ store, input = .hostChanges store → sound store := by
        intro store same
        apply fine
        rw [← same]
        exact List.mem_cons_self
      have stepped := attends.step contract first
      simp only [run_cons, Inbox.run, Session.deliveries]
      rw [← List.append_assoc]
      exact ih stepped fun store among => fine store (List.mem_cons_of_mem input among)

omit contract in
/-- A session starts with nothing taken over and nothing delivered. -/
theorem Attends.begin {host : CountedHost H} (fine : sound host.store) (report : Report)
    (settings : Settings) :
    (begin host report settings).Attends sound (Scheduler.ofSoftCap settings.scheduler.softCap)
      {} [] where
  holds := .begin host report settings
  waiting := rfl
  kept := by
    right
    constructor
    · refine ⟨⟨fine, nofun, rfl⟩, rfl, ?_, nofun⟩
      intro earlier delivery later split
      cases earlier <;> cases split
    · rfl
    · rfl
    · rfl
    · exact .slnil
    · rfl

end Steps

/-! ### From a loaded table -/

section Loaded

variable {T : Type} [FunctionTable T] (host : CountedHost (Loaded T)) (report : Report)
  (settings : Settings) (inputs : List (Input (Loaded T)))

/-- A loaded table keeps the contract, and so does every table that takes its place; so what is
drained is settled, or the host was found unsupported. -/
theorem kept_run :
    let start : Session (Recorded (Loaded T)) := begin host report settings
    (start.run inputs).world.Kept (fun _ : Loaded T => True) (Inbox.run start {} inputs).changes
      (start.deliveries (Scheduler.ofSoftCap settings.scheduler.softCap) inputs) :=
  Attends.run Loaded.contract (.begin trivial report settings) fun _ _ => trivial

/-- For every function table, and whatever tables take its place, as long as the host is never
found unsupported: the hours that were drained are those that were delivered and then those that
wait, in order.  The host was called for deliveries only; one of hours called every scheduler
that was there at that moment, of which there was one at least, in store order.  The clock is the
sum of all hours drained, as a signed word. -/
theorem hours_delivered
    (supported : ((begin host report settings).run inputs).world.bridge.unsupported = false) :
    let start : Session (Recorded (Loaded T)) := begin host report settings
    let after := (start.run inputs).world
    let delivered := start.deliveries (Scheduler.ofSoftCap settings.scheduler.softCap) inputs
    let drained := hoursOf (Inbox.run start {} inputs).changes
    drained = hoursOf (delivered.map (·.change)) ++ after.replica.pending.hours ∧
      after.bridge.calls = delivered.flatMap Delivery.calls ∧
      Delivery.Dated delivered ∧
      (∀ delivery ∈ delivered, ∀ delta, delivery.change = .hours delta →
        let schedulers := Host.instances delivery.store delivery.owner
        schedulers ≠ [] ∧ delivery.calls = schedulers.map fun target =>
          { target, function := delivery.function, frame := (Params.Scalar.i32 delta).toBytes }) ∧
      after.replica.clock.toInt = (drained.map Int32.toInt).sum.bmod (2 ^ 64) := by
  intro start after delivered drained
  rcases kept_run host report settings inputs with raised | settled
  · rw [supported] at raised
    cases raised
  · refine ⟨settled.hours.symm, settled.accounts.calls, settled.accounts.dated, ?_, settled.clock⟩
    intro delivery among delta tells
    refine ⟨settled.accounts.reached delivery among, ?_⟩
    simp [Delivery.calls, Delivery.targets, tells, Change.value]

/-- Two schedulers appear after the first hours; those and the next ones reach both of
them. -/
theorem hours_delivered_to_late_schedulers :
    let scheduler : TableEntry :=
      { TableEntry.named (Text.utf8 "Game.Scheduler") 1 with
        methods := [(Text.utf8 "AdvanceHours", { address := 32 })] }
    let hours : PropertyRecord :=
      { name := Text.utf8 "InHours", offset := 0, elementSize := 4, arrayDim := 1, flags := 128 }
    let advanceHours : TableEntry :=
      { TableEntry.named (Text.utf8 "Game.Scheduler.AdvanceHours") 2 with
        chain := [{ record := hours, readable := true }] }
    let instance_ (name : String) : TableEntry :=
      { TableEntry.named (Text.utf8 name) 0 with owner := { address := 16 } }
    let table : TableStore :=
      { slots := [some scheduler, some advanceHours, some (instance_ "Level.Scheduler_0"),
          some (instance_ "Level.Scheduler_1")] }
    let settings : Settings := {}
    let host : CountedHost (Loaded TableStore) := { store := { table := {} } }
    let frame (message : Message) : Input (Loaded TableStore) :=
      .receive 0 (message.encode.toOption.getD [])
    let inputs := [frame (.envClockAdvance 6), .runFrame .gameThread 1, .hostChanges { table },
      frame (.envClockAdvance (-2)), .runFrame .gameThread 2]
    ((begin host {} settings).run inputs).world.bridge.unsupported = false ∧
      hoursOf (Inbox.run (begin host {} settings) {} inputs).changes =
        hoursOf (((begin host {} settings).deliveries
          (Scheduler.ofSoftCap settings.scheduler.softCap) inputs).map (·.change)) ++
            ((begin host {} settings).run inputs).world.replica.pending.hours ∧
      ((begin host {} settings).run inputs).world.replica.pending.hours = [] ∧
      ((begin host {} settings).run inputs).world.bridge.calls.map
        (fun call => (call.target.address, call.frame)) =
          [(48, [6, 0, 0, 0]), (64, [6, 0, 0, 0]), (48, [254, 255, 255, 255]),
            (64, [254, 255, 255, 255])] := by
  intro scheduler hours advanceHours instance_ table settings host frame inputs
  have supported : ((begin host {} settings).run inputs).world.bridge.unsupported = false := by
    decide +kernel
  have delivered := hours_delivered host {} settings inputs supported
  exact ⟨supported, delivered.1, by decide +kernel, by decide +kernel⟩

/-- For every function table, and whatever tables take its place, as long as the host is never
found unsupported: the season is the newest one drained, or none if there was none, and a season
that waits is that one.  The seasons that were delivered, each to the first changer that was
there, are targets and some of those drained, in order; and if none waits the newest was delivered
last. -/
theorem season_converges
    (supported : ((begin host report settings).run inputs).world.bridge.unsupported = false) :
    let start : Session (Recorded (Loaded T)) := begin host report settings
    let after := (start.run inputs).world
    let delivered := start.deliveries (Scheduler.ofSoftCap settings.scheduler.softCap) inputs
    let told := seasonsOf (delivered.map (·.change))
    let drained := seasonsOf (Inbox.run start {} inputs).changes
    after.replica.season = drained.getLast?.getD .invalid ∧
      (∀ season, after.replica.pending.season = some season → season = after.replica.season) ∧
      told.Sublist drained ∧ (∀ season ∈ drained, season.isTarget = true) ∧
      (drained ≠ [] → after.replica.pending.season = none →
        told.getLast? = some after.replica.season) ∧
      after.bridge.calls = delivered.flatMap Delivery.calls ∧
      (∀ delivery ∈ delivered, ∀ season, delivery.change = .season season →
        ∃ changer others, Host.instances delivery.store delivery.owner = changer :: others ∧
          delivery.calls =
            [{ target := changer, function := delivery.function, frame := [season.toByte] }]) := by
  intro start after delivered told drained
  rcases kept_run host report settings inputs with raised | settled
  · rw [supported] at raised
    cases raised
  · have newest : (told ++ after.replica.pending.season.toList).getLast? = drained.getLast? :=
      settled.newest
    have current : after.replica.season = drained.getLast?.getD .invalid := settled.season
    refine ⟨current, ?_, ?_, fun season => Inbox.isTarget_of_mem, ?_, settled.accounts.calls, ?_⟩
    · intro season waits
      rw [waits, Option.toList_some, List.getLast?_concat] at newest
      rw [current, ← newest]
      rfl
    · exact (List.sublist_append_left _ _).trans settled.subsequence
    · intro applied waits
      rw [waits, Option.toList_none, List.append_nil] at newest
      rw [newest, current, List.getLast?_eq_some_getLast applied]
      rfl
    · intro delivery among season tells
      have present := settled.accounts.reached delivery among
      cases listed : Host.instances delivery.store delivery.owner with
      | nil => exact absurd listed present
      | cons changer others =>
          refine ⟨changer, others, rfl, ?_⟩
          have bytes : (Params.Scalar.u8 season.toByte).toBytes = [season.toByte] := by
            cases season <;> rfl
          simp [Delivery.calls, Delivery.targets, tells, Change.value, listed, bytes]

/-- A changer appears after two seasons; the newer one reaches it, the older one never
does. -/
theorem season_converges_at_late_changer :
    let changer : TableEntry :=
      { TableEntry.named (Text.utf8 "Game.SeasonChanger") 1 with
        methods := [(Text.utf8 "SetCurrentSeason", { address := 32 })] }
    let season : PropertyRecord :=
      { name := Text.utf8 "NewSeason", offset := 0, elementSize := 1, arrayDim := 1, flags := 128 }
    let setSeason : TableEntry :=
      { TableEntry.named (Text.utf8 "Game.SeasonChanger.SetCurrentSeason") 2 with
        chain := [{ record := season, readable := true }] }
    let instance_ : TableEntry :=
      { TableEntry.named (Text.utf8 "Level.SeasonChanger_0") 0 with owner := { address := 16 } }
    let table : TableStore := { slots := [some changer, some setSeason, some instance_] }
    let settings : Settings := {}
    let host : CountedHost (Loaded TableStore) := { store := { table := {} } }
    let frame (message : Message) : Input (Loaded TableStore) :=
      .receive 0 (message.encode.toOption.getD [])
    let inputs := [frame (.envSeason 2), .runFrame .gameThread 1, frame (.envSeason 3),
      .runFrame .gameThread 2, .hostChanges { table }, .runFrame .gameThread 3]
    ((begin host {} settings).run inputs).world.bridge.unsupported = false ∧
      seasonsOf (Inbox.run (begin host {} settings) {} inputs).changes = [.winter, .spring] ∧
      (seasonsOf (((begin host {} settings).deliveries
        (Scheduler.ofSoftCap settings.scheduler.softCap) inputs).map (·.change))).getLast? =
          some ((begin host {} settings).run inputs).world.replica.season ∧
      ((begin host {} settings).run inputs).world.bridge.calls.map (·.frame) = [[3]] := by
  intro changer season setSeason instance_ table settings host frame inputs
  have supported : ((begin host {} settings).run inputs).world.bridge.unsupported = false := by
    decide +kernel
  have drained : seasonsOf (Inbox.run (begin host {} settings) {} inputs).changes =
      [.winter, .spring] := by
    decide +kernel
  have applied : seasonsOf (Inbox.run (begin host {} settings) {} inputs).changes ≠ [] := by
    rw [drained]
    exact List.cons_ne_nil _ _
  have converged := season_converges host {} settings inputs supported
  refine ⟨supported, drained, converged.2.2.2.2.1 applied ?_, ?_⟩
  · decide +kernel
  · decide +kernel

end Loaded

end Session

end ReplicaBridge
