/-
Module: ReplicaBridge.Proofs.AdvanceOnce
Purpose: No scheduler is advanced twice by the same hours, whatever fails.  With a host that
  keeps its contract, as every loaded function table does, an attempt to advance the schedulers
  either calls nobody, and only then the hours may go on waiting; or calls them in order, each of
  them once, up to the first that fails, and then the gate is closed and nobody is called again.
Main exports: Attempt, Bridge.Attempted, Bridge.Told.attempted, World.Rationed,
  World.Rationed.performAll, World.Rationed.finishFrame, Session.Rations, Session.AdvancesOnce,
  Session.hours_advanced_once
-/
import ReplicaBridge.Proofs.EnvironmentHistory

namespace ReplicaBridge

open Host (CountedHost FunctionTable HostCall Loaded PropertyRecord Recorded ReflectionHost
  TableEntry TableStore)
open Schedule (Scheduler)
open Wire (Message)

/-! ### Attempts -/

/-- An attempt to deliver a change, of whose calls so many were made. -/
structure Attempt (H : Type) where
  delivery : Delivery (Recorded H)
  made : Nat

namespace Attempt

variable {H : Type} [ReflectionHost H]

/-- The calls that were made, whether or not the last one came back. -/
def calls (attempt : Attempt H) : List HostCall :=
  attempt.delivery.calls.take attempt.made

/-- Each attempt was made when exactly the calls of the earlier ones had been made. -/
def Dated (attempts : List (Attempt H)) : Prop :=
  ∀ earlier attempt later, attempts = earlier ++ attempt :: later →
    attempt.delivery.store.calls = earlier.flatMap Attempt.calls

end Attempt

/-- The hours that were tried. -/
def hoursTried {H : Type} (attempts : List (Attempt H)) : List Int32 :=
  hoursOf (attempts.map (·.delivery.change))

/-- A refused call is never one that is tried again. -/
theorem CallError.kind_invoke_ne (error : InvokeError) :
    (CallError.invoke error).kind ≠ .notFoundYet := by
  cases error <;> nofun

namespace Bridge

variable {H : Type} [ReflectionHost H] {sound : H → Prop}

/-- The calls that were made are those of the attempts. -/
structure Attempted (sound : H → Prop) (attempts : List (Attempt H))
    (bridge : Bridge (Recorded H)) : Prop where
  reliable : bridge.Reliable sound
  calls : bridge.calls = attempts.flatMap Attempt.calls
  dated : Attempt.Dated attempts

variable {attempts : List (Attempt H)} {before after : Bridge (Recorded H)}
  (attempted : before.Attempted sound attempts)

include attempted

/-- Reports are no attempts. -/
theorem Attempted.of_alike (alike : before.Alike after) : after.Attempted sound attempts := by
  obtain ⟨host, report, registry, gate⟩ := before
  obtain ⟨_, _, _, _⟩ := after
  obtain ⟨rfl, rfl, rfl⟩ := alike
  exact ⟨⟨attempted.reliable.store, attempted.reliable.functions⟩, attempted.calls,
    attempted.dated⟩

/-- Nothing was called. -/
theorem Attempted.stay (reliable : after.Reliable sound) (calls : after.calls = before.calls) :
    after.Attempted sound attempts :=
  ⟨reliable, calls.trans attempted.calls, attempted.dated⟩

/-- One more attempt. -/
theorem Attempted.concat (attempt : Attempt H) (reliable : after.Reliable sound)
    (store : attempt.delivery.store = before.host.store)
    (calls : after.calls = before.calls ++ attempt.calls) :
    after.Attempted sound (attempts ++ [attempt]) := by
  constructor
  · exact reliable
  · rw [calls, attempted.calls, List.flatMap_append, List.flatMap_singleton]
  · apply forall_split_concat attempted.dated
    rw [store]
    exact attempted.calls

/-- To tell the host of a change is one attempt at most, and none if the change can be told
later; it never unwinds. -/
theorem Attempted.tell {α : Type} {className : String} {change : Change}
    {right : Delivery (Recorded H) → α → Prop} {outcome : Except (Halt CallError) α}
    (told : Told sound before (before.delivery? className change) right (after, outcome)) :
    (∀ fault, outcome ≠ .error (.unwound fault)) ∧
      ∃ later : List (Attempt H), after.Attempted sound (attempts ++ later) ∧
        (later.map (·.delivery.change)).Sublist [change] ∧
        ∀ error, outcome = .error (.refused error) → error.kind = .notFoundYet → later = [] := by
  cases told with
  | missing consults cause =>
      refine ⟨nofun, [], ?_, List.nil_sublist _, fun _ _ _ => rfl⟩
      rw [List.append_nil]
      exact attempted.stay consults.reliable consults.calls
  | called consults delivers ends answers =>
      rename_i asked delivery
      obtain ⟨tells, store, -⟩ := delivery?_eq_some delivers
      cases ends with
      | returned reliable gate made back =>
          refine ⟨nofun, [⟨delivery, delivery.calls.length⟩], ?_, ?_, nofun⟩
          · apply attempted.concat _ reliable store
            rw [made, consults.calls, Attempt.calls, List.take_length]
          · rw [List.map_singleton, tells]
      | failed count reached reliable closed raised made fewer back =>
          refine ⟨nofun, [⟨delivery, count⟩], ?_, ?_, fun error refused later => ?_⟩
          · apply attempted.concat _ reliable store
            rw [made, consults.calls]
            rfl
          · rw [List.map_singleton, tells]
          · cases refused
            exact absurd later (CallError.kind_invoke_ne _)

end Bridge

/-! ### Rations -/

theorem hoursTried_append {H : Type} (earlier later : List (Attempt H)) :
    hoursTried (earlier ++ later) = hoursTried earlier ++ hoursTried later := by
  simp [hoursTried, hoursOf]

namespace World

variable {H : Type} [ReflectionHost H]

/-- The calls that were made are those of attempts, and the hours of the attempts and those
that wait are some of the hours taken over, each at most once and in order. -/
def Rationed (sound : H → Prop) (changes : List Change) (world : World (Recorded H)) : Prop :=
  ∃ attempts, world.bridge.Attempted sound attempts ∧
    (hoursTried attempts ++ world.replica.pending.hours).Sublist (hoursOf changes)

variable {sound : H → Prop} {changes : List Change} {before after : World (Recorded H)}

/-- What leaves the bridge and the hours that wait alone takes nothing from the rations. -/
theorem Rationed.of_alike (rationed : before.Rationed sound changes)
    (alike : before.bridge.Alike after.bridge)
    (hours : after.replica.pending.hours = before.replica.pending.hours) :
    after.Rationed sound changes := by
  obtain ⟨attempts, attempted, fits⟩ := rationed
  exact ⟨attempts, attempted.of_alike alike, by rw [hours]; exact fits⟩

theorem Rationed.of_backdrop (rationed : before.Rationed sound changes)
    (same : after.backdrop = { before.backdrop with footing := after.footing }) :
    after.Rationed sound changes :=
  rationed.of_alike
    ⟨(congrArg Backdrop.host same).symm, (congrArg Backdrop.registry same).symm,
      (congrArg Backdrop.gate same).symm⟩
    (congrArg (·.pending.hours) same)

omit [ReflectionHost H] in
/-- What is tried for a season takes no hours. -/
theorem hoursTried_of_season {later : List (Attempt H)} {season : Season}
    (tried : (later.map (·.delivery.change)).Sublist [.season season]) : hoursTried later = [] := by
  have hours := tried.filterMap Change.hours?
  exact List.sublist_nil.mp hours

theorem hoursOf_season (changes : List Change) (season : Season) :
    hoursOf (changes ++ [.season season]) = hoursOf changes := by
  simp [hoursOf, Change.hours?]

theorem hoursOf_hours (changes : List Change) (hours : Int32) :
    hoursOf (changes ++ [.hours hours]) = hoursOf changes ++ [hours] := by
  simp [hoursOf, Change.hours?]

section Effects

variable (contract : Host.Contract sound) {world : World (Recorded H)}

include contract

theorem callSetSeason_told (reliable : world.bridge.Reliable sound) (season : Season) :
    Bridge.Told sound world.bridge
      (world.bridge.delivery? world.settings.reflection.seasonChangerClass (.season season))
      (fun _ _ => True) ((world.callSetSeason season).1.bridge, (world.callSetSeason season).2) :=
  (Bridge.setCurrentSeason_told contract reliable _ season).map fun _ => ()

theorem callAdvanceHours_told (reliable : world.bridge.Reliable sound) (hours : Int32) :
    Bridge.Told sound world.bridge
      (world.bridge.delivery? world.settings.reflection.schedulerClass (.hours hours))
      (fun delivery count => count = delivery.targets.length)
      ((world.callAdvanceHours hours).1.bridge, (world.callAdvanceHours hours).2) :=
  Bridge.advanceHours_told contract reliable _ hours

theorem Rationed.callSetSeason (rationed : world.Rationed sound changes) (season : Season) :
    (∀ fault, (world.callSetSeason season).2 ≠ .error (.unwound fault)) ∧
      (world.callSetSeason season).1.Rationed sound changes := by
  obtain ⟨attempts, attempted, fits⟩ := rationed
  obtain ⟨calm, later, attempted', tried, -⟩ :=
    attempted.tell (callSetSeason_told contract attempted.reliable season)
  refine ⟨calm, attempts ++ later, attempted', ?_⟩
  rw [hoursTried_append, hoursTried_of_season tried, List.append_nil]
  exact fits

/-- The first of the hours that wait are tried, and are used up unless they can be told
later. -/
theorem Rationed.callAdvanceHours {hours : Int32} {rest : List Int32}
    (rationed : (world.keepHours (hours :: rest)).Rationed sound changes) :
    (∀ fault, (world.callAdvanceHours hours).2 ≠ .error (.unwound fault)) ∧
      ((world.callAdvanceHours hours).1.keepHours rest).Rationed sound changes ∧
      ∀ error, (world.callAdvanceHours hours).2 = .error (.refused error) →
        error.kind = .notFoundYet →
        ((world.callAdvanceHours hours).1.keepHours (hours :: rest)).Rationed sound changes := by
  obtain ⟨attempts, attempted, fits⟩ := rationed
  have asked : world.bridge.Attempted sound attempts := attempted
  obtain ⟨calm, later, attempted', tried, spared⟩ :=
    asked.tell (callAdvanceHours_told contract asked.reliable hours)
  refine ⟨calm, ⟨attempts ++ later, attempted', ?_⟩, fun error refused missing => ?_⟩
  · have used : (hoursTried later ++ rest).Sublist (hours :: rest) :=
      (tried.filterMap Change.hours?).append (.refl rest)
    rw [hoursTried_append, List.append_assoc]
    exact ((List.Sublist.refl _).append used).trans fits
  · cases spared error refused missing
    rw [List.append_nil] at attempted'
    exact ⟨attempts, attempted', fits⟩

/-- A season takes no hours, whatever becomes of it. -/
theorem Rationed.applySeason (rationed : world.Rationed sound changes) (season : Season) :
    (world.applySeason season).1.Rationed sound (changes ++ [.season season]) := by
  have taken : World.Rationed sound (changes ++ [.season season])
      ((({ world with replica := { world.replica with season } } : World (Recorded H)).note
        (.seasonSet season)).setPending fun pending => { pending with season := none }) := by
    unfold Rationed
    rw [hoursOf_season]
    exact rationed.of_alike ⟨rfl, rfl, rfl⟩ rfl
  obtain ⟨calm, called⟩ := taken.callSetSeason contract season
  simp only [World.applySeason]
  split <;> (rename_i answered; rw [answered] at calm called)
  · exact called
  · exact absurd rfl (calm _)
  · unfold deferOrDrop
    split <;> exact called.of_alike ⟨rfl, rfl, rfl⟩ rfl

/-- Hours are tried once or wait behind those that do. -/
theorem Rationed.advanceHours (rationed : world.Rationed sound changes) (hours : Int32) :
    (world.advanceHours hours).1.Rationed sound (changes ++ [.hours hours]) := by
  simp only [World.advanceHours]
  generalize taken : ({ world with replica := { world.replica with
    clock := world.replica.clock + hours.toInt64 } } : World (Recorded H)).note
      (.clockAdvanced hours (world.replica.clock + hours.toInt64)) = advanced
  have queued : (advanced.setPending (queueHours hours)).Rationed sound
      (changes ++ [.hours hours]) := by
    obtain ⟨attempts, attempted, fits⟩ := rationed
    subst taken
    refine ⟨attempts, attempted.of_alike ⟨rfl, rfl, rfl⟩, ?_⟩
    rw [hoursOf_hours, setPending, queueHours, ← List.append_assoc]
    exact fits.append (.refl [hours])
  split
  · rename_i free
    -- Nothing waits, so these hours stand where they would have been queued.
    have spent : advanced.replica.pending.hours = [] := List.isEmpty_iff.mp free
    have single : advanced.setPending (queueHours hours) = advanced.keepHours [hours] := by
      simp [setPending, keepHours, queueHours, spent]
    rw [single] at queued
    obtain ⟨calm, called, spared⟩ := queued.callAdvanceHours contract
    have empty : (advanced.callAdvanceHours hours).1.replica.pending.hours = [] := spent
    split <;> (rename_i answered; rw [answered] at calm called spared empty)
    · rename_i after count
      obtain ⟨alike, pending, -, -⟩ := alike_noteSchedulerCount after count
      exact called.of_alike alike ((congrArg PendingEffects.hours pending).trans empty)
    · exact absurd rfl (calm _)
    · rename_i after error
      unfold deferOrDrop
      split
      · rename_i missing
        refine (spared error rfl missing).of_alike ⟨rfl, rfl, rfl⟩ ?_
        exact congrArg (· ++ [hours]) empty
      · exact called.of_alike ⟨rfl, rfl, rfl⟩ empty
  · exact queued

/-- A season that waits takes no hours when it is tried. -/
theorem Rationed.retrySeason (rationed : world.Rationed sound changes) :
    (∀ fault, world.retrySeason.2 ≠ .error fault) ∧ world.retrySeason.1.Rationed sound changes := by
  have back : ∀ fault, (.ok () : Except Fault Unit) ≠ .error fault := by
    intro fault same
    cases same
  simp only [World.retrySeason]
  split
  · exact ⟨back, rationed⟩
  · rename_i season waits
    obtain ⟨calm, called⟩ := rationed.callSetSeason contract season
    split <;> (rename_i answered; rw [answered] at calm called)
    · exact ⟨back, called.of_alike ⟨rfl, rfl, rfl⟩ rfl⟩
    · exact absurd rfl (calm _)
    · split
      · exact ⟨back, called⟩
      · exact ⟨back, called.of_alike ⟨rfl, rfl, rfl⟩ rfl⟩

/-- Hours that wait are tried from the first on, each of them once, as long as they can be told
at all. -/
theorem Rationed.replayHours {waiting : List Int32}
    (rationed : (world.keepHours waiting).Rationed sound changes) :
    (World.replayHours waiting world).1.Rationed sound changes := by
  induction waiting generalizing world with
  | nil => exact rationed
  | cons hours rest ih =>
      obtain ⟨calm, called, spared⟩ := rationed.callAdvanceHours contract
      simp only [World.replayHours]
      split <;> (rename_i answered; rw [answered] at calm called spared)
      · rename_i after count
        obtain ⟨alike, -, -, -⟩ := alike_noteSchedulerCount after count
        exact ih (called.of_alike alike rfl)
      · exact absurd rfl (calm _)
      · split
        · rename_i error missing
          exact spared _ rfl missing
        · -- What could still wait is dropped, which takes nothing from the rations.
          obtain ⟨attempts, attempted, fits⟩ := called
          refine ⟨attempts, attempted.of_alike ⟨rfl, rfl, rfl⟩, ?_⟩
          exact ((List.Sublist.refl _).append (List.nil_sublist _)).trans fits

theorem Rationed.retryPending (rationed : world.Rationed sound changes) :
    world.retryPending.1.Rationed sound changes := by
  obtain ⟨calm, retried⟩ := rationed.retrySeason contract
  simp only [World.retryPending]
  split <;> (rename_i answered; rw [answered] at calm retried)
  · exact absurd rfl (calm _)
  · exact Rationed.replayHours contract retried

/-- A job takes the hours that it brings, if it brings any. -/
theorem Rationed.performJob (rationed : world.Rationed sound changes) {job : Job}
    (posted : Job.Posted job) :
    (world.performJob job).Rationed sound (changes ++ job.change?.toList) := by
  cases about : job.change? with
  | none =>
      rw [Option.toList_none, List.append_nil]
      exact rationed.of_backdrop
        (backdrop_of_eq (backdrop_performJob_of_no_change posted about world))
  | some change =>
      have acted : (world.perform job.work).1.Rationed sound (changes ++ [change]) := by
        rw [perform_of_change? about]
        cases change with
        | season season => exact rationed.applySeason contract season
        | hours hours => exact rationed.advanceHours contract hours
      exact acted.of_backdrop (backdrop_of_eq (congrArg View.backdrop (view_performJob world job)))

theorem Rationed.performAll (rationed : world.Rationed sound changes) {jobs : List Job}
    (posted : ∀ job ∈ jobs, Job.Posted job) :
    (world.performAll jobs).Rationed sound (changes ++ jobs.filterMap Job.change?) := by
  induction jobs generalizing world changes with
  | nil => simpa using rationed
  | cons job rest ih =>
      obtain ⟨first, later⟩ := List.forall_mem_cons.mp posted
      have performed := ih (rationed.performJob contract first) later
      rw [performAll_cons]
      cases about : job.change? with
      | none => simpa [about] using performed
      | some change => simpa [about] using performed

theorem Rationed.finishFrame (rationed : world.Rationed sound changes) (number : Nat) :
    (world.finishFrame .gameThread number).Rationed sound changes :=
  (rationed.retryPending contract).of_backdrop (backdrop_finishFrame world number)

end Effects

end World

namespace Session

variable {H : Type} [ReflectionHost H]

/-! ### Along a run -/

/-- The changes that wait in the queue are those of the messages that wait, and the hours of
those that were drained are rationed. -/
structure Rations (sound : H → Prop) (session : Session (Recorded H)) (backlog : Scheduler Work)
    (inbox : Inbox) : Prop where
  holds : session.Holds backlog
  waiting : backlog.queue.filterMap Job.change? = inbox.waiting.filterMap Message.change?
  rationed : session.world.Rationed sound inbox.changes

section Steps

variable {sound : H → Prop} {session : Session (Recorded H)} {backlog : Scheduler Work}
  {inbox : Inbox}

/-- The host may have changed, and what was resolved may be forgotten. -/
theorem rationed_of_bridge {world : World (Recorded H)} {changes : List Change}
    (rationed : world.Rationed sound changes) {after : Bridge (Recorded H)}
    (calls : after.calls = world.bridge.calls)
    (reliable : world.bridge.Reliable sound → after.Reliable sound) :
    ({ world with bridge := after }).Rationed sound changes := by
  obtain ⟨attempts, attempted, fits⟩ := rationed
  exact ⟨attempts, attempted.stay (reliable attempted.reliable) calls, fits⟩

theorem Rations.begin {host : CountedHost H} (fine : sound host.store) (report : Report)
    (settings : Settings) : (begin host report settings).Rations sound
      (Scheduler.ofSoftCap settings.scheduler.softCap) {} where
  holds := .begin host report settings
  waiting := rfl
  rationed := by
    refine ⟨[], ⟨⟨fine, nofun⟩, rfl, fun earlier _ _ split => ?_⟩, .slnil⟩
    cases earlier <;> cases split

variable (contract : Host.Contract sound)

include contract

theorem Rations.step (rations : session.Rations sound backlog inbox) {input : Input H}
    (fine : ∀ store, input = .hostChanges store → sound store) :
    (session.step input).Rations sound (input.reschedule (session.posted? input) backlog)
      (inbox.step session input) where
  holds := rations.holds.step input
  waiting := rations.holds.waiting_step rations.waiting input
  rationed := by
    have rationed := rations.rationed
    cases drains : input.drains with
    | true =>
        obtain ⟨number, rfl⟩ := Input.eq_frame_of_drains drains
        have performed := rationed.performAll contract rations.holds.posted
        have changes : (inbox.step session (.runFrame .gameThread number)).changes =
            inbox.changes ++ backlog.queue.filterMap Job.change? := by
          rw [rations.waiting]
          exact List.filterMap_append
        rw [rations.holds.world_runFrame, changes]
        exact performed.finishFrame contract number
    | false =>
        -- Two inputs move the bridge without a call; every other one leaves it alone.
        rw [inbox.changes_step drains]
        by_cases forgets : input = .registryChanged
        · subst forgets
          exact rationed_of_bridge rationed rfl fun reliable => ⟨reliable.store, nofun⟩
        · by_cases moves : ∃ store, input = .hostChanges store
          · obtain ⟨store, rfl⟩ := moves
            exact rationed_of_bridge rationed rfl fun reliable =>
              ⟨fine store rfl, reliable.functions⟩
          · have stays : ∀ store, input ≠ .hostChanges store := fun store same =>
              moves ⟨store, same⟩
            exact rationed.of_backdrop (backdrop_step session drains forgets stays)

theorem Rations.run (rations : session.Rations sound backlog inbox) {inputs : List (Input H)}
    (fine : ∀ store, .hostChanges store ∈ inputs → sound store) :
    ∃ left, (session.run inputs).Rations sound left (Inbox.run session inbox inputs) := by
  induction inputs generalizing session backlog inbox with
  | nil => exact ⟨backlog, rations⟩
  | cons input rest ih =>
      have stepped := rations.step contract fun store same => fine store (same ▸ List.mem_cons_self)
      exact ih stepped fun store among => fine store (List.mem_cons_of_mem input among)

end Steps

/-! ### The end of calls -/

/-- Through a closed gate nobody is called again. -/
theorem Holds.calls_run {session : Session (Recorded H)} {backlog : Scheduler Work}
    (holds : session.Holds backlog) (closed : session.world.bridge.gate.disabled = true)
    (inputs : List (Input H)) :
    (session.run inputs).world.bridge.calls = session.world.bridge.calls :=
  (((holds.leads_run inputs).between _ List.mem_cons_self).2.closed closed).2

/-- To advance the schedulers of a class by hours comes to one of these.  It succeeds, and every
one that is there was called once, in store order, and came back.  It is refused before
they were enumerated, and nobody was called.  Or it is refused afterwards, with an error that
never makes the hours wait: of the calls only the first ones were made and fewer than all came
back, again the first ones; the gate is closed, and whatever happens in the session later,
nobody is called.  It does not unwind. -/
def AdvancesOnce (session : Session (Recorded H)) (className : String) (hours : Int32) : Prop :=
  let before := session.world.bridge
  let ended := session.onBridge (·.advanceHours .gameThread className hours)
  let after := ended.1.world.bridge
  match ended.2 with
  | .ok count => ∃ delivery, before.delivery? className (.hours hours) = some delivery ∧
      count = delivery.targets.length ∧ after.calls = before.calls ++ delivery.calls ∧
      Host.completed before.host.store delivery.calls = delivery.calls
  | .error (.refused (.registry _)) => after.calls = before.calls
  | .error (.refused (.invoke error)) => (CallError.invoke error).kind ≠ .notFoundYet ∧
      ∃ delivery made reached, before.delivery? className (.hours hours) = some delivery ∧
        after.calls = before.calls ++ delivery.calls.take made ∧
        reached < delivery.targets.length ∧
        Host.completed before.host.store (delivery.calls.take made) =
          delivery.calls.take reached ∧
        after.gate.disabled = true ∧ ∀ later, (ended.1.run later).world.bridge.calls = after.calls
  | .error (.unwound _) => False

theorem Rations.advancesOnce {sound : H → Prop} (contract : Host.Contract sound)
    {session : Session (Recorded H)} {backlog : Scheduler Work} {inbox : Inbox}
    (rations : session.Rations sound backlog inbox) (className : String) (hours : Int32) :
    session.AdvancesOnce className hours := by
  obtain ⟨attempts, attempted, -⟩ := rations.rationed
  have told := Bridge.advanceHours_told contract attempted.reliable className hours
  unfold AdvancesOnce
  simp only [onBridge, onWorld]
  rcases ended : session.world.bridge.advanceHours .gameThread className hours with
    ⟨after, outcome⟩
  rw [ended] at told
  cases told with
  | missing consults cause => exact consults.calls
  | called consults delivers ends answers =>
      rename_i asked delivery
      have store := consults.store
      cases ends with
      | returned reliable gate made back =>
          refine ⟨delivery, delivers, answers _ rfl, ?_, ?_⟩
          · rw [made, consults.calls]
          · simpa [Host.completed, store] using back []
      | failed count reached reliable closed raised made fewer back =>
          refine ⟨CallError.kind_invoke_ne _, delivery, count, reached, delivers, ?_, ?_, ?_,
            closed, ?_⟩
          · rw [made, consults.calls]
          · simpa [Delivery.calls] using fewer
          · rw [← store]
            exact back
          · have holds : Holds { session with world := { session.world with bridge := after } }
                backlog := rations.holds.of_scheduler_eq rfl
            exact holds.calls_run closed

/-! ### Hours are advanced once -/

/-- For every function table, and whatever tables take its place, in every state that a session
comes to: advancing the schedulers of any class calls each of them once, or nobody, or only the
first ones and then never anybody again.  So all calls of the session are those of attempts, each
made when the earlier ones were over, and each the first calls of its delivery, which has one for
each instance that was listed; and the hours that were tried and those that still wait are some
of the hours drained, each of them at most once and in order. -/
theorem hours_advanced_once {T : Type} [FunctionTable T] (host : CountedHost (Loaded T))
    (report : Report) (settings : Settings) (inputs : List (Input (Loaded T))) :
    let start : Session (Recorded (Loaded T)) := begin host report settings
    let session := start.run inputs
    let drained := hoursOf (Inbox.run start {} inputs).changes
    (∀ className hours, session.AdvancesOnce className hours) ∧
      (∃ attempts : List (Attempt (Loaded T)),
        session.world.bridge.calls = attempts.flatMap Attempt.calls ∧ Attempt.Dated attempts ∧
          (hoursTried attempts ++ session.world.replica.pending.hours).Sublist drained) ∧
      (session.world.bridge.gate.disabled = true →
        ∀ later, (session.run later).world.bridge.calls = session.world.bridge.calls) := by
  intro start session drained
  obtain ⟨backlog, rations⟩ : ∃ left, session.Rations (fun _ : Loaded T => True) left
      (Inbox.run start {} inputs) :=
    Rations.run Loaded.contract (.begin trivial report settings) fun _ _ => trivial
  refine ⟨rations.advancesOnce Loaded.contract, ?_, rations.holds.calls_run⟩
  obtain ⟨attempts, attempted, fits⟩ := rations.rationed
  exact ⟨attempts, attempted.calls, attempted.dated, fits⟩

/-- Of three schedulers that appear late the second faults: the first two are called with the
hours, once, the third never is, nothing waits, and later hours call nobody. -/
theorem hours_advanced_once_at_faulting_scheduler :
    let scheduler : TableEntry :=
      { TableEntry.named (Text.utf8 "Game.Scheduler") 1 with
        methods := [(Text.utf8 "AdvanceHours", { address := 32 })] }
    let hours : PropertyRecord :=
      { name := Text.utf8 "InHours", offset := 0, elementSize := 4, arrayDim := 1, flags := 128 }
    let advanceHours : TableEntry :=
      { TableEntry.named (Text.utf8 "Game.Scheduler.AdvanceHours") 2 with
        chain := [{ record := hours, readable := true }] }
    let instance_ (name : String) : TableEntry :=
      { TableEntry.named (Text.utf8 name) 0 with owner := { address := 16 } }
    let table : TableStore :=
      { slots := [some scheduler, some advanceHours, some (instance_ "Level.Scheduler_0"),
          some (instance_ "Level.Scheduler_1"), some (instance_ "Level.Scheduler_2")]
        faultIn := some 1 }
    let settings : Settings := {}
    let host : CountedHost (Loaded TableStore) := { store := { table := {} } }
    let frame (message : Message) : Input (Loaded TableStore) :=
      .receive 0 (message.encode.toOption.getD [])
    let inputs := [frame (.envClockAdvance 6), frame (.envClockAdvance 4), .runFrame .gameThread 1,
      .hostChanges { table }, .runFrame .gameThread 2]
    let later := [frame (.envClockAdvance (-2)), .runFrame .gameThread 3]
    ((begin host {} settings).run inputs).world.bridge.calls.map
        (fun call => (call.target.address, call.frame)) =
          [(48, [6, 0, 0, 0]), (64, [6, 0, 0, 0])] ∧
      ((begin host {} settings).run inputs).world.replica.pending.hours = [] ∧
      ((begin host {} settings).run inputs).world.bridge.gate.disabled = true ∧
      (∃ attempts : List (Attempt (Loaded TableStore)),
        ((begin host {} settings).run inputs).world.bridge.calls =
            attempts.flatMap Attempt.calls ∧ (hoursTried attempts).Sublist [6, 4]) ∧
      (((begin host {} settings).run inputs).run later).world.bridge.calls =
        ((begin host {} settings).run inputs).world.bridge.calls := by
  intro scheduler hours advanceHours instance_ table settings host frame inputs later
  obtain ⟨-, ⟨attempts, calls, -, fits⟩, closed⟩ := hours_advanced_once host {} settings inputs
  have drained : hoursOf (Inbox.run (begin host {} settings) {} inputs).changes = [6, 4] := by
    decide +kernel
  have disabled : ((begin host {} settings).run inputs).world.bridge.gate.disabled = true := by
    decide +kernel
  rw [drained] at fits
  refine ⟨by decide +kernel, by decide +kernel, disabled, ⟨attempts, calls, ?_⟩,
    closed disabled later⟩
  exact (List.sublist_append_left _ _).trans fits

end Session

end ReplicaBridge
