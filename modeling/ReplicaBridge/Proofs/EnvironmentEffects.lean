/-
Module: ReplicaBridge.Proofs.EnvironmentEffects
Purpose: Seasons and hours on their way to the host.  Whatever is taken over, applied at
  once, left waiting or tried again, the hours that were delivered and those that wait are
  all the hours taken over, in order; and the seasons that were delivered and the one that
  waits are some of the seasons taken over, in order and up to the newest.
Main exports: World.workDelivery?, World.queueDeliveries, World.retryDeliveries,
  World.Settled, World.Kept, World.Kept.performAll, World.Kept.finishFrame
-/
import ReplicaBridge.Proofs.Deliveries

namespace ReplicaBridge

open Host (Recorded ReflectionHost)
open Wire (Message)

/-! ### What is taken over, and what is delivered -/

/-- The change that a message brings. -/
def Wire.Message.change? : Message → Option Change
  | .envSeason value => (Season.targetOfByte? value).map .season
  | .envClockAdvance hours => some (.hours hours)
  | _ => none

/-- The change that a job makes. -/
def Job.change? (job : Job) : Option Change :=
  match job.work with
  | .receiveSeason value => (Season.targetOfByte? value).map .season
  | .advanceHours hours => some (.hours hours)
  | _ => none

/-- Jobs about an entity leave the environment alone. -/
theorem Job.change?_of_deed? {job : Job} {subject : EntityId × Deed}
    (about : job.deed? = some subject) : job.change? = none := by
  obtain ⟨kind, work⟩ := job
  cases work with
  | receiveSeason value => cases about
  | advanceHours hours => cases about
  | _ => rfl

theorem Job.change?_jobFor (message : Message) :
    (Session.jobFor message : Job).change? = message.change? := by
  cases message <;> rfl

namespace World

variable {H : Type} [ReflectionHost H]

/-- How a change is delivered to the host as it is now. -/
def delivery? (world : World H) (change : Change) : Option (Delivery H) :=
  let className := match change with
    | .season _ => world.settings.reflection.seasonChangerClass
    | .hours _ => world.settings.reflection.schedulerClass
  world.bridge.delivery? className change

/-- What an action delivers. -/
def workDelivery? (world : World H) : Work → Option (Delivery H)
  | .receiveSeason value => (Season.targetOfByte? value).bind fun season =>
    world.delivery? (.season season)
  | .advanceHours hours =>
    if world.replica.pending.hours.isEmpty then world.delivery? (.hours hours) else none
  | _ => none

/-- What jobs deliver, one after another. -/
def queueDeliveries : List Job → World H → List (Delivery H)
  | [], _ => []
  | job :: rest, world =>
    (world.workDelivery? job.work).toList ++ queueDeliveries rest (world.performJob job)

/-- What the replay of waiting hours delivers. -/
def replayDeliveries : List Int32 → World H → List (Delivery H)
  | [], _ => []
  | hours :: rest, world =>
    (world.delivery? (.hours hours)).toList ++
      match world.callAdvanceHours hours with
      | (called, .ok count) => replayDeliveries rest (called.noteSchedulerCount count)
      | (_, .error _) => []

/-- What the retry of everything that waits delivers. -/
def retryDeliveries (world : World H) : List (Delivery H) :=
  (world.replica.pending.season.bind fun season => world.delivery? (.season season)).toList ++
    match world.retrySeason with
    | (retried, .ok ()) => replayDeliveries retried.replica.pending.hours retried
    | (_, .error _) => []

end World

/-! ### Deliveries and calls -/

/-- What holds of each item and those before it does so with one more item. -/
theorem forall_split_concat {α : Type} {holds : List α → α → Prop} {items : List α} {last : α}
    (before : ∀ earlier item later, items = earlier ++ item :: later → holds earlier item)
    (now : holds items last) (earlier : List α) (item : α) (later : List α)
    (split : items ++ [last] = earlier ++ item :: later) : holds earlier item := by
  rcases List.eq_nil_or_concat later with rfl | ⟨front, final, rfl⟩
  · obtain ⟨rfl, same⟩ := List.append_inj' split rfl
    cases same
    exact now
  · apply before earlier item front
    rw [List.concat_eq_append, ← List.cons_append, ← List.append_assoc] at split
    exact (List.append_inj' split rfl).1

namespace Delivery

variable {H : Type} [ReflectionHost H]

/-- Each delivery happened when exactly the calls of the earlier ones had been made. -/
def Dated (deliveries : List (Delivery (Recorded H))) : Prop :=
  ∀ earlier delivery later, deliveries = earlier ++ delivery :: later →
    delivery.store.calls = earlier.flatMap Delivery.calls

theorem Dated.concat {deliveries : List (Delivery (Recorded H))} (dated : Dated deliveries)
    {delivery : Delivery (Recorded H)}
    (now : delivery.store.calls = deliveries.flatMap Delivery.calls) :
    Dated (deliveries ++ [delivery]) :=
  forall_split_concat dated now

end Delivery

namespace Bridge

variable {H : Type} [ReflectionHost H]

theorem delivery?_eq_some {bridge : Bridge H} {className : String} {change : Change}
    {delivery : Delivery H} (delivers : bridge.delivery? className change = some delivery) :
    delivery.change = change ∧ delivery.store = bridge.host.store ∧
      Host.instances delivery.store delivery.owner ≠ [] := by
  unfold delivery? at delivers
  split at delivers
  · split at delivers
    · cases delivers
    · rename_i present
      cases delivers
      refine ⟨rfl, rfl, fun nothing => ?_⟩
      simp [nothing] at present
  · cases delivers

/-- The calls that were made are those of the deliveries, each of which reached someone. -/
structure Accounts (sound : H → Prop) (deliveries : List (Delivery (Recorded H)))
    (bridge : Bridge (Recorded H)) : Prop where
  trusted : bridge.Trusted sound
  calls : bridge.calls = deliveries.flatMap Delivery.calls
  dated : Delivery.Dated deliveries
  reached : ∀ delivery ∈ deliveries, Host.instances delivery.store delivery.owner ≠ []

variable {sound : H → Prop} {deliveries : List (Delivery (Recorded H))}
  {before after : Bridge (Recorded H)} (accounts : before.Accounts sound deliveries)

include accounts

/-- One more delivery. -/
theorem Accounts.deliver {className : String} {change : Change} {delivery : Delivery (Recorded H)}
    (delivers : before.delivery? className change = some delivery)
    (trusted : after.Trusted sound) (calls : after.calls = before.calls ++ delivery.calls) :
    after.Accounts sound (deliveries ++ [delivery]) := by
  obtain ⟨_, store, present⟩ := delivery?_eq_some delivers
  constructor
  · exact trusted
  · rw [calls, accounts.calls, List.flatMap_append, List.flatMap_singleton]
  · apply accounts.dated.concat
    rw [store]
    exact accounts.calls
  · intro other among
    rcases List.mem_append.1 among with earlier | last
    · exact accounts.reached other earlier
    · rw [List.mem_singleton.1 last]
      exact present

/-- Nothing was called. -/
theorem Accounts.stay (trusted : after.Trusted sound) (calls : after.calls = before.calls) :
    after.Accounts sound deliveries :=
  { accounts with
    trusted := trusted
    calls := calls.trans accounts.calls }

/-- Reports leave the accounts alone. -/
theorem Accounts.of_alike (alike : before.Alike after) : after.Accounts sound deliveries := by
  obtain ⟨host, report, registry, gate⟩ := before
  obtain ⟨_, _, _, _⟩ := after
  obtain ⟨rfl, rfl, rfl⟩ := alike
  obtain ⟨⟨store, functions, passable⟩, calls, dated, reached⟩ := accounts
  exact ⟨⟨store, functions, passable⟩, calls, dated, reached⟩

end Bridge

/-! ### Settled worlds -/

/-- The seasons among changes. -/
def seasonsOf (changes : List Change) : List Season :=
  changes.filterMap Change.season?

/-- The hours among changes. -/
def hoursOf (changes : List Change) : List Int32 :=
  changes.filterMap Change.hours?

namespace World

variable {H : Type}

/-- The seasons that were delivered, and the one that waits. -/
def dueSeasons (deliveries : List (Delivery (Recorded H))) (pending : PendingEffects) :
    List Season :=
  seasonsOf (deliveries.map (·.change)) ++ pending.season.toList

/-- The hours that were delivered, and those that wait. -/
def dueHours (deliveries : List (Delivery (Recorded H))) (pending : PendingEffects) :
    List Int32 :=
  hoursOf (deliveries.map (·.change)) ++ pending.hours

/-- The changes taken over so far have all reached the host or wait for it, but for seasons
that a newer one has replaced. -/
structure Settled [ReflectionHost H] (sound : H → Prop) (changes : List Change)
    (deliveries : List (Delivery (Recorded H))) (world : World (Recorded H)) : Prop where
  accounts : world.bridge.Accounts sound deliveries
  hours : dueHours deliveries world.replica.pending = hoursOf changes
  clock : world.replica.clock.toInt = (((hoursOf changes).map Int32.toInt).sum).bmod (2 ^ 64)
  season : world.replica.season = (seasonsOf changes).getLast?.getD .invalid
  subsequence : (dueSeasons deliveries world.replica.pending).Sublist (seasonsOf changes)
  newest : (dueSeasons deliveries world.replica.pending).getLast? = (seasonsOf changes).getLast?

/-- The host turned out to be unsupported, or the world is settled. -/
def Kept [ReflectionHost H] (sound : H → Prop) (changes : List Change)
    (deliveries : List (Delivery (Recorded H))) (world : World (Recorded H)) : Prop :=
  world.bridge.unsupported = true ∨ world.Settled sound changes deliveries

section Settling

variable [ReflectionHost H] {sound : H → Prop} {changes : List Change}
  {deliveries later : List (Delivery (Recorded H))} {before after : World (Recorded H)}
  (settled : before.Settled sound changes deliveries)

include settled

/-- What waited may have been delivered. -/
theorem Settled.move (accounts : after.bridge.Accounts sound later)
    (hours : dueHours later after.replica.pending = dueHours deliveries before.replica.pending)
    (seasons : dueSeasons later after.replica.pending =
      dueSeasons deliveries before.replica.pending)
    (season : after.replica.season = before.replica.season)
    (clock : after.replica.clock = before.replica.clock) :
    after.Settled sound changes later where
  accounts := accounts
  hours := hours.trans settled.hours
  clock := (congrArg Int64.toInt clock).trans settled.clock
  season := season.trans settled.season
  subsequence := by
    rw [seasons]
    exact settled.subsequence
  newest := by
    rw [seasons]
    exact settled.newest

/-- A season was taken over; if another one waited for the host, it is replaced. -/
theorem Settled.takeSeason {target : Season} (accounts : after.bridge.Accounts sound later)
    (hours : dueHours later after.replica.pending = dueHours deliveries before.replica.pending)
    (seasons : dueSeasons later after.replica.pending =
      seasonsOf (deliveries.map (·.change)) ++ [target])
    (season : after.replica.season = target)
    (clock : after.replica.clock = before.replica.clock) :
    after.Settled sound (changes ++ [.season target]) later := by
  have taken : seasonsOf (changes ++ [.season target]) = seasonsOf changes ++ [target] := by
    simp [seasonsOf, Change.season?]
  have kept : hoursOf (changes ++ [.season target]) = hoursOf changes := by
    simp [hoursOf, Change.hours?]
  have delivered : (seasonsOf (deliveries.map (·.change))).Sublist (seasonsOf changes) :=
    (List.sublist_append_left _ _).trans settled.subsequence
  constructor
  · exact accounts
  · rw [kept]
    exact hours.trans settled.hours
  · rw [kept, clock]
    exact settled.clock
  · rw [taken, season, List.getLast?_concat]
    rfl
  · rw [taken, seasons]
    exact delivered.append (.refl _)
  · rw [taken, seasons, List.getLast?_concat, List.getLast?_concat]

/-- Hours were taken over. -/
theorem Settled.takeHours {delta : Int32} (accounts : after.bridge.Accounts sound later)
    (hours : dueHours later after.replica.pending =
      dueHours deliveries before.replica.pending ++ [delta])
    (seasons : dueSeasons later after.replica.pending =
      dueSeasons deliveries before.replica.pending)
    (season : after.replica.season = before.replica.season)
    (clock : after.replica.clock = before.replica.clock + delta.toInt64) :
    after.Settled sound (changes ++ [.hours delta]) later := by
  have taken : hoursOf (changes ++ [.hours delta]) = hoursOf changes ++ [delta] := by
    simp [hoursOf, Change.hours?]
  have kept : seasonsOf (changes ++ [.hours delta]) = seasonsOf changes := by
    simp [seasonsOf, Change.season?]
  constructor
  · exact accounts
  · rw [taken, hours, settled.hours]
  · rw [taken, clock, Int64.toInt_add, settled.clock, Int32.toInt_toInt64, Int.bmod_add_bmod,
      List.map_append, List.sum_append]
    simp
  · rw [kept]
    exact season.trans settled.season
  · rw [kept, seasons]
    exact settled.subsequence
  · rw [kept, seasons]
    exact settled.newest

end Settling

/-! ### What a delivery makes of what is due -/

section Due

variable {deliveries : List (Delivery (Recorded H))} {delivery : Delivery (Recorded H)}
  {pending : PendingEffects}

theorem dueHours_season {target : Season} (tells : delivery.change = .season target) :
    dueHours (deliveries ++ [delivery]) pending = dueHours deliveries pending := by
  simp [dueHours, hoursOf, tells, Change.hours?]

theorem dueSeasons_season {target : Season} (tells : delivery.change = .season target) :
    dueSeasons (deliveries ++ [delivery]) pending =
      seasonsOf (deliveries.map (·.change)) ++ target :: pending.season.toList := by
  simp [dueSeasons, seasonsOf, tells, Change.season?]

theorem dueHours_hours {delta : Int32} (tells : delivery.change = .hours delta) :
    dueHours (deliveries ++ [delivery]) pending =
      hoursOf (deliveries.map (·.change)) ++ delta :: pending.hours := by
  simp [dueHours, hoursOf, tells, Change.hours?]

theorem dueSeasons_hours {delta : Int32} (tells : delivery.change = .hours delta) :
    dueSeasons (deliveries ++ [delivery]) pending = dueSeasons deliveries pending := by
  simp [dueSeasons, seasonsOf, tells, Change.season?]

end Due

/-! ### Host effects -/

section Effects

variable [ReflectionHost H] {sound : H → Prop} {changes : List Change}
  {deliveries : List (Delivery (Recorded H))}

omit [ReflectionHost H] in
theorem alike_noteSchedulerCount (world : World (Recorded H)) (count : Nat) :
    world.bridge.Alike (world.noteSchedulerCount count).bridge ∧
      (world.noteSchedulerCount count).replica.pending = world.replica.pending ∧
      (world.noteSchedulerCount count).replica.season = world.replica.season ∧
      (world.noteSchedulerCount count).replica.clock = world.replica.clock := by
  unfold noteSchedulerCount
  split
  · exact ⟨⟨rfl, rfl, rfl⟩, rfl, rfl, rfl⟩
  · exact ⟨⟨rfl, rfl, rfl⟩, rfl, rfl, rfl⟩

omit [ReflectionHost H] in
/-- What is missing now makes an effect wait. -/
theorem deferOrDrop_of_missing (world : World (Recorded H)) {error : CallError}
    (missing : error.kind = .notFoundYet) (change : PendingEffects → PendingEffects) :
    world.deferOrDrop error change = (world.note (.effectDeferred error)).setPending change := by
  unfold deferOrDrop
  rw [if_pos missing]

variable (contract : Host.Contract sound)

include contract

theorem callSetSeason_answered {world : World (Recorded H)}
    (trusted : world.bridge.Trusted sound) (season : Season) :
    (world.callSetSeason season).1.bridge.unsupported = true ∨
      Bridge.Answered sound world.bridge (world.delivery? (.season season))
        ((world.callSetSeason season).1.bridge, (world.callSetSeason season).2) :=
  (Bridge.setCurrentSeason_answered contract trusted
    world.settings.reflection.seasonChangerClass season).imp_right (·.map _)

theorem callAdvanceHours_answered {world : World (Recorded H)}
    (trusted : world.bridge.Trusted sound) (hours : Int32) :
    (world.callAdvanceHours hours).1.bridge.unsupported = true ∨
      Bridge.Answered sound world.bridge (world.delivery? (.hours hours))
        ((world.callAdvanceHours hours).1.bridge, (world.callAdvanceHours hours).2) :=
  Bridge.advanceHours_answered contract trusted world.settings.reflection.schedulerClass hours

/-- A season that is taken over reaches the host or waits. -/
theorem Settled.applySeason {world : World (Recorded H)}
    (settled : world.Settled sound changes deliveries) (season : Season) :
    (world.applySeason season).1.Kept sound (changes ++ [.season season])
      (deliveries ++ (world.delivery? (.season season)).toList) := by
  obtain ⟨taken, reached⟩ : ∃ taken : World (Recorded H), taken =
      ({ world with replica := { world.replica with season } }.note
        (.seasonSet season)).setPending fun pending => { pending with season := none } :=
    ⟨_, rfl⟩
  have accounts : taken.bridge.Accounts sound deliveries := by
    rw [reached]
    exact settled.accounts.of_alike ⟨rfl, rfl, rfl⟩
  have replica : (taken.callSetSeason season).1.replica =
      { world.replica with
        season, pending := { world.replica.pending with season := none } } := by
    rw [reached]
    rfl
  have same : taken.delivery? (.season season) = world.delivery? (.season season) := by
    rw [reached]
    rfl
  rw [← same]
  rcases callSetSeason_answered contract accounts.trusted season with raised | answered
  · left
    apply (looks_applySeason world season).raised
    rw [reached] at raised
    exact raised
  · unfold World.applySeason
    dsimp only
    rw [← reached]
    rcases ended : taken.callSetSeason season with ⟨after, outcome⟩
    rw [ended] at answered replica
    right
    obtain ⟨trusted, ⟨delivery, answer, delivers, rfl, calls⟩ |
      ⟨error, nothing, rfl, missing, calls⟩⟩ := answered
    · have tells := (Bridge.delivery?_eq_some delivers).1
      rw [delivers]
      apply settled.takeSeason (accounts.deliver delivers trusted calls)
      · rw [replica]
        exact dueHours_season tells
      · rw [replica]
        exact dueSeasons_season tells
      · rw [replica]
      · rw [replica]
    · rw [nothing, Option.toList_none, List.append_nil]
      dsimp only at replica ⊢
      rw [deferOrDrop_of_missing after missing]
      apply settled.takeSeason
      · exact (accounts.stay trusted calls).of_alike ⟨rfl, rfl, rfl⟩
      · change dueHours deliveries { after.replica.pending with season := some season } = _
        rw [replica]
        rfl
      · rfl
      · change after.replica.season = season
        rw [replica]
      · change after.replica.clock = world.replica.clock
        rw [replica]

/-- Hours that are taken over reach the host, or wait, behind those that waited before. -/
theorem Settled.advanceHours {world : World (Recorded H)}
    (settled : world.Settled sound changes deliveries) (hours : Int32) :
    (world.advanceHours hours).1.Kept sound (changes ++ [.hours hours])
      (deliveries ++ (world.workDelivery? (.advanceHours hours)).toList) := by
  unfold World.advanceHours workDelivery?
  dsimp only
  generalize reached : World.note { world with
    replica := { world.replica with clock := world.replica.clock + hours.toInt64 } }
      (.clockAdvanced hours (world.replica.clock + hours.toInt64)) = advanced
  have accounts : advanced.bridge.Accounts sound deliveries := by
    rw [← reached]
    exact settled.accounts.of_alike ⟨rfl, rfl, rfl⟩
  have own : advanced.replica =
      { world.replica with clock := world.replica.clock + hours.toInt64 } := by
    rw [← reached]
    rfl
  have replica : (advanced.callAdvanceHours hours).1.replica = advanced.replica := rfl
  have same : advanced.delivery? (.hours hours) = world.delivery? (.hours hours) := by
    rw [← reached]
    rfl
  have waiting : advanced.replica.pending = world.replica.pending := by rw [own]
  rw [waiting, ← same]
  rw [own] at replica
  by_cases free : world.replica.pending.hours.isEmpty = true
  · rw [if_pos free, if_pos free]
    have spent : world.replica.pending.hours = [] := List.isEmpty_iff.1 free
    have called := callAdvanceHours_answered contract accounts.trusted hours
    rcases ended : advanced.callAdvanceHours hours with ⟨after, outcome⟩
    rw [ended] at called replica
    rcases called with raised | answered
    · left
      cases outcome with
      | ok count => exact (looks_noteSchedulerCount after count).raised raised
      | error halt =>
          cases halt with
          | unwound fault => exact raised
          | refused error => exact (looks_deferOrDrop after error _).raised raised
    · right
      obtain ⟨trusted, ⟨delivery, count, delivers, rfl, calls⟩ |
        ⟨error, nothing, rfl, missing, calls⟩⟩ := answered
      · have tells := (Bridge.delivery?_eq_some delivers).1
        obtain ⟨alike, pending, season, clock⟩ := alike_noteSchedulerCount after count
        rw [delivers]
        dsimp only at replica ⊢
        apply settled.takeHours ((accounts.deliver delivers trusted calls).of_alike alike)
        · rw [pending, replica]
          refine (dueHours_hours tells).trans ?_
          simp [dueHours, spent]
        · rw [pending, replica]
          exact dueSeasons_hours tells
        · rw [season, replica]
        · rw [clock, replica]
      · rw [nothing, Option.toList_none, List.append_nil]
        dsimp only at replica ⊢
        rw [deferOrDrop_of_missing after missing]
        apply settled.takeHours
        · exact (accounts.stay trusted calls).of_alike ⟨rfl, rfl, rfl⟩
        · change dueHours deliveries (queueHours hours after.replica.pending) = _
          rw [replica]
          simp [dueHours, queueHours]
        · change dueSeasons deliveries (queueHours hours after.replica.pending) = _
          rw [replica]
          rfl
        · change after.replica.season = world.replica.season
          rw [replica]
        · change after.replica.clock = world.replica.clock + hours.toInt64
          rw [replica]
  · rw [if_neg free, if_neg free, Option.toList_none, List.append_nil]
    right
    apply settled.takeHours
    · exact accounts.of_alike ⟨rfl, rfl, rfl⟩
    · change dueHours deliveries (queueHours hours advanced.replica.pending) = _
      rw [own]
      simp [dueHours, queueHours]
    · change dueSeasons deliveries (queueHours hours advanced.replica.pending) = _
      rw [own]
      rfl
    · change advanced.replica.season = world.replica.season
      rw [own]
    · change advanced.replica.clock = world.replica.clock + hours.toInt64
      rw [own]

/-- A season that waits is delivered or goes on waiting. -/
theorem Settled.retrySeason {world : World (Recorded H)}
    (settled : world.Settled sound changes deliveries) :
    world.retrySeason.1.Kept sound changes (deliveries ++
      (world.replica.pending.season.bind fun season => world.delivery? (.season season)).toList) := by
  cases waits : world.replica.pending.season with
  | none =>
      have same : world.retrySeason.1 = world := by
        simp only [World.retrySeason]
        rw [waits]
      right
      rw [same, Option.bind_none, Option.toList_none, List.append_nil]
      exact settled
  | some season =>
      have replica : (world.callSetSeason season).1.replica = world.replica := rfl
      rw [Option.bind_some]
      rcases callSetSeason_answered contract settled.accounts.trusted season with
        raised | answered
      · exact Or.inl ((looks_retrySeason world waits).raised raised)
      · simp only [World.retrySeason]
        rw [waits]
        dsimp only
        rcases ended : world.callSetSeason season with ⟨after, outcome⟩
        rw [ended] at answered replica
        right
        obtain ⟨trusted, ⟨delivery, answer, delivers, rfl, calls⟩ |
          ⟨error, nothing, rfl, missing, calls⟩⟩ := answered
        · have tells := (Bridge.delivery?_eq_some delivers).1
          rw [delivers]
          dsimp only at replica ⊢
          apply settled.move
          · exact (settled.accounts.deliver delivers trusted calls).of_alike ⟨rfl, rfl, rfl⟩
          · change dueHours _ { after.replica.pending with season := none } = _
            rw [replica]
            exact dueHours_season tells
          · change dueSeasons _ { after.replica.pending with season := none } = _
            refine (dueSeasons_season tells).trans ?_
            simp [dueSeasons, waits]
          · change after.replica.season = world.replica.season
            rw [replica]
          · change after.replica.clock = world.replica.clock
            rw [replica]
        · rw [nothing, Option.toList_none, List.append_nil]
          dsimp only at replica ⊢
          rw [if_pos missing]
          apply settled.move (settled.accounts.stay trusted calls)
          · rw [replica]
          · rw [replica]
          · rw [replica]
          · rw [replica]

omit contract in
theorem raised_replayHours (waiting : List Int32) {world : World (Recorded H)}
    (raised : world.bridge.unsupported = true) :
    (replayHours waiting world).1.bridge.unsupported = true := by
  obtain ⟨last, leads, looks⟩ := leads_replayHours waiting world
  exact looks.raised (leads.raised raised)

/-- Hours that wait are delivered from the first on; where that stops they go on waiting. -/
theorem Kept.replayHours {waiting : List Int32} {world : World (Recorded H)}
    (kept : (world.keepHours waiting).Kept sound changes deliveries) :
    (World.replayHours waiting world).1.Kept sound changes
      (deliveries ++ replayDeliveries waiting world) := by
  induction waiting generalizing world deliveries with
  | nil =>
      simp only [World.replayHours, replayDeliveries, List.append_nil]
      exact kept
  | cons hours rest ih =>
      rcases kept with raised | settled
      · have unsupported : world.bridge.unsupported = true := raised
        exact Or.inl (raised_replayHours (hours :: rest) unsupported)
      · have accounts : world.bridge.Accounts sound deliveries := settled.accounts
        have called := callAdvanceHours_answered contract accounts.trusted hours
        have replica : (world.callAdvanceHours hours).1.replica = world.replica := rfl
        simp only [World.replayHours, replayDeliveries]
        rcases ended : world.callAdvanceHours hours with ⟨after, outcome⟩
        rw [ended] at called replica
        rcases called with raised | answered
        · left
          cases outcome with
          | ok count =>
              exact raised_replayHours rest ((looks_noteSchedulerCount after count).raised raised)
          | error halt =>
              cases halt with
              | unwound fault => exact raised
              | refused error =>
                  dsimp only
                  split
                  · exact raised
                  · exact (Bridge.looks_note after.bridge _).raised raised
        · obtain ⟨trusted, ⟨delivery, count, delivers, rfl, calls⟩ |
            ⟨error, nothing, rfl, missing, calls⟩⟩ := answered
          · have tells := (Bridge.delivery?_eq_some delivers).1
            obtain ⟨alike, pending, season, clock⟩ := alike_noteSchedulerCount after count
            rw [delivers]
            dsimp only [Option.toList_some] at replica ⊢
            rw [← List.append_assoc]
            apply ih
            right
            apply settled.move
            · exact (accounts.deliver delivers trusted calls).of_alike alike
            · change dueHours _ { (after.noteSchedulerCount count).replica.pending with
                hours := rest } = _
              exact dueHours_hours tells
            · change dueSeasons _ { (after.noteSchedulerCount count).replica.pending with
                hours := rest } = _
              rw [pending, replica]
              exact dueSeasons_hours tells
            · change (after.noteSchedulerCount count).replica.season = world.replica.season
              rw [season, replica]
            · change (after.noteSchedulerCount count).replica.clock = world.replica.clock
              rw [clock, replica]
          · rw [nothing, Option.toList_none, List.nil_append, List.append_nil]
            dsimp only at replica ⊢
            rw [if_pos missing]
            right
            apply settled.move
            · exact accounts.stay trusted calls
            · rfl
            · change dueSeasons _ { after.replica.pending with hours := hours :: rest } = _
              rw [replica]
              rfl
            · change after.replica.season = world.replica.season
              rw [replica]
            · change after.replica.clock = world.replica.clock
              rw [replica]

/-- What waits is delivered as far as the host can take it. -/
theorem Kept.retryPending {world : World (Recorded H)}
    (kept : world.Kept sound changes deliveries) :
    world.retryPending.1.Kept sound changes (deliveries ++ world.retryDeliveries) := by
  rcases kept with raised | settled
  · obtain ⟨last, leads, looks⟩ := leads_retryPending world
    exact Or.inl (looks.raised (leads.raised raised))
  · have retried := settled.retrySeason contract
    simp only [World.retryPending, retryDeliveries]
    rw [← List.append_assoc]
    rcases ended : world.retrySeason with ⟨after, outcome⟩
    rw [ended] at retried
    cases outcome with
    | error fault =>
        rw [List.append_nil]
        exact retried
    | ok answer => exact Kept.replayHours contract retried

end Effects

/-! ### Jobs and frames -/

section Jobs

variable [ReflectionHost H] {sound : H → Prop} {changes : List Change}
  {deliveries : List (Delivery (Recorded H))}

/-- What leaves the bridge and the environment alone keeps a world settled. -/
theorem Settled.of_backdrop {before after : World (Recorded H)}
    (settled : before.Settled sound changes deliveries)
    (same : after.backdrop = { before.backdrop with footing := after.footing }) :
    after.Settled sound changes deliveries := by
  have alike : before.bridge.Alike after.bridge :=
    ⟨(congrArg Backdrop.host same).symm, (congrArg Backdrop.registry same).symm,
      (congrArg Backdrop.gate same).symm⟩
  have pending : after.replica.pending = before.replica.pending := congrArg Backdrop.pending same
  apply settled.move (settled.accounts.of_alike alike)
  · rw [pending]
  · rw [pending]
  · exact congrArg Backdrop.season same
  · exact congrArg Backdrop.clock same

theorem Kept.of_looks {before after : World (Recorded H)}
    (kept : before.Kept sound changes deliveries)
    (looks : Bridge.Looks before.bridge after.bridge)
    (same : after.backdrop = { before.backdrop with footing := after.footing }) :
    after.Kept sound changes deliveries := by
  rcases kept with raised | settled
  · exact Or.inl (looks.raised raised)
  · exact Or.inr (settled.of_backdrop same)

omit [ReflectionHost H] in
/-- A backdrop that has not changed has not changed beyond its footing. -/
theorem backdrop_of_eq {before after : World (Recorded H)}
    (same : after.backdrop = before.backdrop) :
    after.backdrop = { before.backdrop with footing := after.footing } := by
  rw [← same]
  rfl

/-- Jobs about avatars and chat lines have nothing to do with the environment. -/
theorem backdrop_performJob_of_no_change {job : Job} (posted : Job.Posted job)
    (quiet : job.change? = none) (world : World (Recorded H)) :
    (world.performJob job).backdrop = world.backdrop := by
  cases about : job.deed? with
  | some subject => exact (retracks_performJob about world).backdrop
  | none =>
      cases posted with
      | localWrite id valid => cases about
      | message valid =>
          rename_i message
          rw [Job.change?_jobFor] at quiet
          cases message with
          | envSeason value =>
              cases target : Season.targetOfByte? value with
              | some season => simp [Message.change?, target] at quiet
              | none => simp [Message.isValid, target] at valid
          | envClockAdvance hours => cases quiet
          | chat text =>
              have performed := view_performJob world (Session.jobFor (.chat text))
              exact congrArg View.backdrop (performed.trans (view_fire world (.chat text)))
          | _ => cases about

/-- After the retry the end of a frame leaves the environment alone. -/
theorem backdrop_finishFrame (world : World (Recorded H)) (number : Nat) :
    (world.finishFrame .gameThread number).backdrop =
      { world.retryPending.1.backdrop with
        footing := (world.finishFrame .gameThread number).footing } := by
  unfold World.finishFrame
  dsimp only
  split
  · rename_i after fault answered
    rw [answered]
    rfl
  · rename_i after answered
    rw [answered]
    have seen : (after.tick.fire (.frame number)).1.view = after.view.aged :=
      (view_fire _ _).trans (view_tick after)
    have backdrop := congrArg View.backdrop seen
    have footing := congrArg Backdrop.footing backdrop
    change (after.tick.fire (.frame number)).1.footing = _ at footing
    rw [footing]
    exact backdrop

/-- A job that makes a change takes over the season or the hours. -/
theorem perform_of_change? {job : Job} {change : Change} (about : job.change? = some change)
    (world : World (Recorded H)) : world.perform job.work =
      match change with
      | .season season => world.applySeason season
      | .hours hours => world.advanceHours hours := by
  obtain ⟨kind, work⟩ := job
  cases work with
  | receiveSeason value =>
      obtain ⟨season, target, rfl⟩ := Option.map_eq_some_iff.1 about
      simp only [perform, receiveSeason, target]
  | advanceHours hours =>
      cases about
      rfl
  | _ => cases about

theorem workDelivery?_of_no_change {job : Job} (quiet : job.change? = none)
    (world : World (Recorded H)) : world.workDelivery? job.work = none := by
  obtain ⟨kind, work⟩ := job
  cases work with
  | receiveSeason value =>
      have nothing : Season.targetOfByte? value = none := Option.map_eq_none_iff.1 quiet
      simp [workDelivery?, nothing]
  | advanceHours hours => cases quiet
  | _ => rfl

variable (contract : Host.Contract sound)

include contract

/-- A job makes its change, and what it delivers is delivered. -/
theorem Settled.performJob {job : Job} (posted : Job.Posted job) {world : World (Recorded H)}
    (settled : world.Settled sound changes deliveries) :
    (world.performJob job).Kept sound (changes ++ job.change?.toList)
      (deliveries ++ (world.workDelivery? job.work).toList) := by
  cases about : job.change? with
  | none =>
      rw [workDelivery?_of_no_change about, Option.toList_none, List.append_nil, Option.toList_none,
        List.append_nil]
      have same := backdrop_performJob_of_no_change posted about world
      exact Or.inr (settled.of_backdrop (backdrop_of_eq same))
  | some change =>
      have acted : (world.perform job.work).1.Kept sound (changes ++ [change])
          (deliveries ++ (world.workDelivery? job.work).toList) := by
        cases posted with
        | localWrite id valid => cases about
        | message valid =>
            rename_i message
            rw [Job.change?_jobFor] at about
            cases message with
            | envSeason value =>
                obtain ⟨season, target, rfl⟩ := Option.map_eq_some_iff.1 about
                have applied := settled.applySeason contract season
                change (world.receiveSeason value).1.Kept sound _
                  (deliveries ++ ((Season.targetOfByte? value).bind fun season =>
                    world.delivery? (.season season)).toList)
                simp only [receiveSeason, target]
                exact applied
            | envClockAdvance hours =>
                cases about
                exact settled.advanceHours contract hours
            | _ => cases about
      exact acted.of_looks (looks_performJob world job)
        (backdrop_of_eq (congrArg View.backdrop (view_performJob world job)))

/-- So do jobs one after another. -/
theorem Kept.performAll {jobs : List Job} (posted : ∀ job ∈ jobs, Job.Posted job)
    {world : World (Recorded H)} (kept : world.Kept sound changes deliveries) :
    (world.performAll jobs).Kept sound (changes ++ jobs.filterMap Job.change?)
      (deliveries ++ queueDeliveries jobs world) := by
  induction jobs generalizing world changes deliveries with
  | nil =>
      simp only [List.filterMap_nil, queueDeliveries, List.append_nil]
      exact kept
  | cons job rest ih =>
      have posts := posted job List.mem_cons_self
      have performed : (world.performJob job).Kept sound (changes ++ job.change?.toList)
          (deliveries ++ (world.workDelivery? job.work).toList) := by
        rcases kept with raised | settled
        · obtain ⟨last, leads, looks⟩ := leads_perform posts world
          exact Or.inl ((looks_performJob world job).raised (looks.raised (leads.raised raised)))
        · exact settled.performJob contract posts
      have later := ih (fun other waits => posted other (List.mem_cons_of_mem job waits)) performed
      have changed : (job :: rest).filterMap Job.change? =
          job.change?.toList ++ rest.filterMap Job.change? := by
        cases about : job.change? with
        | none => exact List.filterMap_cons_none about
        | some change => exact List.filterMap_cons_some about
      rw [changed, queueDeliveries, performAll_cons, ← List.append_assoc, ← List.append_assoc]
      exact later

/-- At the end of a frame everything that waits is tried again. -/
theorem Kept.finishFrame {world : World (Recorded H)} (kept : world.Kept sound changes deliveries)
    (number : Nat) : (world.finishFrame .gameThread number).Kept sound changes
      (deliveries ++ world.retryDeliveries) := by
  have looks := looks_finishFrame world number
  exact (kept.retryPending contract).of_looks looks (backdrop_finishFrame world number)

end Jobs

end World

end ReplicaBridge
