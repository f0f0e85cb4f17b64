/-
Module: ReplicaBridge.Proofs.ArrivalOrder
Purpose: In which order the server's updates of an entity take effect on its row.  They do
  so in the order of their arrival, but for one course of events: a local write makes the
  row while an early update waits for it, a later update is applied to that row, and a spawn
  then applies the early one.
Main exports: RowEvent, Ledger, Record, OrderKept, Reversed, Ledger.Sound,
  Ledger.Accounts, Session.Audits
-/
import ReplicaBridge.Proofs.SupersededDeeds

namespace ReplicaBridge

open Host (CountedHost Loaded Recorded ReflectionHost TableStore)
open Schedule (Scheduler)
open Wire (Message)

/-! ### Ledgers -/

/-- What happens to the row of an entity.  An update has the number of the input that
brought it. -/
inductive RowEvent where
  /-- A spawn, a despawn or a local write made the row or took it away. -/
  | made (row : Option AvatarState)
  /-- An update took effect on the row. -/
  | applied (number : Nat) (state : AvatarState)
  /-- An update that was held took effect on the row of a spawn. -/
  | flushed (number : Nat) (state : AvatarState)
  /-- A local write is about to make the row while an update is held. -/
  | covered (number : Nat)
deriving DecidableEq

namespace RowEvent

/-- The update that took effect. -/
def effect? : RowEvent → Option (Nat × AvatarState)
  | .applied number state | .flushed number state => some (number, state)
  | .made _ | .covered _ => none

/-- The number of the update that the event is about. -/
def number? : RowEvent → Option Nat
  | .applied number _ | .flushed number _ | .covered number => some number
  | .made _ => none

/-- The row that the event leaves. -/
def rowAfter (row : Option AvatarState) : RowEvent → Option AvatarState
  | .made row => row
  | .applied _ state | .flushed _ state => some state
  | .covered _ => row

end RowEvent

/-- Updates took effect in the order of their arrival, and none did twice. -/
def OrderKept (events : List RowEvent) : Prop :=
  (events.filterMap RowEvent.effect?).Pairwise fun earlier later => earlier.1 < later.1

instance (events : List RowEvent) : Decidable (OrderKept events) :=
  inferInstanceAs (Decidable (List.Pairwise _ _))

/-- A local write made the row over a held update, a later update was applied to that row,
and then the held one was. -/
def Reversed (events : List RowEvent) : Prop :=
  ∃ number later state early,
    [.covered number, .applied later state, .flushed number early].Sublist events

/-- The events of a row, oldest first, and the number of the update that was held last. -/
structure Ledger where
  held : Nat := 0
  events : List RowEvent := []

namespace Ledger

def add (ledger : Ledger) (event : RowEvent) : Ledger :=
  { ledger with events := ledger.events ++ [event] }

/-- Enter a deed that meets a track. -/
def enter (id : EntityId) (owned : Bool) (number : Nat) (deed : Deed) (track : Track)
    (ledger : Ledger) : Ledger :=
  match deed with
  | .spawn state =>
    if state.isValid then
      let made := ledger.add (.made (some (state.withId id)))
      match track.held with
      | some update =>
        if !owned && update.state.isValid then
          made.add (.flushed made.held (update.state.withId id))
        else made
      | none => made
    else ledger
  | .despawn => ledger.add (.made none)
  | .update state =>
    if !owned && state.isValid then
      if track.row.isSome then ledger.add (.applied number (state.withId id))
      else { ledger with held := number }
    else ledger
  | .write state =>
    let noted :=
      if track.row.isNone && track.held.isSome then ledger.add (.covered ledger.held)
      else ledger
    noted.add (.made (some (state.withId id)))

/-- Enter the deeds of one frame, in order. -/
def carry (id : EntityId) (owned : Bool) (tick : Nat) :
    List (Nat × Deed) → Track → Ledger → Ledger
  | [], _, ledger => ledger
  | (number, deed) :: rest, track, ledger =>
    carry id owned tick rest (track.after id owned tick deed)
      (ledger.enter id owned number deed track)

end Ledger

/-- What the numbered jobs do to an entity, in order. -/
def numberedDeeds (id : EntityId) (queue : List (Schedule.Task (Nat × Work))) :
    List (Nat × Deed) :=
  queue.filterMap fun task => (Job.deedOn? id (task.map Prod.snd)).map (task.work.1, ·)

/-- What each input posted, oldest first, the queue with the number of the input that posted
each job, and the ledger of an entity's row. -/
structure Record where
  posts : List (Option Job) := []
  queue : Scheduler (Nat × Work)
  ledger : Ledger := {}

namespace Record

variable {H : Type}

/-- Frames on the game thread enter what they carry out, and so do local writes there. -/
def step (id : EntityId) (session : Session (Recorded H)) (record : Record) (input : Input H) :
    Record where
  posts := record.posts ++ [session.posted? input]
  queue := input.reschedule
    ((session.posted? input).map (Schedule.Task.map (record.posts.length, ·))) record.queue
  ledger := match input with
    | .runFrame .gameThread _ =>
      record.ledger.carry id (session.world.owns id) session.world.channel.tick
        (numberedDeeds id record.queue.queue) (session.world.track id)
    | .sendLocal .gameThread state =>
      if session.localWrite? state = some id then
        record.ledger.enter id true record.posts.length (.write (state.withId id))
          (session.world.track id)
      else record.ledger
    | _ => record.ledger

/-- The record of an entity's row along a run. -/
def run [ReflectionHost H] (id : EntityId) : Session (Recorded H) → Record → List (Input H) →
    Record
  | _, record, [] => record
  | session, record, input :: rest =>
    run id (session.step input) (record.step id session input) rest

/-- The input of that number brought an update of the entity. -/
def Brought (id : EntityId) (posts : List (Option Job)) (number : Nat) (state : AvatarState) :
    Prop :=
  ∃ job, posts[number]? = some (some job) ∧ job.deed? = some (id, .update state)

end Record

/-! ### What ledgers obey -/

namespace Ledger

/-- What is true of the events of a ledger: all numbers lie below a bound, an update is
applied after everything that is about an earlier one, and no later update took effect before
the one that is held, but on a row that a local write had made over it. -/
structure Sound (bound : Nat) (holds : Bool) (ledger : Ledger) : Prop where
  below : ∀ event ∈ ledger.events, ∀ number, event.number? = some number → number < bound
  heldBelow : holds = true → ledger.held < bound
  applied : ledger.events.Pairwise fun earlier later => ∀ number other state,
    earlier.number? = some number → later = .applied other state → number < other
  overtaken : holds = true → ∀ event ∈ ledger.events, ∀ number state,
    event.effect? = some (number, state) → number < ledger.held ∨
      [.covered ledger.held, .applied number state].Sublist ledger.events
  order : OrderKept ledger.events ∨ Reversed ledger.events

end Ledger

theorem RowEvent.number?_of_effect? {event : RowEvent} {number : Nat} {state : AvatarState}
    (effect : event.effect? = some (number, state)) : event.number? = some number := by
  cases event with
  | applied other written =>
      cases effect
      rfl
  | flushed other written =>
      cases effect
      rfl
  | made row => cases effect
  | covered other => cases effect

theorem Reversed.append {events : List RowEvent} (reversed : Reversed events)
    (later : List RowEvent) : Reversed (events ++ later) := by
  obtain ⟨number, other, state, early, within⟩ := reversed
  exact ⟨number, other, state, early, within.trans (List.sublist_append_left events later)⟩

theorem orderKept_append {events : List RowEvent} {event : RowEvent} :
    OrderKept (events ++ [event]) ↔ OrderKept events ∧
      ∀ number state, event.effect? = some (number, state) →
        ∀ other ∈ events.filterMap RowEvent.effect?, other.1 < number := by
  simp only [OrderKept]
  rw [List.filterMap_append, List.pairwise_append]
  cases effect : event.effect? with
  | none => simp [List.filterMap_cons_none effect]
  | some update =>
      obtain ⟨number, state⟩ := update
      simp [List.filterMap_cons_some effect]

namespace Ledger

variable {ledger : Ledger} {event : RowEvent}

theorem mem_add {other : RowEvent} (among : other ∈ (ledger.add event).events) :
    other ∈ ledger.events ∨ other = event := by
  rcases List.mem_append.1 among with earlier | last
  · exact Or.inl earlier
  · exact Or.inr (List.mem_singleton.1 last)

theorem pairwise_add {related : RowEvent → RowEvent → Prop}
    (pairwise : ledger.events.Pairwise related)
    (last : ∀ earlier ∈ ledger.events, related earlier event) :
    (ledger.add event).events.Pairwise related := by
  refine List.pairwise_append.2 ⟨pairwise, List.pairwise_singleton _ _, ?_⟩
  intro earlier among later isLast
  rw [List.mem_singleton.1 isLast]
  exact last earlier among

end Ledger

namespace Ledger.Sound

variable {bound : Nat} {holds : Bool} {ledger : Ledger} (sound : ledger.Sound bound holds)

include sound

theorem mono {higher : Nat} (le : bound ≤ higher) : ledger.Sound higher holds where
  below event among number about := Nat.lt_of_lt_of_le (sound.below event among number about) le
  heldBelow held := Nat.lt_of_lt_of_le (sound.heldBelow held) le
  applied := sound.applied
  overtaken := sound.overtaken
  order := sound.order

/-- Nothing need be held any more. -/
theorem release : ledger.Sound bound false where
  below := sound.below
  heldBelow := nofun
  applied := sound.applied
  overtaken := nofun
  order := sound.order

/-- A newer update is held. -/
theorem hold {number : Nat} (newer : bound ≤ number) :
    ({ ledger with held := number } : Ledger).Sound (number + 1) true where
  below event among other about :=
    Nat.lt_succ_of_lt (Nat.lt_of_lt_of_le (sound.below event among other about) newer)
  heldBelow _ := Nat.lt_succ_self number
  applied := sound.applied
  overtaken _ event among other _ effect :=
    Or.inl (Nat.lt_of_lt_of_le
      (sound.below event among other (RowEvent.number?_of_effect? effect)) newer)
  order := sound.order

/-- Any event joins that is no effect and is about nothing but the held update. -/
theorem add_quiet {event : RowEvent} (noEffect : event.effect? = none)
    (about : ∀ number, event.number? = some number → number = ledger.held ∧ holds = true) :
    (ledger.add event).Sound bound holds where
  below other among number claims := by
    rcases mem_add among with earlier | rfl
    · exact sound.below other earlier number claims
    · obtain ⟨rfl, held⟩ := about number claims
      exact sound.heldBelow held
  heldBelow := sound.heldBelow
  applied := by
    refine pairwise_add sound.applied ?_
    intro earlier _ number other state _ isApplied
    rw [isApplied] at noEffect
    cases noEffect
  overtaken held other among number state effect := by
    rcases mem_add among with earlier | rfl
    · rcases sound.overtaken held other earlier number state effect with before | within
      · exact Or.inl before
      · exact Or.inr (within.trans (List.sublist_append_left _ _))
    · rw [noEffect] at effect
      cases effect
  order := by
    rcases sound.order with kept | reversed
    · left
      refine orderKept_append.2 ⟨kept, fun number state effect => ?_⟩
      rw [noEffect] at effect
      cases effect
    · exact Or.inr (reversed.append _)

theorem add_made (row : Option AvatarState) : (ledger.add (.made row)).Sound bound holds :=
  sound.add_quiet rfl nofun

theorem add_covered (held : holds = true) :
    (ledger.add (.covered ledger.held)).Sound bound holds := by
  apply sound.add_quiet rfl
  intro number about
  cases about
  exact ⟨rfl, held⟩

/-- A newer update takes effect; if another one is held, a local write has made the row. -/
theorem add_applied {number : Nat} (newer : bound ≤ number) (state : AvatarState)
    (covered : holds = true → .covered ledger.held ∈ ledger.events) :
    (ledger.add (.applied number state)).Sound (number + 1) holds where
  below other among claimed claims := by
    rcases mem_add among with earlier | rfl
    · have lower := sound.below other earlier claimed claims
      omega
    · cases claims
      exact Nat.lt_succ_self number
  heldBelow held := Nat.lt_succ_of_lt (Nat.lt_of_lt_of_le (sound.heldBelow held) newer)
  applied := by
    refine pairwise_add sound.applied ?_
    intro earlier before claimed other written claims isApplied
    cases isApplied
    have lower := sound.below earlier before claimed claims
    omega
  overtaken held other among claimed written effect := by
    rcases mem_add among with earlier | rfl
    · rcases sound.overtaken held other earlier claimed written effect with before | within
      · exact Or.inl before
      · exact Or.inr (within.trans (List.sublist_append_left _ _))
    · cases effect
      have made := List.singleton_sublist.2 (covered held)
      exact Or.inr (made.append (.refl [RowEvent.applied number state]))
  order := by
    rcases sound.order with kept | reversed
    · left
      refine orderKept_append.2 ⟨kept, fun claimed written effect other among => ?_⟩
      cases effect
      obtain ⟨event, earlier, about⟩ := List.mem_filterMap.1 among
      have lower := sound.below event earlier other.1 (RowEvent.number?_of_effect? about)
      omega
    · exact Or.inr (reversed.append _)

/-- The held update takes effect.  If a later one did so before, the order is reversed. -/
theorem add_flushed (held : holds = true) (state : AvatarState) :
    (ledger.add (.flushed ledger.held state)).Sound bound false where
  below other among claimed claims := by
    rcases mem_add among with earlier | rfl
    · exact sound.below other earlier claimed claims
    · cases claims
      exact sound.heldBelow held
  heldBelow := nofun
  applied := by
    refine pairwise_add sound.applied ?_
    intro earlier _ claimed other written _ isApplied
    cases isApplied
  overtaken := nofun
  order := by
    rcases sound.order with kept | reversed
    · by_cases behind : ∀ other ∈ ledger.events.filterMap RowEvent.effect?, other.1 < ledger.held
      · left
        refine orderKept_append.2 ⟨kept, fun claimed written effect other among => ?_⟩
        cases effect
        exact behind other among
      · right
        simp only [Classical.not_forall] at behind
        obtain ⟨⟨other, written⟩, among, ahead⟩ := behind
        obtain ⟨event, earlier, effect⟩ := List.mem_filterMap.1 among
        rcases sound.overtaken held event earlier other written effect with before | within
        · exact absurd before ahead
        · exact ⟨ledger.held, other, written, state,
            within.append (.refl [RowEvent.flushed ledger.held state])⟩
    · exact Or.inr (reversed.append _)

/-- The order is kept exactly if no course of events reverses it. -/
theorem orderKept_iff : OrderKept ledger.events ↔ ¬Reversed ledger.events := by
  constructor
  · rintro kept ⟨number, later, state, early, within⟩
    have forth : number < later := by
      have ordered := sound.applied.sublist within
      exact (List.pairwise_cons.1 ordered).1 (.applied later state) List.mem_cons_self number
        later state rfl rfl
    have back : later < number := by
      have effects := List.Pairwise.sublist (within.filterMap RowEvent.effect?) kept
      exact (List.pairwise_cons.1 effects).1 (number, early) List.mem_cons_self
    exact Nat.lt_asymm forth back
  · intro never
    exact sound.order.resolve_right never

end Ledger.Sound

/-! ### Ledgers that account for a track -/

/-- A ledger tells where the row of a track comes from and which updates took effect on it;
a row beside an update that is held was made by a local write. -/
structure Ledger.Accounts (brought : Nat → AvatarState → Prop) (id : EntityId) (bound : Nat)
    (track : Track) (ledger : Ledger) : Prop where
  sound : ledger.Sound bound track.held.isSome
  row : track.row = ledger.events.foldl RowEvent.rowAfter none
  covered : track.held.isSome = true → track.row.isSome = true →
    .covered ledger.held ∈ ledger.events
  effects : ∀ event ∈ ledger.events, ∀ number state, event.effect? = some (number, state) →
    brought number state
  waits : ∀ update, track.held = some update → brought ledger.held (update.state.withId id)

namespace Ledger.Accounts

variable {brought : Nat → AvatarState → Prop} {id : EntityId} {bound : Nat} {track : Track}
  {ledger : Ledger}

theorem empty (brought : Nat → AvatarState → Prop) (id : EntityId) (bound : Nat) :
    Accounts brought id bound {} {} where
  sound := ⟨nofun, nofun, .nil, nofun, Or.inl .nil⟩
  row := rfl
  covered := nofun
  effects := nofun
  waits := nofun

section Steps

variable (accounts : ledger.Accounts brought id bound track)

include accounts

theorem mono {higher : Nat} (le : bound ≤ higher) : ledger.Accounts brought id higher track :=
  { accounts with sound := accounts.sound.mono le }

/-- More inputs may have come. -/
theorem mono_brought {later : Nat → AvatarState → Prop}
    (still : ∀ number state, brought number state → later number state) :
    ledger.Accounts later id bound track :=
  { accounts with
    effects := fun event among number state effect =>
      still number state (accounts.effects event among number state effect)
    waits := fun update held => still _ _ (accounts.waits update held) }

/-- The held update may be gone. -/
theorem release : ledger.Accounts brought id bound { track with held := none } where
  sound := accounts.sound.release
  row := accounts.row
  covered := nofun
  effects := accounts.effects
  waits := nofun

theorem aged (now maxAge : Nat) : ledger.Accounts brought id bound (track.aged now maxAge) := by
  simp only [Track.aged]
  cases held : track.held with
  | none => exact accounts.release
  | some update =>
      rw [Option.filter_some]
      split
      · rw [← held]
        exact accounts
      · exact accounts.release

theorem row_add (event : RowEvent) : event.rowAfter track.row =
    (ledger.add event).events.foldl RowEvent.rowAfter none := by
  simp only [Ledger.add]
  rw [List.foldl_append, ← accounts.row]
  rfl

theorem effects_add {event : RowEvent}
    (effect : ∀ number state, event.effect? = some (number, state) → brought number state) :
    ∀ other ∈ (ledger.add event).events, ∀ number state,
      other.effect? = some (number, state) → brought number state := by
  intro other among
  rcases mem_add among with earlier | rfl
  · exact accounts.effects other earlier
  · exact effect

/-- A local write is about to make the row. -/
theorem cover (held : track.held.isSome = true) :
    (ledger.add (.covered ledger.held)).Accounts brought id bound track where
  sound := accounts.sound.add_covered held
  row := accounts.row_add (.covered ledger.held)
  covered _ _ := List.mem_append_right _ List.mem_cons_self
  effects := accounts.effects_add fun _ _ absent => by cases absent
  waits := accounts.waits

/-- The row is made; if an update is held, that was foreseen. -/
theorem make (row : Option AvatarState)
    (covered : track.held.isSome = true → .covered ledger.held ∈ ledger.events) :
    (ledger.add (.made row)).Accounts brought id bound { track with row } where
  sound := accounts.sound.add_made row
  row := accounts.row_add (.made row)
  covered held _ := List.mem_append_left _ (covered held)
  effects := accounts.effects_add fun _ _ absent => by cases absent
  waits := accounts.waits

theorem apply {number : Nat} (newer : bound ≤ number) {state : AvatarState}
    (arrived : brought number state) (present : track.row.isSome = true) :
    (ledger.add (.applied number state)).Accounts brought id (number + 1)
      { track with row := some state } where
  sound := accounts.sound.add_applied newer state fun held => accounts.covered held present
  row := accounts.row_add (.applied number state)
  covered held _ := List.mem_append_left _ (accounts.covered held present)
  effects := accounts.effects_add fun _ _ effect => by
    cases effect
    exact arrived
  waits := accounts.waits

theorem hold {number : Nat} (newer : bound ≤ number) {update : HeldUpdate}
    (arrived : brought number (update.state.withId id)) (missing : ¬track.row.isSome = true) :
    ({ ledger with held := number } : Ledger).Accounts brought id (number + 1)
      { track with held := some update } where
  sound := accounts.sound.hold newer
  row := accounts.row
  covered _ present := absurd present missing
  effects := accounts.effects
  waits other held := by
    cases held
    exact arrived

/-- The held update takes effect on the row of a spawn. -/
theorem flush {update : HeldUpdate} (held : track.held = some update)
    (row : Option AvatarState) :
    ((ledger.add (.made row)).add (.flushed ledger.held (update.state.withId id))).Accounts
      brought id bound { row := some (update.state.withId id) } where
  sound := (accounts.sound.add_made row).add_flushed (by rw [held]; rfl) _
  row := by
    simp only [Ledger.add]
    rw [List.foldl_append]
    rfl
  covered := nofun
  effects := by
    intro event among number state effect
    rcases mem_add among with earlier | rfl
    · exact accounts.effects_add (fun _ _ absent => by cases absent) event earlier number state
        effect
    · cases effect
      exact accounts.waits update held
  waits := nofun

/-- A local write is no update and takes no number. -/
theorem write (owned : Bool) (tick number : Nat) (state : AvatarState) :
    (ledger.enter id owned number (.write state) track).Accounts brought id bound
      (track.after id owned tick (.write state)) := by
  unfold Ledger.enter
  by_cases hidden : (track.row.isNone && track.held.isSome) = true
  · rw [if_pos hidden]
    have held := (Bool.and_eq_true_iff.1 hidden).2
    exact (accounts.cover held).make _ fun _ => List.mem_append_right _ List.mem_cons_self
  · rw [if_neg hidden]
    apply accounts.make
    intro held
    apply accounts.covered held
    simpa [held, Option.isSome_iff_ne_none] using hidden

/-- Whatever is entered next, the ledger accounts for the track it leads to. -/
theorem enter (owned : Bool) (tick : Nat) {number : Nat} (newer : bound ≤ number) (deed : Deed)
    (arrived : ∀ state, deed = .update state → brought number (state.withId id)) :
    (ledger.enter id owned number deed track).Accounts brought id (number + 1)
      (track.after id owned tick deed) := by
  have le : bound ≤ number + 1 := Nat.le_succ_of_le newer
  cases deed with
  | spawn state =>
      unfold Ledger.enter Track.after Track.spawned
      dsimp only
      split
      · cases held : track.held with
        | none => exact (accounts.release.make _ nofun).mono le
        | some update =>
            dsimp only
            split
            · exact (accounts.flush held _).mono le
            · exact (accounts.release.make _ nofun).mono le
      · exact accounts.mono le
  | despawn => exact (accounts.release.make none nofun).mono le
  | update state =>
      unfold Ledger.enter Track.after
      dsimp only
      split
      · split
        · rename_i present
          exact accounts.apply newer (arrived state rfl) present
        · rename_i missing
          exact accounts.hold newer (arrived state rfl) missing
      · exact accounts.mono le
  | write state => exact (accounts.write owned tick number state).mono le

end Steps

/-- What a frame carries out is entered deed by deed, in the order of arrival. -/
theorem carry (accounts : ledger.Accounts brought id bound track) (owned : Bool) (tick : Nat)
    {deeds : List (Nat × Deed)} {ceiling : Nat} (le : bound ≤ ceiling)
    (newer : ∀ entry ∈ deeds, bound ≤ entry.1 ∧ entry.1 < ceiling)
    (rising : deeds.Pairwise fun earlier later => earlier.1 < later.1)
    (arrived : ∀ entry ∈ deeds, ∀ state, entry.2 = .update state →
      brought entry.1 (state.withId id)) :
    (ledger.carry id owned tick deeds track).Accounts brought id ceiling
      (track.course id owned tick (deeds.map Prod.snd)) := by
  induction deeds generalizing bound track ledger with
  | nil => exact accounts.mono le
  | cons entry rest ih =>
      obtain ⟨number, deed⟩ := entry
      obtain ⟨first, later⟩ := List.pairwise_cons.1 rising
      have here := newer (number, deed) List.mem_cons_self
      have entered := accounts.enter owned tick here.1 deed (arrived _ List.mem_cons_self)
      apply ih entered here.2 _ later
      · intro other among
        exact arrived other (List.mem_cons_of_mem _ among)
      · intro other among
        exact ⟨first other among, (newer other (List.mem_cons_of_mem _ among)).2⟩

end Ledger.Accounts

/-- Only a local write covers a held update. -/
theorem Ledger.covered_enter {id : EntityId} {owned : Bool} {number covered : Nat} {deed : Deed}
    {track : Track} {ledger : Ledger}
    (among : .covered covered ∈ (ledger.enter id owned number deed track).events) :
    .covered covered ∈ ledger.events ∨ ∃ state, deed = .write state := by
  cases deed with
  | write state => exact Or.inr ⟨state, rfl⟩
  | despawn => simpa [Ledger.enter, Ledger.add] using among
  | update state =>
      left
      unfold Ledger.enter at among
      dsimp only at among
      split at among
      · split at among
        · simpa [Ledger.add] using among
        · exact among
      · exact among
  | spawn state =>
      left
      unfold Ledger.enter at among
      dsimp only at among
      split at among
      · split at among
        · split at among
          · simpa [Ledger.add] using among
          · simpa [Ledger.add] using among
        · simpa [Ledger.add] using among
      · exact among

theorem Ledger.covered_carry {id : EntityId} {owned : Bool} {tick covered : Nat}
    {deeds : List (Nat × Deed)} {track : Track} {ledger : Ledger}
    (among : .covered covered ∈ (ledger.carry id owned tick deeds track).events) :
    .covered covered ∈ ledger.events ∨ ∃ entry ∈ deeds, ∃ state, entry.2 = .write state := by
  induction deeds generalizing track ledger with
  | nil => exact Or.inl among
  | cons entry rest ih =>
      rcases ih among with entered | ⟨other, later, writes⟩
      · rcases Ledger.covered_enter entered with earlier | writes
        · exact Or.inl earlier
        · exact Or.inr ⟨entry, List.mem_cons_self, writes⟩
      · exact Or.inr ⟨other, List.mem_cons_of_mem entry later, writes⟩

/-! ### Records along a run -/

/-- What the numbered jobs do is what the jobs do. -/
theorem map_snd_numberedDeeds (id : EntityId) (queue : List (Schedule.Task (Nat × Work))) :
    (numberedDeeds id queue).map Prod.snd =
      deedsOn id (queue.map (Schedule.Task.map Prod.snd)) := by
  simp only [numberedDeeds, deedsOn]
  simp [List.map_filterMap, List.filterMap_map, Function.comp_def]

theorem exists_of_mem_numberedDeeds {id : EntityId} {queue : List (Schedule.Task (Nat × Work))}
    {entry : Nat × Deed} (among : entry ∈ numberedDeeds id queue) :
    ∃ task ∈ queue, task.work.1 = entry.1 ∧
      Job.deedOn? id (task.map Prod.snd) = some entry.2 := by
  obtain ⟨task, waits, about⟩ := List.mem_filterMap.1 among
  obtain ⟨deed, does, rfl⟩ := Option.map_eq_some_iff.1 about
  exact ⟨task, waits, rfl, does⟩

theorem numberedDeeds_rising {id : EntityId} {queue : List (Schedule.Task (Nat × Work))}
    (rising : queue.Pairwise fun earlier later => earlier.work.1 < later.work.1) :
    (numberedDeeds id queue).Pairwise fun earlier later => earlier.1 < later.1 := by
  refine rising.filterMap _ fun first second before entry about other about' => ?_
  obtain ⟨deed, _, rfl⟩ := Option.map_eq_some_iff.1 about
  obtain ⟨deed', _, rfl⟩ := Option.map_eq_some_iff.1 about'
  exact before

theorem Record.Brought.append {id : EntityId} {posts : List (Option Job)} {number : Nat}
    {state : AvatarState} (arrived : Record.Brought id posts number state)
    (later : List (Option Job)) : Record.Brought id (posts ++ later) number state := by
  obtain ⟨job, posted, about⟩ := arrived
  have within := (List.getElem?_eq_some_iff.1 posted).1
  exact ⟨job, by rw [List.getElem?_append_left within, posted], about⟩

namespace Session

variable {H : Type}

/-- A record that mirrors the queue of a session and accounts for the track of an entity. -/
structure Audits (id : EntityId) (session : Session (Recorded H)) (record : Record) : Prop where
  holds : session.Holds (record.queue.map Prod.snd)
  numbered : ∀ task ∈ record.queue.queue,
    record.posts[task.work.1]? = some (some (task.map Prod.snd))
  rising : record.queue.queue.Pairwise fun earlier later => earlier.work.1 < later.work.1
  accounts : ∃ bound ≤ record.posts.length, (∀ task ∈ record.queue.queue, bound ≤ task.work.1) ∧
    record.ledger.Accounts (Record.Brought id record.posts) id bound (session.world.track id)

/-- Inputs that run no frame are entered if they are local writes of the entity. -/
theorem accounts_step [ReflectionHost H] {id : EntityId} {session : Session (Recorded H)}
    {record : Record} {bound : Nat} {input : Input H}
    (notFrame : ∀ caller number, input ≠ .runFrame caller number)
    (accounts : record.ledger.Accounts (Record.Brought id record.posts) id bound
      (session.world.track id)) :
    (record.step id session input).ledger.Accounts (Record.Brought id record.posts) id bound
      ((session.step input).world.track id) := by
  rw [track_step session notFrame]
  cases input with
  | sendLocal caller state =>
      cases caller with
      | elsewhere => exact accounts
      | gameThread =>
          unfold Record.step
          dsimp only
          split
          · exact accounts.write true 0 record.posts.length (state.withId id)
          · exact accounts
  | runFrame caller number => exact absurd rfl (notFrame caller number)
  | _ => exact accounts

namespace Audits

variable {id : EntityId} {session : Session (Recorded H)} {record : Record}

theorem begin (id : EntityId) (host : CountedHost H) (report : Report) (settings : Settings) :
    (begin host report settings).Audits id
      { queue := Scheduler.ofSoftCap settings.scheduler.softCap } where
  holds := .begin host report settings
  numbered _ waits := absurd waits List.not_mem_nil
  rising := .nil
  accounts := ⟨0, Nat.le_refl 0, fun _ waits => absurd waits List.not_mem_nil, .empty _ id 0⟩

section Steps

variable (audits : session.Audits id record)

include audits

theorem number_lt {task : Schedule.Task (Nat × Work)} (waits : task ∈ record.queue.queue) :
    task.work.1 < record.posts.length :=
  (List.getElem?_eq_some_iff.1 (audits.numbered task waits)).1

/-- What waits after an input waited before, or has the number of the input. -/
theorem mem_queue_step {input : Input H} {task : Schedule.Task (Nat × Work)}
    (waits : task ∈ (record.step id session input).queue.queue) :
    task ∈ record.queue.queue ∨ ∃ job, session.posted? input = some job ∧
      task = job.map (record.posts.length, ·) := by
  have accepting : record.queue.shuttingDown = false := audits.holds.accepting
  rcases Input.mem_reschedule accepting waits with earlier | posted
  · exact Or.inl earlier
  · obtain ⟨job, posts, rfl⟩ := Option.map_eq_some_iff.1 posted
    exact Or.inr ⟨job, posts, rfl⟩

theorem numbered_step (input : Input H) :
    ∀ task ∈ (record.step id session input).queue.queue,
      (record.step id session input).posts[task.work.1]? = some (some (task.map Prod.snd)) := by
  intro task waits
  change (record.posts ++ [session.posted? input])[task.work.1]? = _
  rcases audits.mem_queue_step waits with earlier | ⟨job, posts, rfl⟩
  · rw [List.getElem?_append_left (audits.number_lt earlier)]
    exact audits.numbered task earlier
  · rw [posts]
    exact List.getElem?_concat_length

theorem rising_step (input : Input H) :
    (record.step id session input).queue.queue.Pairwise
      fun earlier later => earlier.work.1 < later.work.1 := by
  change (input.reschedule _ record.queue).queue.Pairwise _
  simp only [Input.reschedule]
  split
  · exact .nil
  · cases session.posted? input with
    | none => exact audits.rising
    | some job =>
        have accepting : record.queue.shuttingDown = false := audits.holds.accepting
        refine List.Pairwise.sublist (Scheduler.queue_post_sublist accepting _) ?_
        refine List.pairwise_append.2 ⟨audits.rising, List.pairwise_singleton _ _, ?_⟩
        intro task waits last among
        rw [List.mem_singleton.1 among]
        exact audits.number_lt waits

theorem holds_step [ReflectionHost H] (input : Input H) :
    (session.step input).Holds ((record.step id session input).queue.map Prod.snd) := by
  have mirrored := Input.reschedule_map Prod.snd input
    ((session.posted? input).map (Schedule.Task.map (record.posts.length, ·))) record.queue
  have same : ((session.posted? input).map
      (Schedule.Task.map (record.posts.length, ·))).map (Schedule.Task.map Prod.snd) =
      session.posted? input := by
    cases session.posted? input <;> rfl
  rw [same] at mirrored
  have held := audits.holds.step input
  rw [mirrored] at held
  exact held

/-- What a frame carries out. -/
theorem carry [ReflectionHost H] :
    (record.ledger.carry id (session.world.owns id) session.world.channel.tick
      (numberedDeeds id record.queue.queue) (session.world.track id)).Accounts
        (Record.Brought id record.posts) id record.posts.length
        ((session.world.performAll (record.queue.map Prod.snd).queue).track id) := by
  obtain ⟨bound, le, newer, accounts⟩ := audits.accounts
  rw [World.track_performAll audits.holds.posted]
  have same : deedsOn id (record.queue.map Prod.snd).queue =
      (numberedDeeds id record.queue.queue).map Prod.snd := (map_snd_numberedDeeds id _).symm
  rw [same]
  apply accounts.carry _ _ le
  · intro entry among
    obtain ⟨task, waits, number, _⟩ := exists_of_mem_numberedDeeds among
    rw [← number]
    exact ⟨newer task waits, audits.number_lt waits⟩
  · exact numberedDeeds_rising audits.rising
  · intro entry among state does
    obtain ⟨task, waits, number, about⟩ := exists_of_mem_numberedDeeds among
    have claimed := Job.deed?_of_deedOn? about
    rw [does] at claimed
    refine ⟨task.map Prod.snd, ?_, ?_⟩
    · rw [← number]
      exact audits.numbered task waits
    · rw [claimed, AvatarState.withId_self (Job.id_of_update claimed)]

/-- The record is right about the session after every input. -/
theorem step [ReflectionHost H] (input : Input H) :
    (session.step input).Audits id (record.step id session input) where
  holds := audits.holds_step input
  numbered := audits.numbered_step input
  rising := audits.rising_step input
  accounts := by
    have still : ∀ number state, Record.Brought id record.posts number state →
        Record.Brought id (record.step id session input).posts number state :=
      fun number state arrived => arrived.append _
    have longer : record.posts.length ≤ (record.step id session input).posts.length := by
      change _ ≤ (record.posts ++ [_]).length
      rw [List.length_append]
      exact Nat.le_add_right _ _
    by_cases frames : ∃ caller number, input = .runFrame caller number
    · obtain ⟨caller, number, rfl⟩ := frames
      cases caller with
      | elsewhere =>
          obtain ⟨bound, le, newer, accounts⟩ := audits.accounts
          have ticked := view_runFrame_elsewhere session number
          have track := (congrArg (View.track · id) ticked).trans (View.track_aged _ id)
          refine ⟨bound, Nat.le_trans le longer, newer, ?_⟩
          rw [show (session.step (.runFrame .elsewhere number)).world.track id = _ from track]
          exact (accounts.aged _ _).mono_brought still
      | gameThread =>
          have carried := audits.carry
          refine ⟨record.posts.length, longer, fun _ waits => absurd waits List.not_mem_nil, ?_⟩
          rcases audits.holds.runFrame_cases number with ⟨_, tracks⟩ | ⟨_, tracks⟩
          · rw [tracks id]
            exact carried.mono_brought still
          · rw [tracks id]
            exact (carried.aged _ _).mono_brought still
    · obtain ⟨bound, le, newer, accounts⟩ := audits.accounts
      have notFrame : ∀ caller number, input ≠ .runFrame caller number :=
        fun caller number same => frames ⟨caller, number, same⟩
      refine ⟨bound, Nat.le_trans le longer, ?_,
        (accounts_step notFrame accounts).mono_brought still⟩
      intro task waits
      rcases audits.mem_queue_step waits with earlier | ⟨job, _, rfl⟩
      · exact newer task earlier
      · exact le

theorem run [ReflectionHost H] (inputs : List (Input H)) :
    (session.run inputs).Audits id (record.run id session inputs) := by
  induction inputs generalizing session record with
  | nil => exact audits
  | cons input rest ih => exact ih (audits.step input)

end Steps

end Audits

/-- The entity never was the local player's. -/
structure Foreign (id : EntityId) (session : Session (Recorded H)) (record : Record) : Prop where
  foreign : session.world.replica.localEntity ≠ some id
  remote : ∀ task ∈ record.queue.queue, ∀ state,
    Job.deedOn? id (task.map Prod.snd) ≠ some (.write state)
  bare : ∀ number, .covered number ∉ record.ledger.events

theorem Foreign.step [ReflectionHost H] {id : EntityId} {session : Session (Recorded H)}
    {record : Record} (audits : session.Audits id record) (foreign : session.Foreign id record)
    {input : Input H} (keeps : input ≠ .setLocalEntity id) :
    (session.step input).Foreign id (record.step id session input) where
  foreign := audits.holds.localEntity_ne_step foreign.foreign keeps
  remote := by
    intro task waits state writes
    rcases audits.mem_queue_step waits with earlier | ⟨job, posts, rfl⟩
    · exact foreign.remote task earlier state writes
    · exact foreign.foreign (localEntity_of_posted? posts (Job.deed?_of_deedOn? writes))
  bare := by
    intro number among
    cases input with
    | runFrame caller frame =>
        cases caller with
        | elsewhere => exact foreign.bare number among
        | gameThread =>
            rcases Ledger.covered_carry among with earlier | ⟨entry, waits, state, writes⟩
            · exact foreign.bare number earlier
            · obtain ⟨task, queued, _, about⟩ := exists_of_mem_numberedDeeds waits
              exact foreign.remote task queued state (writes ▸ about)
    | sendLocal caller state =>
        cases caller with
        | elsewhere => exact foreign.bare number among
        | gameThread =>
            unfold Record.step at among
            dsimp only at among
            split at among
            · rename_i written
              exact foreign.foreign (localWrite?_eq_some_iff.1 written).2.2
            · exact foreign.bare number among
    | _ => exact foreign.bare number among

theorem Foreign.run [ReflectionHost H] {id : EntityId} {session : Session (Recorded H)}
    {record : Record} (audits : session.Audits id record) (foreign : session.Foreign id record)
    {inputs : List (Input H)} (never : .setLocalEntity id ∉ inputs) :
    (session.run inputs).Foreign id (record.run id session inputs) := by
  induction inputs generalizing session record with
  | nil => exact foreign
  | cons input rest ih =>
      have keeps : input ≠ .setLocalEntity id := fun same => never (same ▸ List.mem_cons_self)
      exact ih (audits.step input) (foreign.step audits keeps) fun later =>
        never (List.mem_cons_of_mem input later)

/-- The updates of an entity take effect on its row in the order of their arrival unless a
local write made the row over a held update, another update was applied to it, and a spawn
then applied the held one: in that case, and in no other, the older state replaces the newer
one, and never for an entity that was not the local player's at any time.  The events tell
where the row comes from, and every update among them is what the input of its number
brought. -/
theorem arrivalOrder_iff [ReflectionHost H] (id : EntityId) (host : CountedHost H)
    (report : Report) (settings : Settings) (inputs : List (Input H)) :
    let start : Session (Recorded H) := begin host report settings
    let after := start.run inputs
    let record := Record.run id start
      { queue := Scheduler.ofSoftCap settings.scheduler.softCap } inputs
    let events := record.ledger.events
    (OrderKept events ↔ ¬Reversed events) ∧
      (.setLocalEntity id ∉ inputs → OrderKept events) ∧
      after.world.replica.rows.get? id = events.foldl RowEvent.rowAfter none ∧
      (∀ event ∈ events, ∀ number state, event.effect? = some (number, state) →
        Record.Brought id record.posts number state) ∧
      after.scheduler = record.queue.map fun numbered => Schedule.Script.once numbered.2 := by
  intro start after record events
  have first := Audits.begin id host report settings
  have audits : after.Audits id record := first.run inputs
  obtain ⟨bound, _, _, accounts⟩ := audits.accounts
  refine ⟨accounts.sound.orderKept_iff, ?_, accounts.row, accounts.effects, ?_⟩
  · intro never
    have foreign : start.Foreign id
        { queue := Scheduler.ofSoftCap settings.scheduler.softCap } := by
      constructor
      · exact (Option.some_ne_none id).symm
      · exact fun _ waits => absurd waits List.not_mem_nil
      · exact fun _ => List.not_mem_nil
    have bare := (Foreign.run first foreign never).bare
    refine accounts.sound.orderKept_iff.2 ?_
    rintro ⟨number, later, state, early, within⟩
    exact bare number (within.subset List.mem_cons_self)
  · rw [audits.holds.queued]
    simp [Scheduler.map, Schedule.Task.map]

/-- An update waits for its spawn while the local player writes the row and leaves it to the
server again; a second update is applied, and then the spawn brings the first one back. -/
theorem arrivalOrder_reversed :
    let settings : Settings := {}
    let start : Session (Recorded (Loaded TableStore)) :=
      begin { store := { table := {} } } {} settings
    let state (input : UInt32) : AvatarState := { AvatarState.resting 7 with input }
    let frame (message : Message) : Input (Loaded TableStore) :=
      .receive 0 (message.encode.toOption.getD [])
    let updated := [frame (.humanUpdate (state 1)), .runFrame .gameThread 1, .setLocalEntity 7,
      .sendLocal .gameThread (state 9), .setLocalEntity 8, frame (.humanUpdate (state 2)),
      .runFrame .gameThread 2]
    let spawned := updated ++ [frame (.humanSpawn (state 3)), .runFrame .gameThread 3]
    (start.run updated).world.replica.rows.get? 7 = some (state 2) ∧
      (start.run spawned).world.replica.rows.get? 7 = some (state 1) ∧
      ¬OrderKept (Record.run 7 start { queue := .ofSoftCap settings.scheduler.softCap }
        spawned).ledger.events := by
  decide +kernel

end Session

end ReplicaBridge
