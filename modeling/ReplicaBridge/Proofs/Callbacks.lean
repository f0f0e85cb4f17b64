/-
Module: ReplicaBridge.Proofs.Callbacks
Purpose: What calling the listeners back does to a world besides what they hear.  A listener may
  answer a chat line through the session; without such an answer a round of listeners, whether
  or not it unwinds, changes nothing but the listeners themselves, the events and the journal.
Main exports: Listeners.Silent, World.Rings, World.rings_fire, World.silent_fire
-/
import ReplicaBridge.Proofs.Hearing

namespace ReplicaBridge

/-- The reaction calls back into the session. -/
def Reaction.answers : Reaction → Bool
  | .reply _ => true
  | .record _ | .forward => false

/-! ### Listeners that do not answer -/

namespace Listeners

/-- No listener calls back into the session. -/
def Silent (listeners : Listeners) : Prop :=
  ∀ slot ∈ listeners.slots, ∀ listener, slot.listener = some listener →
    listener.reaction.answers = false

theorem silent_empty : Silent {} :=
  nofun

namespace Silent

variable {listeners : Listeners} (silent : listeners.Silent)

include silent

theorem set {slot : ListenerSlot} (index : Nat) (free : List Nat)
    (calm : ∀ listener, slot.listener = some listener → listener.reaction.answers = false) :
    Silent { slots := listeners.slots.set index slot, free } := by
  intro other among
  rcases List.mem_or_eq_of_mem_set among with before | rfl
  · exact silent other before
  · exact calm

theorem add {listener : Listener} (calm : listener.reaction.answers = false) :
    (listeners.add listener).1.Silent := by
  have own : ∀ other, some listener = some other → other.reaction.answers = false := by
    rintro other ⟨⟩
    exact calm
  unfold Listeners.add
  split
  · exact silent.set _ _ own
  · intro slot among
    rcases List.mem_append.mp among with before | last
    · exact silent slot before
    · rw [List.mem_singleton.mp last]
      exact own

theorem vacate (index : Nat) : (listeners.vacate index).Silent :=
  silent.set index _ nofun

theorem remove (key : ListenerKey) : (listeners.remove key).1.Silent := by
  unfold Listeners.remove
  split
  · exact silent.vacate key.index
  · exact silent

omit silent in
theorem foldl_vacate (indices : List Nat) {listeners : Listeners} (silent : listeners.Silent) :
    (indices.foldl Listeners.vacate listeners).Silent := by
  induction indices generalizing listeners with
  | nil => exact silent
  | cons index rest ih => exact ih (silent.vacate index)

theorem clear : listeners.clear.Silent :=
  foldl_vacate listeners.occupied silent

theorem hearing {kind : SignalKind} {index : Nat} {listener : Listener}
    (heard : listeners.hearing? kind index = some listener) :
    listener.reaction.answers = false := by
  have registered := (Option.filter_eq_some_iff.mp heard).1
  rw [List.getD_eq_getElem?_getD] at registered
  cases found : listeners.slots[index]? with
  | none =>
      rw [found] at registered
      cases registered
  | some slot =>
      rw [found] at registered
      exact silent slot (List.mem_of_getElem? found) listener registered

theorem countCall {kind : SignalKind} {index : Nat} {listener : Listener}
    (heard : listeners.hearing? kind index = some listener) :
    (listeners.countCall index listener).Silent := by
  refine silent.set index _ ?_
  have calm := silent.hearing heard
  rintro other ⟨⟩
  exact calm

end Silent

end Listeners

/-! ### No listeners -/

namespace Listeners

theorem mem_occupied {listeners : Listeners} {index : Nat} :
    index ∈ listeners.occupied ↔ (listeners.slots.getD index {}).listener.isSome = true := by
  rw [occupied, List.mem_filter, List.mem_range, and_iff_right_iff_imp]
  intro taken
  rcases Nat.lt_or_ge index listeners.slots.length with inside | outside
  · exact inside
  · rw [List.getD_eq_getElem?_getD, List.getElem?_eq_none outside] at taken
    cases taken

/-- No slot is occupied exactly if there is no listener in any. -/
theorem occupied_eq_nil_iff {listeners : Listeners} : listeners.occupied = [] ↔
    ∀ index, (listeners.slots.getD index {}).listener = none := by
  simp only [List.eq_nil_iff_forall_not_mem, mem_occupied, Option.not_isSome_iff_eq_none]

theorem listener_vacate (listeners : Listeners) (index other : Nat) :
    ((listeners.vacate index).slots.getD other {}).listener =
      if other = index then none else (listeners.slots.getD other {}).listener := by
  simp only [vacate, List.getD_eq_getElem?_getD, List.getElem?_set]
  split
  · rename_i same
    rw [if_pos same.symm]
    split <;> rfl
  · rename_i different
    rw [if_neg (Ne.symm different)]

theorem listener_foldl_vacate (indices : List Nat) (listeners : Listeners) {index : Nat}
    (gone : index ∈ indices ∨ (listeners.slots.getD index {}).listener = none) :
    ((indices.foldl vacate listeners).slots.getD index {}).listener = none := by
  induction indices generalizing listeners with
  | nil => exact gone.resolve_left nofun
  | cons first rest ih =>
      refine ih _ ?_
      rw [listener_vacate]
      by_cases same : index = first
      · exact .inr (if_pos same)
      · rw [if_neg same]
        exact gone.imp_left fun among => (List.mem_cons.mp among).resolve_left same

theorem occupied_clear (listeners : Listeners) : listeners.clear.occupied = [] := by
  refine occupied_eq_nil_iff.mpr fun index => listener_foldl_vacate _ _ ?_
  rw [mem_occupied]
  cases (listeners.slots.getD index {}).listener with
  | none => exact .inr rfl
  | some listener => exact .inl rfl

/-- Nobody hears a signal. -/
theorem fireEach_of_occupied_nil {σ : Type} {listeners : Listeners}
    (free : listeners.occupied = []) (signal : Signal) (react : Reaction → σ → σ)
    (indices : List Nat) (world : σ) :
    fireEach signal react indices listeners world = ((listeners, world), false) := by
  induction indices with
  | nil => rfl
  | cons index rest ih =>
      have unheard : listeners.hearing? signal.kind index = none := by
        unfold hearing?
        rw [occupied_eq_nil_iff.mp free index]
        rfl
      simp only [fireEach, unheard]
      exact ih

end Listeners

/-! ### A round of listeners -/

namespace World

variable {H : Type}

/-- Nothing changed but the listeners, the events and the journal. -/
def Rings (before after : World H) : Prop :=
  ∃ notices listeners events,
    after = { before with bridge := before.bridge.noteAll notices, listeners, events }

/-- A reaction that does not answer only adds to the events, and so does any reaction to a
signal that is no chat line. -/
theorem react_eq {signal : Signal} {reaction : Reaction}
    (calm : signal.kind ≠ .chat ∨ reaction.answers = false) (world : World H) :
    ∃ events, react signal reaction world = { world with events } := by
  cases reaction with
  | record label => exact ⟨_, rfl⟩
  | forward => cases signal <;> exact ⟨_, rfl⟩
  | reply opening =>
      cases signal with
      | chat text =>
          rcases calm with other | silent
          · exact absurd rfl other
          · cases silent
      | frame number => exact ⟨_, rfl⟩
      | spawned id => exact ⟨_, rfl⟩
      | despawned id => exact ⟨_, rfl⟩

theorem fireEach_eq {signal : Signal} {listeners : Listeners}
    (calm : signal.kind ≠ .chat ∨ listeners.Silent) (indices : List Nat) (world : World H) :
    ∃ events, (Listeners.fireEach signal (react signal) indices listeners world).1.2 =
      { world with events } := by
  induction indices generalizing listeners world with
  | nil => exact ⟨_, rfl⟩
  | cons index rest ih =>
      simp only [Listeners.fireEach]
      split
      · exact ih calm world
      · rename_i listener heard
        obtain ⟨events, reacted⟩ := react_eq (calm.imp_right (·.hearing heard)) world
        rw [reacted]
        split
        · exact ⟨events, rfl⟩
        · obtain ⟨later, fired⟩ := ih (calm.imp_right (·.countCall heard)) { world with events }
          exact ⟨later, fired⟩

theorem silent_fireEach {σ : Type} {listeners : Listeners} (silent : listeners.Silent)
    (signal : Signal) (react : Reaction → σ → σ) (indices : List Nat) (world : σ) :
    (Listeners.fireEach signal react indices listeners world).1.1.Silent := by
  induction indices generalizing listeners world with
  | nil => exact silent
  | cons index rest ih =>
      simp only [Listeners.fireEach]
      split
      · exact ih silent world
      · rename_i listener heard
        split
        · exact silent.countCall heard
        · exact ih (silent.countCall heard) _

/-- Whether or not a listener unwinds. -/
theorem rings_fire {world : World H} {signal : Signal}
    (calm : signal.kind ≠ .chat ∨ world.listeners.Silent) :
    world.Rings (world.fire signal).1 := by
  have announced : ∃ notices, (announcement? signal).elim world world.note =
      { world with bridge := world.bridge.noteAll notices } := by
    cases announcement? signal with
    | none => exact ⟨[], rfl⟩
    | some notice => exact ⟨[notice], rfl⟩
  obtain ⟨notices, noted⟩ := announced
  let announced : World H := { world with bridge := world.bridge.noteAll notices }
  let round := Listeners.fireEach signal (react signal)
    (List.range world.listeners.slots.length) world.listeners announced
  obtain ⟨events, fired⟩ : ∃ events, round.1.2 = { announced with events } :=
    fireEach_eq calm _ announced
  have ended : (world.fire signal).1 = { round.1.2 with listeners := round.1.1 } := by
    unfold fire
    rw [noted]
    rfl
  exact ⟨notices, round.1.1, events, by rw [ended, fired]⟩

theorem silent_fire {world : World H} (silent : world.listeners.Silent) (signal : Signal) :
    (world.fire signal).1.listeners.Silent := by
  have announced : ((announcement? signal).elim world world.note).listeners = world.listeners := by
    cases announcement? signal <;> rfl
  refine silent_fireEach ?_ signal _ _ _
  rw [announced]
  exact silent

/-! ### What a signal makes of the ears -/

/-- What a reaction adds to the events, if the signal is no chat line. -/
def heard (signal : Signal) : Reaction → List Event
  | .record label => [.heard label signal]
  | _ => []

theorem events_react {signal : Signal} (other : signal.kind ≠ .chat) (reaction : Reaction)
    (world : World H) :
    (react signal reaction world).events = world.events ++ heard signal reaction := by
  cases reaction with
  | record label => rfl
  | forward =>
      cases signal with
      | chat text => exact absurd rfl other
      | _ => exact (List.append_nil _).symm
  | reply opening =>
      cases signal with
      | chat text => exact absurd rfl other
      | _ => exact (List.append_nil _).symm

theorem ears_fireEach_congr {signal : Signal} (other : signal.kind ≠ .chat) (indices : List Nat)
    (listeners : Listeners) {left right : World H} (same : left.events = right.events) :
    (Listeners.fireEach signal (react signal) indices listeners left).1.1 =
        (Listeners.fireEach signal (react signal) indices listeners right).1.1 ∧
      (Listeners.fireEach signal (react signal) indices listeners left).1.2.events =
        (Listeners.fireEach signal (react signal) indices listeners right).1.2.events := by
  induction indices generalizing listeners left right with
  | nil => exact ⟨rfl, same⟩
  | cons index rest ih =>
      simp only [Listeners.fireEach]
      split
      · exact ih listeners same
      · rename_i listener heard
        have reacted : (react signal listener.reaction left).events =
            (react signal listener.reaction right).events := by
          rw [events_react other, events_react other, same]
        split
        · exact ⟨rfl, reacted⟩
        · exact ih _ reacted

/-- What the ears make of a signal that is no chat line depends on the ears alone. -/
theorem ears_fire_congr {signal : Signal} (other : signal.kind ≠ .chat) {left right : World H}
    (same : left.ears = right.ears) : (left.fire signal).1.ears = (right.fire signal).1.ears := by
  have announced (world : World H) :
      ((announcement? signal).elim world world.note).ears = world.ears := by
    cases announcement? signal <;> rfl
  have listeners : ((announcement? signal).elim left left.note).listeners =
      ((announcement? signal).elim right right.note).listeners :=
    congrArg Prod.fst ((announced left).trans (same.trans (announced right).symm))
  have events : ((announcement? signal).elim left left.note).events =
      ((announcement? signal).elim right right.note).events :=
    congrArg Prod.snd ((announced left).trans (same.trans (announced right).symm))
  unfold fire Listeners.fire ears
  dsimp only
  rw [listeners]
  obtain ⟨sameListeners, sameEvents⟩ := ears_fireEach_congr other
    (List.range ((announcement? signal).elim right right.note).listeners.slots.length)
    ((announcement? signal).elim right right.note).listeners events
  rw [sameListeners, sameEvents]

end World

end ReplicaBridge
