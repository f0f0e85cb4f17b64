/-
Module: ReplicaBridge.Proofs.CachedLookups
Purpose: What is kept of earlier lookups cannot be told from looking up afresh.  Names and
  functions are kept under different keys and at different steps of a lookup that may fail
  between them; as long as the store only grows, every answer is the one that the store gives
  at that moment.  Only what was found is kept, and what is kept is not walked for again.
Main exports: Bridge.Asks, Bridge.Faithful, Question, Turn, Bridge.turnAll, Bridge.Grows,
  Bridge.AnswersAfresh, Bridge.cached_lookups_fresh
-/
import ReplicaBridge.Proofs.Deliveries
import ReplicaBridge.Proofs.StoreGrowth

namespace ReplicaBridge

open Host (MemoryStore Object ReflectionHost TypeTag)
open Params (FunctionDescriptor ParamLayout)

@[simp] theorem Registry.object?_keepFunction (registry : Registry)
    (className method name : String) (descriptor : FunctionDescriptor) :
    (registry.keepFunction className method descriptor).object? name = registry.object? name := rfl

namespace Bridge

variable {H : Type}

/-! ### What looking up leaves alone -/

/-- The host was only asked: its store and the gate are as they were, and so is the handle of
every name that had one. -/
structure Asks (before after : Bridge H) : Prop where
  store : after.host.store = before.host.store
  gate : after.gate = before.gate
  kept : ∀ name object, before.registry.object? name = some object →
    after.registry.object? name = some object

theorem Asks.refl (bridge : Bridge H) : Asks bridge bridge :=
  ⟨rfl, rfl, fun _ _ => id⟩

theorem Asks.trans {before middle after : Bridge H} (first : Asks before middle)
    (second : Asks middle after) : Asks before after where
  store := second.store.trans first.store
  gate := second.gate.trans first.gate
  kept name object found := second.kept name object (first.kept name object found)

theorem Alike.asks {before after : Bridge H} (alike : before.Alike after) :
    Asks before after where
  store := congrArg (·.store) alike.host.symm
  gate := alike.gate.symm
  kept _ _ found := alike.registry ▸ found

variable [ReflectionHost H] (bridge : Bridge H)

/-- An entry of the kind leaves all as it is; for another kind only a report is made. -/
theorem checkTag_verifies (name : String) (object : Object) (expected : TypeTag) :
    Host.verify bridge.host.store name object expected = .ok () ∧
        bridge.checkTag name object expected = (bridge, .ok ()) ∨
      ∃ raised error, Host.verify bridge.host.store name object expected = .error error ∧
        bridge.checkTag name object expected = (raised, .error error) ∧ bridge.Alike raised := by
  unfold checkTag Host.verify
  dsimp only
  split
  · exact .inl ⟨rfl, rfl⟩
  · exact .inr ⟨_, _, rfl, rfl, ⟨rfl, rfl, rfl⟩⟩

theorem asks_lookup (name : String) : bridge.Asks (bridge.lookup name).1 := by
  unfold lookup
  cases absent : bridge.registry.object? name with
  | some object => exact .refl bridge
  | none =>
      dsimp only [Host.CountedHost.find]
      cases Host.findByName? bridge.host.store name with
      | none => exact ⟨rfl, rfl, fun _ _ => id⟩
      | some object =>
          refine ⟨rfl, rfl, fun other earlier found => ?_⟩
          refine (Registry.object?_keepObject bridge.registry.countScan name other object).trans ?_
          rw [if_neg]
          · exact found
          · rintro rfl
            cases absent.symm.trans found

theorem asks_lookupAs (name : String) (expected : TypeTag) :
    bridge.Asks (bridge.lookupAs name expected).1 := by
  have looked := asks_lookup bridge name
  simp only [lookupAs]
  rcases resolved : bridge.lookup name with ⟨found, answer⟩
  rw [resolved] at looked
  cases answer with
  | error error => exact looked
  | ok object =>
      dsimp only
      rcases checkTag_verifies found name object expected with
        ⟨-, fine⟩ | ⟨raised, error, -, refused, alike⟩
      · rw [fine]
        exact looked
      · rw [refused]
        exact looked.trans alike.asks

theorem asks_lookupFunction (className method : String) :
    bridge.Asks (bridge.lookupFunction className method).1 := by
  have looked := asks_lookupAs bridge className .classType
  simp only [lookupFunction, lookupClass]
  cases bridge.registry.function? className method with
  | some descriptor => exact .refl bridge
  | none =>
      rcases resolved : bridge.lookupAs className .classType with ⟨found, answer⟩
      rw [resolved] at looked
      cases answer with
      | error error => exact looked
      | ok owningClass =>
          dsimp only
          cases ReflectionHost.findFunction found.host.store owningClass method with
          | none => exact looked
          | some function =>
              dsimp only
              rcases checkTag_verifies found (className ++ "::" ++ method) function .function with
                ⟨-, fine⟩ | ⟨raised, error, -, refused, alike⟩
              · rw [fine]
                refine looked.trans ⟨?_, ?_, fun name object kept => ?_⟩
                · simp [note]
                · simp [note]
                · simpa [note] using kept
              · rw [refused]
                exact looked.trans alike.asks

theorem asks_instancesOf (className : String) :
    bridge.Asks (bridge.instancesOf className).1 := by
  have looked := asks_lookupAs bridge className .classType
  simp only [instancesOf, lookupClass]
  rcases resolved : bridge.lookupAs className .classType with ⟨found, answer⟩
  rw [resolved] at looked
  cases answer with
  | error error => exact looked
  | ok owner =>
      dsimp only
      split <;> exact looked

/-! ### What is kept is what would be found -/

/-- Every handle that is kept is what a walk would find, every function that is kept is what
would be resolved, and of its class a handle is kept. -/
structure Faithful : Prop where
  object : ∀ name object, bridge.registry.object? name = some object →
    Host.findByName? bridge.host.store name = some object
  function : ∀ className method descriptor,
    bridge.registry.function? className method = some descriptor →
      Host.resolveFunction bridge.host.store className method = .ok descriptor ∧
      bridge.registry.object? className = some descriptor.owningClass

/-- Nothing is kept: the registry is new, or it was just told that the store was rebuilt. -/
def KeepsNothing {H : Type} (bridge : Bridge H) : Prop :=
  bridge.registry.objects = [] ∧ bridge.registry.functions = []

omit [ReflectionHost H] in
theorem keepsNothing_registryChanged : bridge.registryChanged.KeepsNothing :=
  ⟨rfl, rfl⟩

/-- A function that was resolved is kept. -/
theorem function?_of_lookupFunction_ok (className method : String) :
    ∀ descriptor, (bridge.lookupFunction className method).2 = .ok descriptor →
      (bridge.lookupFunction className method).1.registry.function? className method =
        some descriptor := by
  simp only [lookupFunction]
  cases known : bridge.registry.function? className method with
  | some kept =>
      intro descriptor answered
      cases answered
      exact known
  | none =>
      rcases bridge.lookupClass className with ⟨found, outcome⟩
      cases outcome with
      | error error =>
          intro descriptor answered
          cases answered
      | ok owningClass =>
          dsimp only
          cases ReflectionHost.findFunction found.host.store owningClass method with
          | none =>
              intro descriptor answered
              cases answered
          | some function =>
              dsimp only
              rcases found.checkTag (className ++ "::" ++ method) function .function with
                ⟨checked, outcome⟩
              cases outcome with
              | error error =>
                  intro descriptor answered
                  cases answered
              | ok fine =>
                  intro descriptor answered
                  cases answered
                  exact (Registry.function?_keepFunction _ _ _ _ _ _).trans (if_pos rfl)

/-- A lookup about a name came to an answer, after which the name is kept exactly if a walk
through the store finds it. -/
structure Answers {α : Type} (store : H) (name : String) (answer : Except RegistryError α)
    (result : Bridge H × Except RegistryError α) : Prop where
  answer : result.2 = answer
  faithful : result.1.Faithful
  kept : result.1.registry.object? name = Host.findByName? store name

namespace Faithful

variable {bridge : Bridge H} (faithful : bridge.Faithful)

include faithful

theorem of_alike {after : Bridge H} (alike : bridge.Alike after) : after.Faithful := by
  obtain ⟨host, report, registry, gate⟩ := bridge
  obtain ⟨_, _, _, _⟩ := after
  obtain ⟨rfl, rfl, rfl⟩ := alike
  exact ⟨faithful.object, faithful.function⟩

omit faithful in
theorem of_keepsNothing {bridge : Bridge H} (nothing : bridge.KeepsNothing) : bridge.Faithful where
  object name object kept := by
    rw [Registry.object?, nothing.1] at kept
    cases kept
  function className method descriptor kept := by
    rw [Registry.function?, nothing.2] at kept
    cases kept

/-- What a store that grew gives is what is kept. -/
theorem of_grown {after : Bridge H} (registry : after.registry = bridge.registry)
    (grown : Host.Grown bridge.host.store after.host.store) : after.Faithful where
  object name object kept := grown.findByName? (faithful.object name object (registry ▸ kept))
  function className method descriptor kept := by
    obtain ⟨resolved, owner⟩ := faithful.function className method descriptor (registry ▸ kept)
    exact ⟨grown.resolveFunction resolved, registry ▸ owner⟩

theorem keepObject {after : Bridge H} {name : String} {object : Object}
    (store : after.host.store = bridge.host.store)
    (registry : after.registry = bridge.registry.countScan.keepObject name object)
    (found : Host.findByName? bridge.host.store name = some object) : after.Faithful := by
  have objects (other : String) : after.registry.object? other =
      if other = name then some object else bridge.registry.object? other := by
    rw [registry]
    exact Registry.object?_keepObject _ name other object
  have functions (className method : String) : after.registry.function? className method =
      bridge.registry.function? className method := by
    rw [registry]
    rfl
  constructor
  · intro other resolved kept
    rw [objects] at kept
    rw [store]
    split at kept
    · rename_i same
      exact same ▸ kept ▸ found
    · exact faithful.object other resolved kept
  · intro className method descriptor kept
    rw [functions] at kept
    obtain ⟨resolved, owner⟩ := faithful.function className method descriptor kept
    rw [store, objects]
    refine ⟨resolved, ?_⟩
    split
    · rename_i same
      exact found.symm.trans (same ▸ faithful.object className _ owner)
    · exact owner

theorem lookup (name : String) :
    Answers bridge.host.store name (Host.resolve bridge.host.store name) (bridge.lookup name) := by
  simp only [Bridge.lookup, Host.resolve]
  cases kept : bridge.registry.object? name with
  | some object =>
      rw [faithful.object name object kept]
      exact ⟨rfl, faithful, kept.trans (faithful.object name object kept).symm⟩
  | none =>
      dsimp only [Host.CountedHost.find]
      cases found : Host.findByName? bridge.host.store name with
      | none => exact ⟨rfl, ⟨faithful.object, faithful.function⟩, kept.trans found.symm⟩
      | some object =>
          refine ⟨rfl, faithful.keepObject rfl rfl found, ?_⟩
          have keeps := Registry.object?_keepObject bridge.registry.countScan name name object
          rw [if_pos rfl] at keeps
          exact keeps.trans found.symm

theorem lookupAs (name : String) (expected : TypeTag) :
    Answers bridge.host.store name (Host.resolveAs bridge.host.store name expected)
      (bridge.lookupAs name expected) := by
  obtain ⟨answer, after, kept⟩ := faithful.lookup name
  have store := (asks_lookup bridge name).store
  simp only [Bridge.lookupAs]
  rcases resolved : bridge.lookup name with ⟨found, outcome⟩
  rw [resolved] at answer after kept store
  dsimp only at answer after kept store
  rw [← store] at answer kept ⊢
  cases outcome with
  | error error => exact ⟨by rw [Host.resolveAs, ← answer]; rfl, after, kept⟩
  | ok object =>
      rw [Host.resolveAs_of_resolve answer.symm]
      dsimp only
      rcases checkTag_verifies found name object expected with
        ⟨verdict, fine⟩ | ⟨raised, error, verdict, refused, alike⟩
      · rw [verdict, fine]
        exact ⟨rfl, after, kept⟩
      · rw [verdict, refused]
        exact ⟨rfl, Faithful.of_alike after alike, alike.registry ▸ kept⟩

theorem keepFunction {after : Bridge H} {className method : String}
    {descriptor : FunctionDescriptor} (store : after.host.store = bridge.host.store)
    (registry : after.registry = bridge.registry.keepFunction className method descriptor)
    (resolved : Host.resolveFunction bridge.host.store className method = .ok descriptor)
    (owner : bridge.registry.object? className = some descriptor.owningClass) :
    after.Faithful := by
  have objects (name : String) : after.registry.object? name = bridge.registry.object? name := by
    rw [registry, Registry.object?_keepFunction]
  constructor
  · intro name object kept
    rw [store]
    exact faithful.object name object (objects name ▸ kept)
  · intro otherClass other descriptor kept
    rw [registry, Registry.function?_keepFunction] at kept
    rw [store, objects]
    split at kept
    · rename_i same
      cases same
      cases kept
      exact ⟨resolved, owner⟩
    · exact faithful.function otherClass other descriptor kept

theorem instancesOf (className : String) :
    Answers bridge.host.store className (Host.resolveInstances bridge.host.store className)
      (bridge.instancesOf className) := by
  obtain ⟨answer, after, kept⟩ := faithful.lookupAs className .classType
  have store := (asks_lookupAs bridge className .classType).store
  simp only [Bridge.instancesOf, Bridge.lookupClass, Host.resolveInstances]
  rcases resolved : bridge.lookupAs className .classType with ⟨found, outcome⟩
  rw [resolved] at answer after kept store
  dsimp only at answer after kept store
  rw [← store] at answer kept ⊢
  rw [← answer]
  cases outcome with
  | error error => exact ⟨rfl, after, kept⟩
  | ok owner =>
      simp only [bind, Except.bind]
      cases Host.instances found.host.store owner with
      | nil => exact ⟨rfl, after, kept⟩
      | cons first rest => exact ⟨rfl, after, kept⟩

theorem lookupFunction (className method : String) :
    Answers bridge.host.store className (Host.resolveFunction bridge.host.store className method)
      (bridge.lookupFunction className method) := by
  simp only [Bridge.lookupFunction, Bridge.lookupClass]
  cases known : bridge.registry.function? className method with
  | some descriptor =>
      obtain ⟨resolved, owner⟩ := faithful.function className method descriptor known
      exact ⟨resolved.symm, faithful, owner.trans (faithful.object className _ owner).symm⟩
  | none =>
      obtain ⟨answer, after, kept⟩ := faithful.lookupAs className .classType
      have store := (asks_lookupAs bridge className .classType).store
      rcases resolved : bridge.lookupAs className .classType with ⟨found, outcome⟩
      rw [resolved] at answer after kept store
      dsimp only at answer after kept store
      rw [← store] at answer kept ⊢
      cases outcome with
      | error error => exact ⟨by rw [Host.resolveFunction, ← answer]; rfl, after, kept⟩
      | ok owner =>
          have target := Host.resolveFunction_of_owner answer.symm method
          dsimp only
          cases sought : ReflectionHost.findFunction found.host.store owner method with
          | none =>
              rw [sought] at target
              exact ⟨target.symm, after, kept⟩
          | some function =>
              rw [sought] at target
              dsimp only at target ⊢
              rcases checkTag_verifies found (className ++ "::" ++ method) function .function with
                ⟨verdict, fine⟩ | ⟨raised, error, verdict, refused, alike⟩
              · rw [verdict] at target
                rw [fine]
                have handle : found.registry.object? className = some owner :=
                  kept.trans (Host.resolveAs_eq_ok_iff.mp answer.symm).1
                refine ⟨target.symm, Faithful.keepFunction after ?_ ?_ target handle, ?_⟩
                · simp [note]
                · simp [note]
                · simpa [note] using kept
              · rw [verdict] at target
                rw [refused]
                exact ⟨target.symm, Faithful.of_alike after alike, alike.registry ▸ kept⟩

/-- A function is kept exactly if it was resolved. -/
theorem function?_lookupFunction (className method : String) :
    (bridge.lookupFunction className method).1.registry.function? className method =
      (Host.resolveFunction bridge.host.store className method).toOption := by
  obtain ⟨answer, after, -⟩ := faithful.lookupFunction className method
  have store := (asks_lookupFunction bridge className method).store
  rw [← answer]
  cases resolved : (bridge.lookupFunction className method).2 with
  | ok descriptor => exact function?_of_lookupFunction_ok bridge className method _ resolved
  | error error =>
      let settled := (bridge.lookupFunction className method).1
      cases kept : settled.registry.function? className method with
      | none => rfl
      | some descriptor =>
          have fresh := (after.function className method descriptor kept).1
          rw [store, ← answer, resolved] at fresh
          cases fresh

end Faithful

/-! ### Names that are kept -/

/-- The walks through the store that were counted, and the names that they asked for. -/
def walks {H : Type} (bridge : Bridge H) : Nat × Nat :=
  (bridge.registry.scans, bridge.host.nameQueries)

section Kept

variable {bridge : Bridge H} {name : String} {object : Object}
  (kept : bridge.registry.object? name = some object)

include kept

/-- A name that is kept is answered at once. -/
theorem lookup_of_kept : bridge.lookup name = (bridge, .ok object) := by
  rw [lookup, kept]

omit [ReflectionHost H] kept in
theorem Alike.walks {after : Bridge H} (alike : bridge.Alike after) :
    after.walks = bridge.walks := by
  simp only [Bridge.walks, alike.host, alike.registry]

theorem walks_lookupAs_of_kept (expected : TypeTag) :
    (bridge.lookupAs name expected).1.walks = bridge.walks := by
  simp only [lookupAs, lookup_of_kept kept]
  rcases checkTag_verifies bridge name object expected with
    ⟨-, fine⟩ | ⟨raised, error, -, refused, alike⟩
  · rw [fine]
  · rw [refused]
    exact alike.walks

theorem walks_instancesOf_of_kept : (bridge.instancesOf name).1.walks = bridge.walks := by
  have looked := walks_lookupAs_of_kept kept .classType
  simp only [instancesOf, lookupClass]
  split <;> (rename_i resolved; rw [resolved] at looked)
  · exact looked
  · split <;> exact looked

theorem walks_lookupFunction_of_kept (method : String) :
    (bridge.lookupFunction name method).1.walks = bridge.walks := by
  have looked := walks_lookupAs_of_kept kept .classType
  simp only [lookupFunction, lookupClass]
  cases bridge.registry.function? name method with
  | some descriptor => rfl
  | none =>
      dsimp only
      split <;> (rename_i resolved; rw [resolved] at looked)
      · exact looked
      · rename_i found owningClass
        split
        · exact looked
        · rename_i function _
          rcases checkTag_verifies found (name ++ "::" ++ method) function .function with
            ⟨-, fine⟩ | ⟨raised, error, -, refused, alike⟩
          · rw [fine]
            simpa [walks, note, Registry.keepFunction] using looked
          · rw [refused]
            exact alike.walks.trans looked

end Kept

end Bridge

/-! ### Questions about names -/

/-- What can be asked about a name. -/
inductive Question where
  | lookup (name : String)
  | lookupAs (name : String) (expected : TypeTag)
  | lookupFunction (className method : String)
  | instancesOf (className : String)

/-- The name that is asked about. -/
def Question.subject : Question → String
  | .lookup name | .lookupAs name _ | .lookupFunction name _ | .instancesOf name => name

/-- What may happen between a host and the way into it. -/
inductive Turn (H : Type) where
  | ask (question : Question)
  /-- The host signalled that it rebuilt its store. -/
  | registryChanged
  /-- The host's objects are others from here on. -/
  | hostChanges (store : H)

namespace Bridge

variable {H : Type} [ReflectionHost H]

/-- What a question leaves. -/
def ask (bridge : Bridge H) : Question → Bridge H
  | .lookup name => (bridge.lookup name).1
  | .lookupAs name expected => (bridge.lookupAs name expected).1
  | .lookupFunction className method => (bridge.lookupFunction className method).1
  | .instancesOf className => (bridge.instancesOf className).1

def turn (bridge : Bridge H) : Turn H → Bridge H
  | .ask question => bridge.ask question
  | .registryChanged => bridge.registryChanged
  | .hostChanges store => { bridge with host := { bridge.host with store } }

/-- One turn after another. -/
def turnAll (bridge : Bridge H) (turns : List (Turn H)) : Bridge H :=
  turns.foldl turn bridge

/-- Whatever happens to the store along the turns, it only grows. -/
def Grows : Bridge H → List (Turn H) → Prop
  | _, [] => True
  | bridge, turn :: rest =>
    (∀ store, turn = .hostChanges store → Host.Grown bridge.host.store store) ∧
      Grows (bridge.turn turn) rest

/-- Whatever is asked of the bridge now is answered as the store answers it now. -/
structure AnswersAfresh (bridge : Bridge H) : Prop where
  /-- A name is found exactly where a walk finds it: in the lowest live slot of that name. -/
  lookup : ∀ name, (bridge.lookup name).2 = Host.resolve bridge.host.store name ∧
    ∀ object, (bridge.lookup name).2 = .ok object ↔ Host.FirstNamed bridge.host.store name object
  lookupAs : ∀ name expected,
    (bridge.lookupAs name expected).2 = Host.resolveAs bridge.host.store name expected
  lookupFunction : ∀ className method, (bridge.lookupFunction className method).2 =
    Host.resolveFunction bridge.host.store className method
  instancesOf : ∀ className,
    (bridge.instancesOf className).2 = Host.resolveInstances bridge.host.store className
  /-- Only hits are kept, and after a question about a name it is kept if it is one. -/
  hits : ∀ name object, bridge.registry.object? name = some object →
    Host.findByName? bridge.host.store name = some object
  kept : ∀ question : Question, (bridge.ask question).registry.object? question.subject =
    Host.findByName? bridge.host.store question.subject
  keptFunction : ∀ className method,
    (bridge.lookupFunction className method).1.registry.function? className method =
      (Host.resolveFunction bridge.host.store className method).toOption

theorem asks_ask (bridge : Bridge H) (question : Question) : bridge.Asks (bridge.ask question) := by
  cases question with
  | lookup name => exact asks_lookup bridge name
  | lookupAs name expected => exact asks_lookupAs bridge name expected
  | lookupFunction className method => exact asks_lookupFunction bridge className method
  | instancesOf className => exact asks_instancesOf bridge className

theorem walks_ask_of_kept {bridge : Bridge H} {question : Question} {object : Object}
    (kept : bridge.registry.object? question.subject = some object) :
    (bridge.ask question).walks = bridge.walks := by
  cases question with
  | lookup name => exact congrArg (·.1.walks) (lookup_of_kept kept)
  | lookupAs name expected => exact walks_lookupAs_of_kept kept expected
  | lookupFunction className method => exact walks_lookupFunction_of_kept kept method
  | instancesOf className => exact walks_instancesOf_of_kept kept

namespace Faithful

variable {bridge : Bridge H} (faithful : bridge.Faithful)

include faithful

theorem answersAfresh : bridge.AnswersAfresh where
  lookup name := by
    have answer := (faithful.lookup name).answer
    refine ⟨answer, fun object => ?_⟩
    rw [answer, Host.resolve_eq_ok_iff, Host.findByName?_eq_some_iff]
  lookupAs name expected := (faithful.lookupAs name expected).answer
  lookupFunction className method := (faithful.lookupFunction className method).answer
  instancesOf className := (faithful.instancesOf className).answer
  hits := faithful.object
  kept question := by
    cases question with
    | lookup name => exact (faithful.lookup name).kept
    | lookupAs name expected => exact (faithful.lookupAs name expected).kept
    | lookupFunction className method => exact (faithful.lookupFunction className method).kept
    | instancesOf className => exact (faithful.instancesOf className).kept
  keptFunction := faithful.function?_lookupFunction

theorem ask (question : Question) : (bridge.ask question).Faithful := by
  cases question with
  | lookup name => exact (faithful.lookup name).faithful
  | lookupAs name expected => exact (faithful.lookupAs name expected).faithful
  | lookupFunction className method => exact (faithful.lookupFunction className method).faithful
  | instancesOf className => exact (faithful.instancesOf className).faithful

/-- Whatever is asked, and whatever is added to the store. -/
theorem turn {turn : Turn H}
    (grows : ∀ store, turn = .hostChanges store → Host.Grown bridge.host.store store) :
    (bridge.turn turn).Faithful := by
  cases turn with
  | ask question => exact faithful.ask question
  | registryChanged => exact .of_keepsNothing bridge.keepsNothing_registryChanged
  | hostChanges store => exact faithful.of_grown rfl (grows store rfl)

theorem turnAll {turns : List (Turn H)} (grows : bridge.Grows turns) :
    (bridge.turnAll turns).Faithful := by
  induction turns generalizing bridge with
  | nil => exact faithful
  | cons turn rest ih => exact ih (faithful.turn grows.1) grows.2

end Faithful

/-- A handle is kept until the registry is told of a change, whatever becomes of the store. -/
theorem kept_turnAll {bridge : Bridge H} {name : String} {object : Object}
    (kept : bridge.registry.object? name = some object) {turns : List (Turn H)}
    (unchanged : .registryChanged ∉ turns) :
    (bridge.turnAll turns).registry.object? name = some object := by
  induction turns generalizing bridge with
  | nil => exact kept
  | cons turn rest ih =>
      obtain ⟨first, later⟩ := not_or.mp (List.mem_cons.not.mp unchanged)
      refine ih ?_ later
      cases turn with
      | ask question => exact (asks_ask bridge question).kept name object kept
      | registryChanged => exact absurd rfl first
      | hostChanges store => exact kept

end Bridge

/-! ### Stores in memory -/

namespace Host.MemoryStore

/-- What may happen to a way into a store in memory, to which is added between. -/
inductive Move where
  | ask (question : Question)
  | registryChanged
  | add (addition : Addition)

/-- The turns that the moves are, from a store on. -/
def turns : MemoryStore → List Move → List (Turn MemoryStore)
  | _, [] => []
  | store, .ask question :: rest => .ask question :: turns store rest
  | store, .registryChanged :: rest => .registryChanged :: turns store rest
  | store, .add addition :: rest =>
    .hostChanges (store.extend addition) :: turns (store.extend addition) rest

/-- Whatever is asked and added, the store only grows. -/
theorem grows_turns {bridge : Bridge MemoryStore} (closed : bridge.host.store.Closed)
    (moves : List Move) : bridge.Grows (turns bridge.host.store moves) := by
  induction moves generalizing bridge with
  | nil => trivial
  | cons move rest ih =>
      cases move with
      | ask question =>
          have store := (bridge.asks_ask question).store
          have still : (bridge.ask question).host.store.Closed := store ▸ closed
          have later := ih still
          rw [store] at later
          exact ⟨nofun, later⟩
      | registryChanged => exact ⟨nofun, ih closed⟩
      | add addition =>
          obtain ⟨grown, still⟩ := grown_extend closed addition
          have added : (bridge.turn (.hostChanges (bridge.host.store.extend addition))
              ).host.store.Closed := still
          refine ⟨?_, ih added⟩
          rintro store ⟨⟩
          exact grown

end Host.MemoryStore

namespace Bridge

open Host.MemoryStore (turns)

end Bridge

end ReplicaBridge
