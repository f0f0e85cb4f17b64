/-
Module: ReplicaBridge.Proofs.StoreGrowth
Purpose: What names, methods and classes resolve to when a store is asked afresh, and stores
  that grow: entries and methods are added, and nothing that was there is taken away, renamed
  or changed.  What resolved in a store resolves to the same in every store that it grew into;
  what did not may appear.
Main exports: Host.resolve, Host.resolveFunction, Host.resolveInstances, Host.FirstNamed,
  Host.Grown, Host.Grown.resolveFunction, MemoryStore.Addition, MemoryStore.grown_extend
-/
import Mathlib
import ReplicaBridge.Bridge
import ReplicaBridge.Host.MemoryStore

namespace ReplicaBridge

open Params (FunctionDescriptor ParamLayout)

namespace Host

open ReflectionHost

variable {H : Type} [ReflectionHost H]

/-! ### Resolving afresh -/

/-- What a walk for a full name comes to. -/
def resolve (store : H) (name : String) : Except RegistryError Object :=
  match findByName? store name with
  | some object => .ok object
  | none => .error (.notFound name)

/-- An entry must be of the kind that is expected of it. -/
def verify (store : H) (name : String) (object : Object) (expected : TypeTag) :
    Except RegistryError Unit :=
  if typeTag store object = expected then .ok ()
  else .error (.typeMismatch name expected (typeTag store object))

/-- A full name for an entry of a kind. -/
def resolveAs (store : H) (name : String) (expected : TypeTag) : Except RegistryError Object := do
  let object ← resolve store name
  verify store name object expected
  return object

/-- A method of a class, and the layout of its parameters. -/
def resolveFunction (store : H) (className method : String) :
    Except RegistryError FunctionDescriptor := do
  let owningClass ← resolveAs store className .classType
  match findFunction store owningClass method with
  | none => throw (.functionNotFound className method)
  | some function =>
    verify store (className ++ "::" ++ method) function .function
    return { owningClass, function, className, name := method
             layout := ParamLayout.ofProperties (readableProperties store function) }

/-- The live instances of a class, of which there must be one. -/
def resolveInstances (store : H) (className : String) : Except RegistryError (List Object) := do
  let owner ← resolveAs store className .classType
  match instances store owner with
  | [] => throw (.noInstances className)
  | found => return found

/-- The entry that a name is found to stand for must be of the kind. -/
theorem resolveAs_of_resolve {store : H} {name : String} {object : Object}
    (found : resolve store name = .ok object) (expected : TypeTag) :
    resolveAs store name expected = (verify store name object expected).map fun _ => object := by
  rw [resolveAs, found]
  simp only [bind, Except.bind]
  cases verify store name object expected <;> rfl

/-- Once the class is found, it must have the method, and the method must be a function. -/
theorem resolveFunction_of_owner {store : H} {className : String} {owningClass : Object}
    (found : resolveAs store className .classType = .ok owningClass) (method : String) :
    resolveFunction store className method =
      match findFunction store owningClass method with
      | none => .error (.functionNotFound className method)
      | some function =>
        (verify store (className ++ "::" ++ method) function .function).map fun _ =>
          { owningClass, function, className, name := method
            layout := ParamLayout.ofProperties (readableProperties store function) } := by
  rw [resolveFunction, found]
  simp only [bind, Except.bind]
  cases findFunction store owningClass method with
  | none => rfl
  | some function =>
      dsimp only
      cases verify store (className ++ "::" ++ method) function .function <;> rfl

/-- The store is populated, and of its live slots the entry's is the lowest whose entry has
the name. -/
def FirstNamed (store : H) (name : String) (object : Object) : Prop :=
  isReady store = true ∧ ∃ index < objectCount store, objectAt store index = some object ∧
    fullName store object = some name ∧ ∀ earlier < index, ∀ other,
      objectAt store earlier = some other → fullName store other ≠ some name

theorem findByName?_eq_some_iff {store : H} {name : String} {object : Object} :
    findByName? store name = some object ↔ FirstNamed store name object := by
  unfold findByName? FirstNamed liveObjects
  cases isReady store with
  | false => simp
  | true =>
      simp only [if_true, true_and]
      rw [List.find?_filterMap, Option.bind_eq_some_iff]
      constructor
      · rintro ⟨index, found, lies⟩
        obtain ⟨named, below, first⟩ := List.find?_range_eq_some.mp found
        refine ⟨index, List.mem_range.mp below, lies, by simpa [lies] using named, ?_⟩
        intro earlier less other lies named
        simpa [lies, named] using first earlier less
      · rintro ⟨index, below, lies, named, first⟩
        refine ⟨index, List.find?_range_eq_some.mpr ⟨by simpa [lies] using named,
          List.mem_range.mpr below, fun earlier less => ?_⟩, lies⟩
        cases occupied : objectAt store earlier with
        | none => simp
        | some other => simpa using first earlier less other occupied

theorem mem_liveObjects_of_findByName? {store : H} {name : String} {object : Object}
    (found : findByName? store name = some object) : object ∈ liveObjects store := by
  unfold findByName? at found
  split at found
  · exact List.mem_of_find?_eq_some found
  · cases found

theorem resolve_eq_ok_iff {store : H} {name : String} {object : Object} :
    resolve store name = .ok object ↔ findByName? store name = some object := by
  unfold resolve
  split <;> simp_all

theorem resolveAs_eq_ok_iff {store : H} {name : String} {expected : TypeTag} {object : Object} :
    resolveAs store name expected = .ok object ↔
      findByName? store name = some object ∧ typeTag store object = expected := by
  rw [← resolve_eq_ok_iff]
  cases resolved : resolve store name with
  | error error => simp [resolveAs, resolved, bind, Except.bind]
  | ok found =>
      rw [resolveAs_of_resolve resolved, verify]
      split
      · rename_i fits
        simp only [Except.map, Except.ok.injEq]
        exact ⟨fun same => ⟨same, same ▸ fits⟩, And.left⟩
      · rename_i other
        simp only [Except.map, reduceCtorEq, false_iff, Except.ok.injEq]
        exact fun ⟨same, fits⟩ => other (same ▸ fits)

/-- All that a resolved function rests on. -/
theorem resolveFunction_eq_ok_iff {store : H} {className method : String}
    {descriptor : FunctionDescriptor} :
    resolveFunction store className method = .ok descriptor ↔
      resolveAs store className .classType = .ok descriptor.owningClass ∧
      findFunction store descriptor.owningClass method = some descriptor.function ∧
      typeTag store descriptor.function = .function ∧
      descriptor.className = className ∧ descriptor.name = method ∧
      descriptor.layout =
        ParamLayout.ofProperties (readableProperties store descriptor.function) := by
  obtain ⟨owningClass, function, className', name, layout⟩ := descriptor
  cases owned : resolveAs store className .classType with
  | error error => simp [resolveFunction, owned, bind, Except.bind]
  | ok owner =>
      rw [resolveFunction_of_owner owned]
      simp only [Except.ok.injEq]
      constructor
      · intro resolved
        split at resolved
        · cases resolved
        · rename_i found sought
          rw [verify] at resolved
          split at resolved
          · rename_i fits
            cases resolved
            exact ⟨rfl, sought, fits, rfl, rfl, rfl⟩
          · cases resolved
      · rintro ⟨rfl, sought, fits, rfl, rfl, rfl⟩
        rw [sought]
        simp only [verify, if_pos fits, Except.map]

/-! ### Growth -/

/-- Entries and methods were added.  What was there still is: each slot that was there holds
what it held, each live entry has its name and its kind, and each of their methods is the
function that it was, of its kind and with its parameters. -/
structure Grown (before after : H) : Prop where
  ready : isReady before = true → isReady after = true
  count : objectCount before ≤ objectCount after
  slots : ∀ index < objectCount before, objectAt after index = objectAt before index
  names : ∀ object ∈ liveObjects before, fullName after object = fullName before object
  tags : ∀ object ∈ liveObjects before, typeTag after object = typeTag before object
  methods : ∀ owner ∈ liveObjects before, ∀ name function,
    findFunction before owner name = some function →
      findFunction after owner name = some function ∧
      typeTag after function = typeTag before function ∧
      properties after function = properties before function

namespace Grown

variable {before after : H} (grown : Grown before after)

include grown

/-- The live entries that are new come behind those that were there. -/
theorem liveObjects : ∃ added, Host.liveObjects after = Host.liveObjects before ++ added := by
  obtain ⟨more, more_eq⟩ := Nat.exists_eq_add_of_le grown.count
  refine ⟨((List.range more).map (objectCount before + ·)).filterMap (objectAt after), ?_⟩
  unfold Host.liveObjects
  rw [more_eq, List.range_add, List.filterMap_append]
  congr 1
  exact List.filterMap_congr fun index below => grown.slots index (List.mem_range.mp below)

theorem findByName? {name : String} {object : Object}
    (found : Host.findByName? before name = some object) :
    Host.findByName? after name = some object := by
  obtain ⟨added, live⟩ := grown.liveObjects
  unfold Host.findByName? at found ⊢
  split at found
  · rename_i ready
    have same : (Host.liveObjects before).find? (fullName after · == some name) =
        (Host.liveObjects before).find? (fullName before · == some name) :=
      List.find?_congr fun object live => by rw [grown.names object live]
    rw [if_pos (grown.ready ready), live, List.find?_append, same, found]
    rfl
  · cases found

/-- What a name stood for is of the kind that it was. -/
theorem resolveAs {name : String} {expected : TypeTag} {object : Object}
    (found : Host.resolveAs before name expected = .ok object) :
    Host.resolveAs after name expected = .ok object := by
  rw [resolveAs_eq_ok_iff] at found ⊢
  exact ⟨grown.findByName? found.1,
    (grown.tags object (mem_liveObjects_of_findByName? found.1)).trans found.2⟩

theorem resolveFunction {className method : String} {descriptor : FunctionDescriptor}
    (found : Host.resolveFunction before className method = .ok descriptor) :
    Host.resolveFunction after className method = .ok descriptor := by
  rw [resolveFunction_eq_ok_iff] at found ⊢
  obtain ⟨owner, sought, kind, sameClass, sameName, layout⟩ := found
  have live := mem_liveObjects_of_findByName? (resolveAs_eq_ok_iff.mp owner).1
  obtain ⟨still, sameKind, sameProperties⟩ := grown.methods _ live _ _ sought
  refine ⟨grown.resolveAs owner, still, sameKind.trans kind, sameClass, sameName, ?_⟩
  rw [layout, readableProperties, readableProperties, sameProperties]

end Grown

end Host

/-! ### A store in memory grows -/

namespace Host.MemoryStore

open ReflectionHost

/-- What can be added to a store in memory. -/
inductive Addition where
  | ofClass (name : String)
  | ofInstance (owner : Object) (name : String)
  | ofTemplate (owner : Object) (name : String)
  | ofFunction (owner : Object) (name : String) (properties : List Property)

/-- Add to the store. -/
def extend (store : MemoryStore) : Addition → MemoryStore
  | .ofClass name => (store.addClass name).1
  | .ofInstance owner name => (store.addInstance owner name).1
  | .ofTemplate owner name => (store.addTemplate owner name).1
  | .ofFunction owner name properties => (store.addFunction owner name properties).1

/-- The reference falls into none of the slots, or into one that is there. -/
def Within (store : MemoryStore) (object : Object) : Prop :=
  ∀ index, indexOf? object = some index → index < store.slots.length

/-- The functions of every entry are within the store. -/
def Closed (store : MemoryStore) : Prop :=
  ∀ entry, some entry ∈ store.slots → ∀ method ∈ entry.functions, store.Within method.2

theorem closed_empty : Closed {} :=
  nofun

/-- Addresses wrap around, but never to a slot above the one that they were made for. -/
theorem le_of_indexOf?_addressOf {slot index : Nat}
    (falls : indexOf? (addressOf slot) = some index) : index ≤ slot := by
  have address : (addressOf slot).address.toNat = 16 * (slot + 1) % 2 ^ 64 :=
    UInt64.toNat_ofNat' ..
  unfold indexOf? at falls
  rw [address] at falls
  split at falls
  · cases falls
  · rename_i found
    cases falls
    omega

theorem within_addressOf {store : MemoryStore} {slot : Nat} (below : slot < store.slots.length) :
    store.Within (addressOf slot) :=
  fun _ falls => Nat.lt_of_le_of_lt (le_of_indexOf?_addressOf falls) below

theorem within_of_live {store : MemoryStore} {object : Object}
    (live : object ∈ liveObjects store) : store.Within object := by
  obtain ⟨slot, below, lies⟩ := List.mem_filterMap.mp live
  obtain ⟨_, _, rfl⟩ := Option.map_eq_some_iff.mp lies
  exact within_addressOf (List.mem_range.mp below)

theorem mem_slots_of_read {store : MemoryStore} {object : Object} {entry : MemoryEntry}
    (found : store.entry? object = some entry) : some entry ∈ store.slots := by
  unfold entry? at found
  split at found
  · cases found
  · exact List.mem_of_getElem? (Option.join_eq_some_iff.mp found)

/-- The slots that were there hold the entries that they held, which may have further methods
behind those that they had. -/
structure Extends (before after : MemoryStore) : Prop where
  ready : after.ready = before.ready
  length : before.slots.length ≤ after.slots.length
  slot : ∀ index < before.slots.length, ∃ more, (after.slots[index]?).join =
    (before.slots[index]?).join.map fun entry =>
      { entry with functions := entry.functions ++ more }

namespace Extends

variable {before middle after : MemoryStore}

theorem trans (first : Extends before middle) (second : Extends middle after) :
    Extends before after where
  ready := second.ready.trans first.ready
  length := first.length.trans second.length
  slot index below := by
    obtain ⟨earlier, added⟩ := first.slot index below
    obtain ⟨later, addedAgain⟩ := second.slot index (Nat.lt_of_lt_of_le below first.length)
    refine ⟨earlier ++ later, ?_⟩
    rw [addedAgain, added, Option.map_map]
    simp [Function.comp_def]

theorem entry? (extension : Extends before after) {object : Object}
    (within : before.Within object) :
    ∃ more, after.entry? object = (before.entry? object).map fun entry =>
      { entry with functions := entry.functions ++ more } := by
  unfold MemoryStore.entry?
  cases falls : indexOf? object with
  | none => exact ⟨[], rfl⟩
  | some index => exact extension.slot index (within index falls)

theorem grown (extension : Extends before after) (closed : before.Closed) :
    Grown before after where
  ready ready := extension.ready.trans ready
  count := extension.length
  slots index below := by
    obtain ⟨more, added⟩ := extension.slot index below
    simp only [ReflectionHost.objectAt, added, Option.map_map, Function.comp_def]
  names object live := by
    obtain ⟨more, added⟩ := extension.entry? (within_of_live live)
    simp only [ReflectionHost.fullName, added, Option.map_map, Function.comp_def]
  tags object live := by
    obtain ⟨more, added⟩ := extension.entry? (within_of_live live)
    simp only [ReflectionHost.typeTag, added]
    cases before.entry? object <;> rfl
  methods owner live name function found := by
    obtain ⟨more, added⟩ := extension.entry? (within_of_live live)
    obtain ⟨entry, owns, sought⟩ := Option.bind_eq_some_iff.mp found
    obtain ⟨method, first, rfl⟩ := Option.map_eq_some_iff.mp sought
    have within : before.Within method.2 :=
      closed entry (mem_slots_of_read owns) method (List.mem_of_find?_eq_some first)
    obtain ⟨others, same⟩ := extension.entry? within
    refine ⟨?_, ?_, ?_⟩
    · simp [ReflectionHost.findFunction, added, owns, first]
    · simp only [ReflectionHost.typeTag, same]
      cases before.entry? method.2 <;> rfl
    · simp only [ReflectionHost.properties, same]
      cases before.entry? method.2 <;> rfl

end Extends

theorem extends_add (store : MemoryStore) (entry : MemoryEntry) :
    Extends store (store.add entry).1 where
  ready := rfl
  length := by simp [add]
  slot index below := by
    refine ⟨[], ?_⟩
    simp [add, List.getElem?_append_left below]

/-- A function is listed behind those that an entry has. -/
def addMethod (store : MemoryStore) (owner : Object) (method : String × Object) : MemoryStore :=
  store.update owner fun entry => some { entry with functions := entry.functions ++ [method] }

theorem addMethod_cases (store : MemoryStore) (owner : Object) (method : String × Object) :
    store.addMethod owner method = store ∨
      ∃ index entry, store.slots[index]? = some (some entry) ∧
        store.addMethod owner method = { store with
          slots := store.slots.set index
            (some { entry with functions := entry.functions ++ [method] }) } := by
  unfold addMethod update
  split
  · exact .inl rfl
  · split
    · exact .inl rfl
    · rename_i found
      exact .inr ⟨_, _, Option.join_eq_some_iff.mp found, rfl⟩

theorem extends_addMethod (store : MemoryStore) (owner : Object) (method : String × Object) :
    Extends store (store.addMethod owner method) := by
  rcases addMethod_cases store owner method with same | ⟨slot, entry, lies, added⟩
  · rw [same]
    exact ⟨rfl, Nat.le_refl _, fun _ _ => ⟨[], by simp⟩⟩
  · rw [added]
    refine ⟨rfl, by simp, fun index below => ?_⟩
    rcases eq_or_ne slot index with rfl | other
    · exact ⟨[method], by rw [List.getElem?_set_self below, lies]; rfl⟩
    · exact ⟨[], by simp [List.getElem?_set_ne other]⟩

theorem Closed.add {store : MemoryStore} (closed : store.Closed) {entry : MemoryEntry}
    (new : entry.functions = []) : (store.add entry).1.Closed := by
  intro other among method has index falls
  have longer : (store.add entry).1.slots.length = store.slots.length + 1 := by
    simp [MemoryStore.add]
  rcases List.mem_append.mp among with before | last
  · exact longer ▸ Nat.lt_succ_of_lt (closed other before method has index falls)
  · cases List.mem_singleton.mp last
    rw [new] at has
    cases has

theorem Closed.addMethod {store : MemoryStore} (closed : store.Closed) (owner : Object)
    {method : String × Object} (within : store.Within method.2) :
    (store.addMethod owner method).Closed := by
  rcases addMethod_cases store owner method with same | ⟨slot, entry, lies, added⟩
  · rw [same]
    exact closed
  · rw [added]
    intro other among listed has index falls
    have length : (store.slots.set slot
        (some { entry with functions := entry.functions ++ [method] })).length =
          store.slots.length := List.length_set
    refine length ▸ ?_
    rcases List.mem_or_eq_of_mem_set among with before | same
    · exact closed other before listed has index falls
    · cases same
      rcases List.mem_append.mp has with old | new
      · exact closed entry (List.mem_of_getElem? lies) listed old index falls
      · exact within index (List.mem_singleton.mp new ▸ falls)

/-- Whatever is added, the store grows, and its functions are within it. -/
theorem grown_extend {store : MemoryStore} (closed : store.Closed) (addition : Addition) :
    Grown store (store.extend addition) ∧ (store.extend addition).Closed := by
  cases addition with
  | ofClass name => exact ⟨(extends_add store _).grown closed, closed.add rfl⟩
  | ofInstance owner name => exact ⟨(extends_add store _).grown closed, closed.add rfl⟩
  | ofTemplate owner name => exact ⟨(extends_add store _).grown closed, closed.add rfl⟩
  | ofFunction owner name properties =>
      let entry : MemoryEntry :=
        { name := (store.entry? owner).elim "" (·.name) ++ "." ++ name, tag := .function
          owner := none, isTemplate := false, functions := [], properties }
      have within : (store.add entry).1.Within (addressOf store.slots.length) :=
        within_addressOf (by simp [MemoryStore.add])
      exact ⟨((extends_add store entry).trans (extends_addMethod _ owner _)).grown closed,
        (Closed.add closed rfl).addMethod owner within⟩

end Host.MemoryStore

end ReplicaBridge
