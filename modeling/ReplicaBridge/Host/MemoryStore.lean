/-
Module: ReplicaBridge.Host.MemoryStore
Purpose: A reflection store kept in memory, for trying a session without a loader.  Every
  dispatched call is recorded with the frame it left behind.
Main exports: MemoryStore, MemoryStore.addClass, MemoryStore.addFunction,
  MemoryStore.dispatch
-/
import ReplicaBridge.Host.Reflection
import ReplicaBridge.Params.Layout

namespace ReplicaBridge.Host

/-- An entry of the store. -/
structure MemoryEntry where
  name : String
  tag : TypeTag
  owner : Option Object
  isTemplate : Bool
  functions : List (String × Object)
  properties : List Property
deriving Repr, Inhabited

/-- A call that came back. -/
structure RecordedCall where
  target : Object
  function : Object
  functionName : String
  frame : Bytes
deriving Repr, Inhabited, DecidableEq

/-- What every call does to its frame before it returns. -/
inductive FrameWriter where
  | fault
  | patch (offset : Nat) (bytes : Bytes)
deriving Repr, Inhabited, DecidableEq

/-- The store: slot `n` holds the entry at address `16 * (n + 1)`. -/
structure MemoryStore where
  ready : Bool := true
  slots : List (Option MemoryEntry) := []
  calls : List RecordedCall := []
  writer : Option FrameWriter := none
deriving Repr, Inhabited

namespace MemoryEntry

def ofClass (name : String) : MemoryEntry :=
  { name, tag := .classType, owner := none, isTemplate := false, functions := [], properties := [] }

def ofInstance (owner : Object) (name : String) (isTemplate : Bool) : MemoryEntry :=
  { name, tag := .object, owner := some owner, isTemplate, functions := [], properties := [] }

end MemoryEntry

namespace MemoryStore

/-- The address of a slot. -/
def addressOf (index : Nat) : Object :=
  { address := UInt64.ofNat (16 * (index + 1)) }

/-- The slot that an address falls into. -/
def indexOf? (object : Object) : Option Nat :=
  match object.address.toNat / 16 with
  | 0 => none
  | index + 1 => some index

/-- The entry at an address. -/
def entry? (store : MemoryStore) (object : Object) : Option MemoryEntry :=
  match indexOf? object with
  | none => none
  | some index => (store.slots[index]?).join

/-- Add an entry in a new slot. -/
def add (store : MemoryStore) (entry : MemoryEntry) : MemoryStore × Object :=
  ({ store with slots := store.slots ++ [some entry] }, addressOf store.slots.length)

/-- Change the entry at an address, if there is one. -/
def update (store : MemoryStore) (object : Object) (change : MemoryEntry → Option MemoryEntry) :
    MemoryStore :=
  match indexOf? object with
  | none => store
  | some index =>
    match (store.slots[index]?).join with
    | none => store
    | some entry => { store with slots := store.slots.set index (change entry) }

def addClass (store : MemoryStore) (name : String) : MemoryStore × Object :=
  store.add (.ofClass name)

def addInstance (store : MemoryStore) (owner : Object) (name : String) : MemoryStore × Object :=
  store.add (.ofInstance owner name false)

def addTemplate (store : MemoryStore) (owner : Object) (name : String) : MemoryStore × Object :=
  store.add (.ofInstance owner name true)

/-- Add a function to a class: its full name is the class's name, a point and its own. -/
def addFunction (store : MemoryStore) (owner : Object) (name : String)
    (properties : List Property) : MemoryStore × Object :=
  let className := (store.entry? owner).elim "" (·.name)
  let (store, function) := store.add
    { name := className ++ "." ++ name, tag := .function, owner := none, isTemplate := false,
      functions := [], properties }
  (store.update owner fun entry =>
    some { entry with functions := entry.functions ++ [(name, function)] }, function)

def setTag (store : MemoryStore) (object : Object) (tag : TypeTag) : MemoryStore :=
  store.update object fun entry => some { entry with tag }

/-- Free the slot of an address, which is never used again. -/
def remove (store : MemoryStore) (object : Object) : MemoryStore :=
  store.update object fun _ => none

/-- The frame that a call of the function works on. -/
def frameSize (store : MemoryStore) (function : Object) : Nat :=
  (store.entry? function).elim 0 fun entry =>
    (Params.ParamLayout.ofProperties entry.properties).size.toNat

/-- The frame after the writer ran on its first `size` bytes; `none` if it faulted. -/
def runWriter (writer : Option FrameWriter) (size : Nat) (frame : Bytes) : Option Bytes :=
  match writer with
  | none => some frame
  | some .fault => none
  | some (.patch offset bytes) =>
    some (Bytes.overwrite (frame.take size) offset bytes ++ frame.drop size)

theorem length_runWriter {writer : Option FrameWriter} {size : Nat} {frame left : Bytes}
    (h : runWriter writer size frame = some left) : left.length = frame.length := by
  unfold runWriter at h
  split at h
  · cases h; rfl
  · cases h
  · cases h
    rw [List.length_append, Bytes.length_overwrite, ← List.length_append, List.take_append_drop]

/-- Dispatch a call: the writer runs, then the call is recorded with what it left.  A
faulting call is not recorded. -/
def dispatch (store : MemoryStore) (target function : Object) (frame : Bytes) :
    MemoryStore × Option Bytes :=
  let size := store.frameSize function
  match runWriter store.writer size frame with
  | none => (store, none)
  | some left =>
    let call : RecordedCall :=
      { target, function, functionName := (store.entry? function).elim "" (·.name),
        frame := left.take size }
    ({ store with calls := store.calls ++ [call] }, some left)

/-- The recorded calls of functions with the given last name. -/
def callsTo (store : MemoryStore) (name : String) : List RecordedCall :=
  store.calls.filter fun call => ("." ++ name).toList.isSuffixOf call.functionName.toList

instance : ReflectionHost MemoryStore where
  isReady := ready
  objectCount store := store.slots.length
  objectAt store index := ((store.slots[index]?).join).map fun _ => addressOf index
  fullName store object := (store.entry? object).map (·.name)
  nameCost _ _ := 1
  classOf store object := (store.entry? object).bind (·.owner)
  typeTag store object := (store.entry? object).elim .unknown (·.tag)
  isTemplate store object := (store.entry? object).elim false (·.isTemplate)
  findFunction store owner name :=
    (store.entry? owner).bind fun entry => (entry.functions.find? (·.1 == name)).map (·.2)
  properties store function :=
    (store.entry? function).elim [] fun entry => entry.properties.map some
  dispatch := dispatch
  length_of_dispatch store target function frame after left h := by
    simp only [dispatch] at h
    split at h
    · simp at h
    · rename_i left' found
      obtain ⟨_, rfl⟩ := by simpa using h
      exact length_runWriter found

end MemoryStore

end ReplicaBridge.Host
