/-
Module: ReplicaBridge.Host.TableStore
Purpose: A reflection store that answers a function table from entries put into it, and
  records the calls dispatched to it.  Calls can be scripted to write to their frame or
  to fault.
Main exports: TableStore, TableStore.add, TableStore.addFunction, TableStore.processEvent
-/
import ReplicaBridge.Host.FunctionTable
import ReplicaBridge.Params.Layout

namespace ReplicaBridge.Host

/-- A link of a function's parameter chain, as put into the store. -/
structure ChainLink where
  record : PropertyRecord
  /-- The link can be read: it has a name and the store does not withhold it. -/
  readable : Bool
deriving Repr, Inhabited, DecidableEq

/-- An entry of the store. -/
structure TableEntry where
  name : Bytes
  /-- The name handed out for any buffer but the first, if another one is. -/
  retryName : Option Bytes
  owner : Object
  tag : UInt32
  flags : UInt32
  methods : List (Bytes × Object)
  chain : List ChainLink
  /-- What a call writes to its frame, in order; a patch that does not fit is left out. -/
  writes : List (Nat × Bytes)
  /-- A call of the entry faults. -/
  faults : Bool
deriving Repr, Inhabited

/-- One dispatched call: whom, what, and the frame as the host received it. -/
structure HostCall where
  target : Object
  function : Object
  frame : Bytes
deriving Repr, Inhabited, DecidableEq

/-- The store: slot `n` holds the entry at address `16 * (n + 1)`. -/
structure TableStore where
  ready : Bool := true
  slots : List (Option TableEntry) := []
  calls : List HostCall := []
  /-- Scripted faults act. -/
  faultsArmed : Bool := true
  /-- The number of dispatches before the next scripted fault. -/
  faultIn : Option Nat := none
deriving Repr, Inhabited

namespace TableEntry

/-- An entry with nothing but a name. -/
def named (name : Bytes) (tag : UInt32) : TableEntry :=
  { name, retryName := none, owner := .null, tag, flags := 0, methods := [], chain := [],
    writes := [], faults := false }

/-- The layout of the entry's parameters. -/
def layout (entry : TableEntry) : Params.ParamLayout :=
  Params.ParamLayout.ofProperties
    ((entry.chain.filter (·.readable)).map (·.record.toProperty))

/-- The name handed out for a buffer of the given capacity. -/
def nameFor (entry : TableEntry) (capacity : Nat) : Bytes :=
  if capacity = nameBufferSize then entry.name else entry.retryName.getD entry.name

/-- Write a patch if it fits. -/
def applyWrite (frame : Bytes) (write : Nat × Bytes) : Bytes :=
  if write.1 + write.2.length ≤ frame.length then Bytes.overwrite frame write.1 write.2
  else frame

theorem length_applyWrite (frame : Bytes) (write : Nat × Bytes) :
    (applyWrite frame write).length = frame.length := by
  unfold applyWrite
  split
  · exact Bytes.length_overwrite ..
  · rfl

/-- Write all patches. -/
def applyWrites (entry : TableEntry) (frame : Bytes) : Bytes :=
  entry.writes.foldl applyWrite frame

theorem length_applyWrites (entry : TableEntry) (frame : Bytes) :
    (entry.applyWrites frame).length = frame.length := by
  unfold applyWrites
  generalize entry.writes = writes
  induction writes generalizing frame with
  | nil => rfl
  | cons write rest ih => rw [List.foldl_cons, ih, length_applyWrite]

end TableEntry

namespace TableStore

/-- The address of a slot. -/
def addressOf (index : Nat) : Object :=
  { address := UInt64.ofNat (16 * (index + 1)) }

/-- The slot of an address. -/
def indexOf? (object : Object) : Option Nat :=
  let address := object.address.toNat
  if address % 16 = 0 && address != 0 then some (address / 16 - 1) else none

/-- The entry at an address. -/
def entry? (store : TableStore) (object : Object) : Option TableEntry :=
  match indexOf? object with
  | none => none
  | some index => (store.slots[index]?).join

/-- Add an entry in a new slot. -/
def add (store : TableStore) (entry : TableEntry) : TableStore × Object :=
  ({ store with slots := store.slots ++ [some entry] }, addressOf store.slots.length)

/-- Change the entry at an address; says whether there is one. -/
def update (store : TableStore) (object : Object) (change : TableEntry → TableEntry) :
    TableStore × Bool :=
  match indexOf? object with
  | none => (store, false)
  | some index =>
    match (store.slots[index]?).join with
    | none => (store, false)
    | some entry => ({ store with slots := store.slots.set index (some (change entry)) }, true)

/-- Free the slot of an address, which is never used again; says whether it was in use. -/
def remove (store : TableStore) (object : Object) : TableStore × Bool :=
  match indexOf? object with
  | none => (store, false)
  | some index =>
    match (store.slots[index]?).join with
    | none => (store, false)
    | some _ => ({ store with slots := store.slots.set index none }, true)

/-- Add a function to a class: its full name is the class's name, a point and its own, and
the class finds it by its own name. -/
def addFunction (store : TableStore) (owner : Object) (name : Bytes) (function : TableEntry) :
    TableStore × Object :=
  let className := (store.entry? owner).elim [] (·.name)
  let (store, object) := store.add { function with name := className ++ [46] ++ name }
  let (store, _) := store.update owner fun entry =>
    { entry with methods := entry.methods ++ [(name, object)] }
  (store, object)

/-- The name of an entry, written as far as the buffer goes. -/
def fullName (store : TableStore) (object : Object) (capacity : Nat) : NameReply :=
  match store.entry? object with
  | none => { written := [], length := 0 }
  | some entry =>
    let name := entry.nameFor capacity
    { written := name.take capacity, length := name.length }

/-- The frame that a call of the function works on. -/
def frameSize (store : TableStore) (function : Object) : Nat :=
  (store.entry? function).elim 0 (·.layout.size.toNat)

/-- Count one dispatch down to the scripted fault; says whether this one faults. -/
def countDown (store : TableStore) : TableStore × Bool :=
  match store.faultIn with
  | none => (store, false)
  | some 0 => ({ store with faultIn := none }, true)
  | some (left + 1) => ({ store with faultIn := some left }, false)

/-- Record a call and write its patches to the frame. -/
def perform (store : TableStore) (target function : Object) (frame : Bytes) :
    TableStore × Bytes :=
  let call : HostCall := { target, function, frame := frame.take (store.frameSize function) }
  let left := (store.entry? function).elim frame (·.applyWrites frame)
  ({ store with calls := store.calls ++ [call] }, left)

/-- Dispatch a call.  A faulting call is neither recorded nor does it write. -/
def processEvent (store : TableStore) (target function : Object) (frame : Bytes) :
    TableStore × Option Bytes :=
  if store.faultsArmed then
    match store.countDown with
    | (store, true) => (store, none)
    | (store, false) =>
      if (store.entry? function).elim false (·.faults) then (store, none)
      else
        let (store, left) := store.perform target function frame
        (store, some left)
  else
    let (store, left) := store.perform target function frame
    (store, some left)

theorem length_perform (store : TableStore) (target function : Object) (frame : Bytes) :
    (store.perform target function frame).2.length = frame.length := by
  unfold perform
  cases store.entry? function with
  | none => rfl
  | some entry => exact entry.length_applyWrites frame

instance : FunctionTable TableStore where
  isReady := ready
  objectCount store := store.slots.length
  objectAt store index :=
    match (store.slots[index]?).join with
    | none => .null
    | some _ => addressOf index
  fullName := fullName
  classOf store object := (store.entry? object).elim .null (·.owner)
  typeTag store object := (store.entry? object).elim 0xFFFFFFFF (·.tag)
  objectFlags store object := (store.entry? object).elim 0 (·.flags)
  findFunction store owner name :=
    ((store.entry? owner).bind fun entry =>
      (entry.methods.find? (·.1 == name)).map (·.2)).getD .null
  propertyCount store function := (store.entry? function).elim 0 (·.chain.length)
  propertyAt store function index :=
    ((store.entry? function).bind (·.chain[index]?)).bind fun link =>
      if link.readable then some link.record else none
  processEvent := processEvent
  length_of_processEvent store target function frame after left h := by
    unfold processEvent at h
    split at h
    · split at h
      · simp at h
      · split at h
        · simp at h
        · rename_i store' _ _
          obtain ⟨_, rfl⟩ := by simpa using h
          exact length_perform ..
    · obtain ⟨_, rfl⟩ := by simpa using h
      exact length_perform ..

end TableStore

end ReplicaBridge.Host
