/-
Module: ReplicaBridge.Listeners
Purpose: Listeners for frames, chat lines and avatars that come and go.  They are kept in
  numbered slots and hear a signal in slot order; a slot that was freed last is used
  again first, and a key that outlived its listener removes nothing.
Main exports: Signal, Listener, ListenerKey, Listeners, Listeners.add, Listeners.remove,
  Listeners.clear, Listeners.fire
-/
import ReplicaBridge.Avatar

namespace ReplicaBridge

/-- What a listener can be registered for. -/
inductive SignalKind where
  | frame
  | chat
  | spawned
  | despawned
deriving Repr, Inhabited, DecidableEq

namespace SignalKind

def name : SignalKind → String
  | .frame => "frame"
  | .chat => "chat"
  | .spawned => "spawned"
  | .despawned => "despawned"

/-- Every kind. -/
def all : List SignalKind := [.frame, .chat, .spawned, .despawned]

/-- The kind of a name. -/
def ofName? (name : String) : Option SignalKind :=
  all.find? (·.name == name)

end SignalKind

/-- Something that listeners hear of. -/
inductive Signal where
  /-- A frame was run. -/
  | frame (number : Nat)
  /-- A chat line came from the server. -/
  | chat (text : String)
  /-- The server spawned an avatar. -/
  | spawned (id : EntityId)
  /-- The server despawned an avatar. -/
  | despawned (id : EntityId)
deriving Repr, Inhabited, DecidableEq

namespace Signal

def kind : Signal → SignalKind
  | .frame _ => .frame
  | .chat _ => .chat
  | .spawned _ => .spawned
  | .despawned _ => .despawned

end Signal

/-- What a listener does when it hears its signal. -/
inductive Reaction where
  /-- Record the signal under a label. -/
  | record (label : String)
  /-- Answer a chat line by one that opens with the given words. -/
  | reply (opening : String)
  /-- Hand a chat line to the loader. -/
  | forward
deriving Repr, Inhabited, DecidableEq

/-- A registered listener. -/
structure Listener where
  kind : SignalKind
  reaction : Reaction
  /-- Whether its so-many-th call unwinds once it has reacted. -/
  panics : Nat → Bool
  /-- The calls it has had. -/
  calls : Nat := 0

/-- A slot; its generation counts the listeners that left it. -/
structure ListenerSlot where
  generation : Nat := 0
  listener : Option Listener := none

/-- The key of a registered listener. -/
structure ListenerKey where
  index : Nat
  generation : Nat
deriving Repr, Inhabited, DecidableEq

/-- The registered listeners. -/
structure Listeners where
  slots : List ListenerSlot := []
  /-- The free slots, the one freed last first. -/
  free : List Nat := []

namespace Listeners

/-- Register a listener. -/
def add (listeners : Listeners) (listener : Listener) : Listeners × ListenerKey :=
  match listeners.free with
  | index :: free =>
    let generation := (listeners.slots.getD index {}).generation
    ({ slots := listeners.slots.set index { generation, listener := some listener }, free },
      { index, generation })
  | [] =>
    ({ slots := listeners.slots ++ [{ listener := some listener }], free := [] },
      { index := listeners.slots.length, generation := 0 })

/-- Empty an occupied slot. -/
def vacate (listeners : Listeners) (index : Nat) : Listeners :=
  let generation := (listeners.slots.getD index {}).generation
  { slots := listeners.slots.set index { generation := generation + 1 }
    free := index :: listeners.free }

/-- The key still belongs to the listener it was given for. -/
def holds (listeners : Listeners) (key : ListenerKey) : Bool :=
  match listeners.slots[key.index]? with
  | some slot => slot.listener.isSome && slot.generation == key.generation
  | none => false

/-- Remove a listener; says whether it was still there. -/
def remove (listeners : Listeners) (key : ListenerKey) : Listeners × Bool :=
  if listeners.holds key then (listeners.vacate key.index, true) else (listeners, false)

/-- The numbers of the occupied slots. -/
def occupied (listeners : Listeners) : List Nat :=
  (List.range listeners.slots.length).filter fun index =>
    (listeners.slots.getD index {}).listener.isSome

/-- The number of listeners. -/
def size (listeners : Listeners) : Nat :=
  listeners.occupied.length

/-- Remove every listener, in slot order. -/
def clear (listeners : Listeners) : Listeners :=
  listeners.occupied.foldl vacate listeners

/-- The listener in a slot, if it is registered for signals of the kind. -/
def hearing? (listeners : Listeners) (kind : SignalKind) (index : Nat) : Option Listener :=
  (listeners.slots.getD index {}).listener.filter (·.kind == kind)

/-- Count a call of the listener in a slot. -/
def countCall (listeners : Listeners) (index : Nat) (listener : Listener) : Listeners :=
  let slot := listeners.slots.getD index {}
  { listeners with
    slots := listeners.slots.set index
      { slot with listener := some { listener with calls := listener.calls + 1 } } }

/-- Let the listeners in the given slots hear a signal, one after another, up to the first
that unwinds; says whether one did. -/
def fireEach {σ : Type} (signal : Signal) (react : Reaction → σ → σ) :
    List Nat → Listeners → σ → (Listeners × σ) × Bool
  | [], listeners, world => ((listeners, world), false)
  | index :: rest, listeners, world =>
    match listeners.hearing? signal.kind index with
    | none => fireEach signal react rest listeners world
    | some listener =>
      let world := react listener.reaction world
      let counted := listeners.countCall index listener
      if listener.panics listener.calls then ((counted, world), true)
      else fireEach signal react rest counted world

/-- Let every listener of the signal's kind hear it. -/
def fire {σ : Type} (listeners : Listeners) (signal : Signal) (react : Reaction → σ → σ)
    (world : σ) : (Listeners × σ) × Bool :=
  fireEach signal react (List.range listeners.slots.length) listeners world

end Listeners

end ReplicaBridge
