/-
Module: ReplicaBridge.Host.Reflection
Purpose: The interface to a host's reflection store, and the walks over the store that
  every host shares: finding an entry by its full name and the live instances of a class.
Main exports: ReflectionHost, CountedHost, liveObjects, findByName?, instances,
  CountedHost.find
-/
import ReplicaBridge.Bytes
import ReplicaBridge.Host.Object

namespace ReplicaBridge.Host

/-- What a reflection store answers.  Questions leave the store as it is; only a
dispatched call may change it. -/
class ReflectionHost (H : Type) where
  /-- The store is populated. -/
  isReady : H → Bool
  /-- The number of slots in the object array. -/
  objectCount : H → Nat
  /-- The entry in a slot, if it is in use. -/
  objectAt : H → Nat → Option Object
  /-- The dotted full name of an entry. -/
  fullName : H → Object → Option String
  /-- How many name queries the host is put to for that answer. -/
  nameCost : H → Object → Nat
  classOf : H → Object → Option Object
  typeTag : H → Object → TypeTag
  /-- The entry is a class default or an archetype, not a live instance. -/
  isTemplate : H → Object → Bool
  /-- The method of a class by its name. -/
  findFunction : H → Object → String → Option Object
  /-- The parameters of a function in chain order; `none` where one is unreadable. -/
  properties : H → Object → List (Option Property)
  /-- Run a function on a target.  The answer is the parameter frame as the call left it,
  or `none` if the host faulted. -/
  dispatch : H → (target function : Object) → (frame : Bytes) → H × Option Bytes
  /-- A call writes its frame in place. -/
  length_of_dispatch : ∀ host target function frame after left,
    dispatch host target function frame = (after, some left) → left.length = frame.length

section Walks

variable {H : Type} [ReflectionHost H]

open ReflectionHost

/-- The entries in use, in slot order. -/
def liveObjects (store : H) : List Object :=
  (List.range (objectCount store)).filterMap (objectAt store)

/-- The first live entry of exactly the given full name; none before the store is
populated. -/
def findByName? (store : H) (name : String) : Option Object :=
  if isReady store then (liveObjects store).find? (fun object => fullName store object == some name)
  else none

/-- The name queries of a search through the entries, up to the first hit. -/
def searchCost (store : H) (name : String) : List Object → Nat
  | [] => 0
  | object :: rest =>
    nameCost store object
      + if fullName store object == some name then 0 else searchCost store name rest

/-- The name queries of a walk for a name. -/
def findCost (store : H) (name : String) : Nat :=
  if isReady store then searchCost store name (liveObjects store) else 0

/-- An entry is a live instance of exactly the class. -/
def isInstance (store : H) (className object : Object) : Bool :=
  typeTag store object == .object && classOf store object == some className
    && !isTemplate store object

/-- Every live instance of a class, in slot order; none before the store is populated. -/
def instances (store : H) (className : Object) : List Object :=
  if isReady store && !className.isNull then (liveObjects store).filter (isInstance store className)
  else []

/-- The parameters that can be read. -/
def readableProperties (store : H) (function : Object) : List Property :=
  (properties store function).filterMap id

/-- The chain positions of the parameters that cannot be read. -/
def unreadableProperties (store : H) (function : Object) : List Nat :=
  ((properties store function).zipIdx.filter (fun (property, _) => property.isNone)).map (·.2)

end Walks

/-- A store together with the count of name queries it was put to. -/
structure CountedHost (H : Type) where
  store : H
  nameQueries : Nat := 0

namespace CountedHost

variable {H : Type} [ReflectionHost H]

open ReflectionHost

/-- Find an entry by name, counting the queries. -/
def find (host : CountedHost H) (name : String) : CountedHost H × Option Object :=
  ({ host with nameQueries := host.nameQueries + findCost host.store name },
    findByName? host.store name)

/-- Ask for a full name, counting the queries. -/
def nameOf (host : CountedHost H) (object : Object) : CountedHost H × Option String :=
  ({ host with nameQueries := host.nameQueries + nameCost host.store object },
    fullName host.store object)

end CountedHost

end ReplicaBridge.Host
