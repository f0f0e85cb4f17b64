/-
Module: ReplicaBridge.Registry
Purpose: The names and functions already resolved, and the gate on host calls.
Main exports: Registry, Registry.object?, Registry.function?, Registry.forget, CallGate
-/
import ReplicaBridge.Params.Layout

namespace ReplicaBridge

open Host (Object)
open Params (FunctionDescriptor)

/-- Handles by full name and function descriptors by class and method.  Only successful
lookups are kept, each under a key that was absent. -/
structure Registry where
  objects : List (String × Object) := []
  functions : List ((String × String) × FunctionDescriptor) := []
  /-- The number of store walks made. -/
  scans : Nat := 0
deriving Repr, Inhabited, DecidableEq

namespace Registry

/-- The handle kept for a name. -/
def object? (registry : Registry) (name : String) : Option Object :=
  registry.objects.lookup name

/-- The descriptor kept for a method of a class. -/
def function? (registry : Registry) (className method : String) : Option FunctionDescriptor :=
  registry.functions.lookup (className, method)

/-- Keep a handle. -/
def keepObject (registry : Registry) (name : String) (object : Object) : Registry :=
  { registry with objects := (name, object) :: registry.objects }

/-- Keep a descriptor. -/
def keepFunction (registry : Registry) (className method : String)
    (descriptor : FunctionDescriptor) : Registry :=
  { registry with functions := ((className, method), descriptor) :: registry.functions }

/-- Count a store walk. -/
def countScan (registry : Registry) : Registry :=
  { registry with scans := registry.scans + 1 }

/-- Forget everything resolved; the count of walks goes on. -/
def forget (registry : Registry) : Registry :=
  { registry with objects := [], functions := [] }

end Registry

/-- The gate on host calls: closed for good by the first layout failure. -/
structure CallGate where
  disabled : Bool := false
  /-- The number of calls that came back. -/
  dispatched : Nat := 0
deriving Repr, Inhabited, DecidableEq

end ReplicaBridge
