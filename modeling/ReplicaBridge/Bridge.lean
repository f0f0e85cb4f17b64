/-
Module: ReplicaBridge.Bridge
Purpose: The way into the host: names are resolved through the registry, and functions
  are called through the gate.  A host that does not look as expected is reported as
  unsupported.
Main exports: Bridge, Bridge.lookup, Bridge.lookupFunction, Bridge.instancesOf,
  Bridge.invoke, Bridge.call
-/
import ReplicaBridge.Host.Reflection
import ReplicaBridge.Notice
import ReplicaBridge.Params.Schema
import ReplicaBridge.Registry
import ReplicaBridge.Thread

namespace ReplicaBridge

open Host (Object TypeTag ReflectionHost)
open Params (FunctionDescriptor ParamLayout ParamSlot ParameterBlock ParamSchema Scalar)

/-- The host and everything that stands between a session and it. -/
structure Bridge (H : Type) where
  host : Host.CountedHost H
  report : Report := {}
  registry : Registry := {}
  gate : CallGate := {}

/-- What became of a request to call the host. -/
inductive InvokeOutcome where
  /-- The call was made and came back. -/
  | dispatched
  /-- The target or the function was null; nothing was called. -/
  | skipped
deriving Repr, Inhabited, DecidableEq

namespace InvokeOutcome

def name : InvokeOutcome → String
  | .dispatched => "Dispatched"
  | .skipped => "Skipped"

end InvokeOutcome

namespace Bridge

variable {H : Type}

/-- Add a notice to the report. -/
def note (bridge : Bridge H) (notice : Notice) : Bridge H :=
  { bridge with report := bridge.report.note notice }

/-- Add notices to the report. -/
def noteAll (bridge : Bridge H) (notices : List Notice) : Bridge H :=
  notices.foldl note bridge

/-- Close the gate for good and report the host as unsupported. -/
def failLayout (bridge : Bridge H) (error : InvokeError) : Bridge H :=
  let noted := if bridge.gate.disabled then bridge else bridge.note (.hostCallsDisabled error)
  { noted with
    gate := { noted.gate with disabled := true }
    report := noted.report.raiseUnsupported error.message }

/-- Forget every resolved name and function: the host rebuilt its store. -/
def registryChanged (bridge : Bridge H) : Bridge H :=
  { bridge with registry := bridge.registry.forget }.note
    (.registryDropped bridge.registry.objects.length bridge.registry.functions.length)

variable [ReflectionHost H]

/-! ### Resolving names -/

/-- Resolve a full name.  A name is walked for until it is found; from then on its handle
is kept. -/
def lookup (bridge : Bridge H) (name : String) : Bridge H × Except RegistryError Object :=
  match bridge.registry.object? name with
  | some object => (bridge, .ok object)
  | none =>
    let (host, found) := bridge.host.find name
    let bridge := { bridge with host, registry := bridge.registry.countScan }
    match found with
    | none =>
      (bridge.note (.objectMissing name (ReflectionHost.isReady host.store)),
        .error (.notFound name))
    | some object =>
      ({ bridge with registry := bridge.registry.keepObject name object }.note
        (.objectResolved name object), .ok object)

/-- Check the kind of an entry.  Another kind means that the host is not the build this
bridge was made for. -/
def checkTag (bridge : Bridge H) (name : String) (object : Object) (expected : TypeTag) :
    Bridge H × Except RegistryError Unit :=
  let found := ReflectionHost.typeTag bridge.host.store object
  if found = expected then (bridge, .ok ())
  else
    let error := RegistryError.typeMismatch name expected found
    ({ bridge with report := bridge.report.raiseUnsupported error.message }, .error error)

/-- Resolve a name to an entry of the given kind. -/
def lookupAs (bridge : Bridge H) (name : String) (expected : TypeTag) :
    Bridge H × Except RegistryError Object :=
  match bridge.lookup name with
  | (bridge, .error error) => (bridge, .error error)
  | (bridge, .ok object) =>
    match bridge.checkTag name object expected with
    | (bridge, .error error) => (bridge, .error error)
    | (bridge, .ok ()) => (bridge, .ok object)

/-- Resolve the name of a class. -/
def lookupClass (bridge : Bridge H) (name : String) : Bridge H × Except RegistryError Object :=
  bridge.lookupAs name .classType

/-- The notices about parameters that cannot be read. -/
def unreadableNotices (store : H) (function : Object) : List Notice :=
  (Host.unreadableProperties store function).map (Notice.propertyUnreadable · function)

/-- Resolve a method of a class and the layout of its parameters. -/
def lookupFunction (bridge : Bridge H) (className method : String) :
    Bridge H × Except RegistryError FunctionDescriptor :=
  match bridge.registry.function? className method with
  | some descriptor => (bridge, .ok descriptor)
  | none =>
    match bridge.lookupClass className with
    | (bridge, .error error) => (bridge, .error error)
    | (bridge, .ok owningClass) =>
      match ReflectionHost.findFunction bridge.host.store owningClass method with
      | none => (bridge, .error (.functionNotFound className method))
      | some function =>
        match bridge.checkTag (className ++ "::" ++ method) function .function with
        | (bridge, .error error) => (bridge, .error error)
        | (bridge, .ok ()) =>
          let store := bridge.host.store
          let layout := ParamLayout.ofProperties (Host.readableProperties store function)
          let descriptor : FunctionDescriptor :=
            { owningClass, function, className, name := method, layout }
          let noted := (bridge.noteAll (unreadableNotices store function)).note
            (.functionResolved className method layout.slots.length layout.size.toNat)
          ({ noted with registry := noted.registry.keepFunction className method descriptor },
            .ok descriptor)

/-- Every live instance of a class, of which there must be one. -/
def instancesOf (bridge : Bridge H) (className : String) :
    Bridge H × Except RegistryError (List Object) :=
  match bridge.lookupClass className with
  | (bridge, .error error) => (bridge, .error error)
  | (bridge, .ok owner) =>
    match Host.instances bridge.host.store owner with
    | [] => (bridge, .error (.noInstances className))
    | found => (bridge, .ok found)

/-! ### Calling functions -/

/-- Copy output slots of a frame that came back into the caller's block, up to the first
that does not lie in the block, which unwinds. -/
def copyOutputs (frame : Bytes) : List ParamSlot → Bytes → Except Fault Bytes
  | [], block => .ok block
  | slot :: rest, block =>
    let start := slot.offset.toNat
    let stop := slot.stop.toNat
    match Fault.ofRange? start stop block.length with
    | some fault => .error fault
    | none =>
      copyOutputs frame rest
        (Bytes.overwrite block start (Bytes.slice frame start (stop - start)))

/-- The result of an invocation: the bridge, the caller's block and what happened. -/
structure Invocation (H : Type) where
  bridge : Bridge H
  block : ParameterBlock
  outcome : Except (Halt InvokeError) InvokeOutcome

/-- Count a call that was made and came back. -/
def countCall (bridge : Bridge H) : Bridge H :=
  { bridge with gate := { bridge.gate with dispatched := bridge.gate.dispatched + 1 } }

/-- Dispatch a call that passed every check.  A host that faults closes the gate; outputs
that cannot be taken over unwind, and the call is then not counted. -/
def dispatch (bridge : Bridge H) (target : Object) (function : FunctionDescriptor)
    (block : ParameterBlock) : Invocation H :=
  match ReflectionHost.dispatch bridge.host.store target function.function block.bytes with
  | (store, none) =>
    let error := InvokeError.hostFault function.name
    { bridge := { bridge with host := { bridge.host with store } }.failLayout error
      block
      outcome := .error (.refused error) }
  | (store, some frame) =>
    let bridge := { bridge with host := { bridge.host with store } }
    match copyOutputs frame function.layout.outputs block.bytes with
    | .error fault => { bridge, block, outcome := .error (.unwound fault) }
    | .ok bytes => { bridge := bridge.countCall, block := { bytes }, outcome := .ok .dispatched }

/-- Call a function on a target.  The call must come from the game thread, through an open
gate, with a block of exactly the function's size; a null target or function is skipped. -/
def invoke (bridge : Bridge H) (caller : Caller) (target : Object)
    (function : FunctionDescriptor) (block : ParameterBlock) : Invocation H :=
  match caller with
  | .elsewhere =>
    { bridge := bridge.note (.threadViolation function.name)
      block
      outcome := .error (.refused (.wrongThread function.name)) }
  | .gameThread =>
    if bridge.gate.disabled then { bridge, block, outcome := .error (.refused .disabled) }
    else if target.isNull || function.function.isNull then
      { bridge := bridge.note (.callSkipped function.name target function.function)
        block
        outcome := .ok .skipped }
    else if block.length ≠ function.blockSize then
      let error := InvokeError.sizeMismatch function.name function.blockSize block.length
      { bridge := bridge.failLayout error, block, outcome := .error (.refused error) }
    else bridge.dispatch target function block

/-- What a typed call leaves: what happened, and the values of the struct. -/
structure CallResult where
  outcome : InvokeOutcome
  values : List Scalar
deriving Repr, Inhabited, DecidableEq

/-- Make a typed call of a resolved function.  A struct that does not match the host's
layout closes the gate. -/
def callWith (bridge : Bridge H) (caller : Caller) (function : FunctionDescriptor)
    (target : Object) (schema : ParamSchema) (values : List Scalar) :
    Bridge H × Except (Halt CallError) CallResult :=
  match schema.encode values function with
  | .error error => (bridge.failLayout error, .error (.refused (.invoke error)))
  | .ok block =>
    let done := bridge.invoke caller target function block
    match done.outcome with
    | .error halt => (done.bridge, .error (halt.map .invoke))
    | .ok .skipped => (done.bridge, .ok { outcome := .skipped, values })
    | .ok .dispatched =>
      match schema.decodeOutputs values function done.block with
      | .error error => (done.bridge.failLayout error, .error (.refused (.invoke error)))
      | .ok values => (done.bridge, .ok { outcome := .dispatched, values })

/-- Make a typed call of a method of a class. -/
def call (bridge : Bridge H) (caller : Caller) (className : String) (target : Object)
    (schema : ParamSchema) (values : List Scalar) :
    Bridge H × Except (Halt CallError) CallResult :=
  match bridge.lookupFunction className schema.function with
  | (bridge, .error error) => (bridge, .error (.refused (.registry error)))
  | (bridge, .ok function) => bridge.callWith caller function target schema values

end Bridge

end ReplicaBridge
