/-
Module: ReplicaBridge.Error
Purpose: Every way in which the bridge can fail, the text of each failure, and the class
  that decides how the session reacts to it.
Main exports: HostError, RegistryError, InvokeError, ReplicaError, ChannelError,
  SettingsError, CallError, ErrorClass, Failure
-/
import ReplicaBridge.Bits.Stream
import ReplicaBridge.Host.Object
import ReplicaBridge.Wire.Kind

namespace ReplicaBridge

open Bits (StreamError)
open Host (TypeTag)
open Wire (MessageKind)

/-- How a failure is handled. -/
inductive ErrorClass where
  /-- A host object is missing; the effect is tried again on later frames. -/
  | notFoundYet
  /-- A message failed its checks; it is dropped and counted. -/
  | invalidMessage
  /-- An update for an entity that does not exist yet. -/
  | outOfOrder
  /-- The host is not the build this bridge was made for. -/
  | layoutMismatch
  /-- Work for the game thread was attempted elsewhere. -/
  | threadViolation
  /-- Loading or configuration failed. -/
  | setup
deriving Repr, Inhabited, DecidableEq

namespace ErrorClass

/-- After a fatal failure the host is not called any more. -/
def isFatal : ErrorClass → Bool
  | .layoutMismatch => true
  | _ => false

def name : ErrorClass → String
  | .notFoundYet => "NotFoundYet"
  | .invalidMessage => "InvalidMessage"
  | .outOfOrder => "OutOfOrder"
  | .layoutMismatch => "LayoutMismatch"
  | .threadViolation => "ThreadViolation"
  | .setup => "Setup"

end ErrorClass

/-- What every failure that callers see tells about itself. -/
class Failure (ε : Type) where
  name : ε → String
  kind : ε → ErrorClass
  message : ε → String

/-! ### Loading the host and starting a session -/

/-- Why the host could not be loaded or a session could not be started. -/
inductive HostError where
  | nullTable
  | nullEntry (entry : String)
  | versionMismatch (expected found : Nat)
  | notReady
  | unsupported
  | alreadyInitialized
deriving Repr, Inhabited, DecidableEq

namespace HostError

def name : HostError → String
  | .nullTable => "NullTable"
  | .nullEntry _ => "NullEntry"
  | .versionMismatch _ _ => "VersionMismatch"
  | .notReady => "NotReady"
  | .unsupported => "Unsupported"
  | .alreadyInitialized => "AlreadyInitialized"

def kind : HostError → ErrorClass
  | .versionMismatch _ _ | .unsupported => .layoutMismatch
  | _ => .setup

def message : HostError → String
  | .nullTable => "Host API table is null"
  | .nullEntry entry => s!"Host API entry is null: {entry}"
  | .versionMismatch expected found =>
    s!"Host API version mismatch: expected {expected}, found {found}"
  | .notReady => "Host registry is not ready"
  | .unsupported => "Host version unsupported"
  | .alreadyInitialized => "Host already initialized"

instance : Failure HostError := ⟨name, kind, message⟩

end HostError

/-! ### Looking things up in the host -/

/-- Why a name could not be resolved. -/
inductive RegistryError where
  | notFound (name : String)
  | functionNotFound (className method : String)
  | noInstances (className : String)
  | typeMismatch (name : String) (expected found : TypeTag)
deriving Repr, Inhabited, DecidableEq

namespace RegistryError

def name : RegistryError → String
  | .notFound _ => "NotFound"
  | .functionNotFound _ _ => "FunctionNotFound"
  | .noInstances _ => "NoInstances"
  | .typeMismatch _ _ _ => "TypeMismatch"

def kind : RegistryError → ErrorClass
  | .typeMismatch _ _ _ => .layoutMismatch
  | _ => .notFoundYet

def message : RegistryError → String
  | .notFound name => s!"Object not found: {name}"
  | .functionNotFound className method => s!"Function not found: {className}::{method}"
  | .noInstances className => s!"No live instances of {className}"
  | .typeMismatch name expected found =>
    s!"{name} is a {found.name}, expected {expected.name}"

instance : Failure RegistryError := ⟨name, kind, message⟩

end RegistryError

/-! ### Calling the host -/

/-- Why a host call was not made, or did not come back. -/
inductive InvokeError where
  | wrongThread (function : String)
  | disabled
  | sizeMismatch (function : String) (expected found : Nat)
  | missingParam (function param : String)
  | slotSize (param : String) (expected found : Nat)
  | outOfBounds (offset size length : Nat)
  | hostFault (function : String)
deriving Repr, Inhabited, DecidableEq

namespace InvokeError

def name : InvokeError → String
  | .wrongThread _ => "WrongThread"
  | .disabled => "Disabled"
  | .sizeMismatch _ _ _ => "SizeMismatch"
  | .missingParam _ _ => "MissingParam"
  | .slotSize _ _ _ => "SlotSize"
  | .outOfBounds _ _ _ => "OutOfBounds"
  | .hostFault _ => "HostFault"

def kind : InvokeError → ErrorClass
  | .wrongThread _ => .threadViolation
  | _ => .layoutMismatch

def message : InvokeError → String
  | .wrongThread function => s!"{function} invoked off the game thread"
  | .disabled => "Host calls disabled after a layout mismatch"
  | .sizeMismatch function expected found =>
    s!"Parameter block size mismatch for {function}: expected {expected}, found {found}"
  | .missingParam function param => s!"Parameter {param} missing from {function}"
  | .slotSize param expected found =>
    s!"Parameter {param} size mismatch: expected {expected}, found {found}"
  | .outOfBounds offset size length =>
    s!"Parameter access out of bounds: offset {offset} size {size} in block of {length}"
  | .hostFault function => s!"Host faulted while dispatching {function}"

instance : Failure InvokeError := ⟨name, kind, message⟩

end InvokeError

/-! ### Messages and replicated state -/

/-- Why a mutation of the replica was refused. -/
inductive ReplicaError where
  | invalidSeason (value : UInt8)
  | invalidAvatar (id : UInt64)
  | noLocalEntity
deriving Repr, Inhabited, DecidableEq

namespace ReplicaError

def name : ReplicaError → String
  | .invalidSeason _ => "InvalidSeason"
  | .invalidAvatar _ => "InvalidAvatar"
  | .noLocalEntity => "NoLocalEntity"

def kind : ReplicaError → ErrorClass
  | _ => .invalidMessage

def message : ReplicaError → String
  | .invalidSeason value => s!"Season {value} is not a valid target"
  | .invalidAvatar id => s!"Avatar state for entity {id} failed validation"
  | .noLocalEntity => "No local entity assigned"

instance : Failure ReplicaError := ⟨name, kind, message⟩

end ReplicaError

end ReplicaBridge

namespace ReplicaBridge.Bits.StreamError

open ReplicaBridge

def name : StreamError → String
  | .truncated _ _ => "Truncated"
  | .unknownTag _ => "UnknownTag"
  | .trailingBits _ => "TrailingBits"
  | .stringTooLong _ _ => "StringTooLong"
  | .invalidUtf8 => "InvalidUtf8"

def kind : StreamError → ErrorClass
  | _ => .invalidMessage

def message : StreamError → String
  | .truncated needed remaining =>
    s!"Stream truncated: needed {needed} bits, {remaining} remaining"
  | .unknownTag tag => "Unknown message tag " ++ Text.byteTag tag
  | .trailingBits count => s!"{count} trailing bits after message"
  | .stringTooLong length limit => s!"String of {length} bytes exceeds limit of {limit}"
  | .invalidUtf8 => "String is not valid UTF-8"

instance : Failure StreamError := ⟨name, kind, message⟩

end ReplicaBridge.Bits.StreamError

namespace ReplicaBridge

open Bits (StreamError)
open Wire (MessageKind)

/-- Why the channel refused a frame or something to send. -/
inductive ChannelError where
  | closed
  | malformed (error : StreamError)
  | invalid (kind : MessageKind)
  | chatTooLong (length limit : Nat)
  | replica (error : ReplicaError)
deriving Repr, Inhabited, DecidableEq

namespace ChannelError

def name : ChannelError → String
  | .closed => "Closed"
  | .malformed _ => "Malformed"
  | .invalid _ => "Invalid"
  | .chatTooLong _ _ => "ChatTooLong"
  | .replica _ => "Mirror"

def kind : ChannelError → ErrorClass
  | .closed => .setup
  | .replica error => error.kind
  | _ => .invalidMessage

def message : ChannelError → String
  | .closed => "Channel closed"
  | .malformed error => "Malformed frame: " ++ error.message
  | .invalid kind => s!"Invalid {kind.name} message"
  | .chatTooLong length limit => s!"Chat message of {length} bytes exceeds limit of {limit}"
  | .replica error => error.message

instance : Failure ChannelError := ⟨name, kind, message⟩

end ChannelError

/-! ### Settings -/

/-- Why settings could not be read or written. -/
inductive SettingsError where
  | io
  | parse
  | serialize
  | noDirectory
deriving Repr, Inhabited, DecidableEq

namespace SettingsError

def name : SettingsError → String
  | .io => "IoError"
  | .parse => "ParseError"
  | .serialize => "SerializeError"
  | .noDirectory => "NoConfigDirectory"

def kind : SettingsError → ErrorClass
  | _ => .setup

end SettingsError

/-! ### All of them -/

/-- A failure of a call into the host: the name did not resolve, or the call failed. -/
inductive CallError where
  | registry (error : RegistryError)
  | invoke (error : InvokeError)
deriving Repr, Inhabited, DecidableEq

namespace CallError

def name : CallError → String
  | .registry error => error.name
  | .invoke error => error.name

def kind : CallError → ErrorClass
  | .registry error => error.kind
  | .invoke error => error.kind

def message : CallError → String
  | .registry error => error.message
  | .invoke error => error.message

/-- A fatal failure means that the host is not the build this bridge was made for. -/
def isFatal (error : CallError) : Bool :=
  error.kind.isFatal

instance : Failure CallError := ⟨name, kind, message⟩

end CallError

end ReplicaBridge
