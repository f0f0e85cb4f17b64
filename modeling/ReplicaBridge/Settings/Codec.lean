/-
Module: ReplicaBridge.Settings.Codec
Purpose: Settings as a TOML document.  Every field has a default and unknown keys mean
  nothing, so that partial documents are fine.
Main exports: Settings.toDocument, Settings.render?, Settings.ofValue?, Settings.edit?,
  Settings.parse?
-/
import ReplicaBridge.Settings.Basic
import ReplicaBridge.Toml.Reader
import ReplicaBridge.Toml.Writer

namespace ReplicaBridge

open Toml (Value)

/-! ### Writing -/

namespace ReplicationSettings

def toPairs (settings : ReplicationSettings) : Toml.Pairs :=
  [ ("pending_update_ticks", .integer settings.pendingUpdateTicks)
  , ("invalid_burst_threshold", .integer settings.invalidBurstThreshold)
  , ("invalid_burst_window_ms", .integer settings.invalidBurstWindowMs)
  , ("max_chat_length", .integer settings.maxChatLength) ]

end ReplicationSettings

namespace SchedulerSettings

def toPairs (settings : SchedulerSettings) : Toml.Pairs :=
  [("soft_cap", .integer settings.softCap)]

end SchedulerSettings

namespace ReflectionSettings

def toPairs (settings : ReflectionSettings) : Toml.Pairs :=
  [ ("season_changer_class", .text settings.seasonChangerClass)
  , ("scheduler_class", .text settings.schedulerClass) ]

end ReflectionSettings

namespace Settings

/-- The document of the settings, with every field. -/
def toDocument (settings : Settings) : Toml.Document :=
  { pairs :=
      [ ("version", .integer settings.version)
      , ("debug", .boolean settings.debug)
      , ("log_filter", .text settings.logFilter) ]
    sections :=
      [ { name := "replication", pairs := settings.replication.toPairs }
      , { name := "scheduler", pairs := settings.scheduler.toPairs }
      , { name := "reflection", pairs := settings.reflection.toPairs } ] }

/-- The text of the settings; a number that does not fit a document has none. -/
def render? (settings : Settings) : Option String :=
  settings.toDocument.render?

end Settings

/-! ### Reading -/

/-- The fields of a group of settings as a document gives them. -/
inductive GivenFields where
  | named (entries : List (String × Value))
  | inOrder (values : List Value)

namespace GivenFields

/-- A group is given as a table, or as an array of its fields in order.  A date counts as a
table of keys that mean nothing. -/
def ofValue? : Value → Option GivenFields
  | .table entries => some (.named entries)
  | .array values => some (.inOrder values)
  | .moment _ => some (.named [])
  | _ => none

/-- The value given for a field, if there is one. -/
def get? (fields : GivenFields) (position : Nat) (name : String) : Option Value :=
  match fields with
  | .named entries => entries.lookup name
  | .inOrder values => values[position]?

end GivenFields

/-- Read a field: a missing one has its default, and one of another kind fails. -/
def readField {α : Type} (default : α) (read : Value → Option α) : Option Value → Option α
  | none => some default
  | some value => read value

/-- A number from zero to a bound. -/
def natUpTo (bound : Nat) : Value → Option Nat
  | .integer value => if 0 ≤ value && value ≤ Int.ofNat bound then some value.toNat else none
  | _ => none

/-- The bounds of numbers of 32 and of 64 bits. -/
def maxWord : Nat := (1 <<< 32) - 1

@[inherit_doc maxWord]
def maxLongWord : Nat := (1 <<< 64) - 1

def boolean? : Value → Option Bool
  | .boolean value => some value
  | _ => none

def text? : Value → Option String
  | .text value => some value
  | _ => none

namespace ReplicationSettings

def ofValue? (value : Value) : Option ReplicationSettings := do
  let fields ← GivenFields.ofValue? value
  let usual : ReplicationSettings := {}
  let pendingUpdateTicks ←
    readField usual.pendingUpdateTicks (natUpTo maxWord) (fields.get? 0 "pending_update_ticks")
  let invalidBurstThreshold ←
    readField usual.invalidBurstThreshold (natUpTo maxWord)
      (fields.get? 1 "invalid_burst_threshold")
  let invalidBurstWindowMs ←
    readField usual.invalidBurstWindowMs (natUpTo maxLongWord)
      (fields.get? 2 "invalid_burst_window_ms")
  let maxChatLength ←
    readField usual.maxChatLength (natUpTo maxLongWord) (fields.get? 3 "max_chat_length")
  return { pendingUpdateTicks, invalidBurstThreshold, invalidBurstWindowMs, maxChatLength }

end ReplicationSettings

namespace SchedulerSettings

def ofValue? (value : Value) : Option SchedulerSettings := do
  let fields ← GivenFields.ofValue? value
  let usual : SchedulerSettings := {}
  let softCap ← readField usual.softCap (natUpTo maxLongWord) (fields.get? 0 "soft_cap")
  return { softCap }

end SchedulerSettings

namespace ReflectionSettings

def ofValue? (value : Value) : Option ReflectionSettings := do
  let fields ← GivenFields.ofValue? value
  let usual : ReflectionSettings := {}
  let seasonChangerClass ←
    readField usual.seasonChangerClass text? (fields.get? 0 "season_changer_class")
  let schedulerClass ← readField usual.schedulerClass text? (fields.get? 1 "scheduler_class")
  return { seasonChangerClass, schedulerClass }

end ReflectionSettings

namespace Settings

/-- The settings that a document gives. -/
def ofValue? (value : Value) : Option Settings := do
  let fields ← GivenFields.ofValue? value
  let usual : Settings := {}
  let version ← readField usual.version (natUpTo maxWord) (fields.get? 0 "version")
  let debug ← readField usual.debug boolean? (fields.get? 1 "debug")
  let logFilter ← readField usual.logFilter text? (fields.get? 2 "log_filter")
  let replication ←
    readField usual.replication ReplicationSettings.ofValue? (fields.get? 3 "replication")
  let scheduler ← readField usual.scheduler SchedulerSettings.ofValue? (fields.get? 4 "scheduler")
  let reflection ←
    readField usual.reflection ReflectionSettings.ofValue? (fields.get? 5 "reflection")
  return { version, debug, logFilter, replication, scheduler, reflection }

/-- Settings with some values changed, by their keys; none if a value does not fit. -/
def edit? (settings : Settings) (change : String → Toml.Scalar → Toml.Scalar) :
    Option Settings :=
  ofValue? (settings.toDocument.map change).toValue

/-- The settings of a text. -/
def parse? (text : String) : Option Settings :=
  (Toml.parse? text).bind ofValue?

end Settings

end ReplicaBridge
