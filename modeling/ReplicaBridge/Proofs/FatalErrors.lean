/-
Module: ReplicaBridge.Proofs.FatalErrors
Purpose: Which failures of a request to the host show in the status.  A fatal one does, in
  whatever layer it is found and on whatever thread; a request that succeeds, or that fails
  for another reason, leaves the status flags and the gate as they were.  What closes the gate
  is itself a fatal failure, so a call that is refused at a closed gate shows, too.
Main exports: Params.Gravely, Bridge.alarm, Bridge.Ending, Bridge.Accountable, HostRequest,
  Incident, Bridge.meetAll, Bridge.fatal_errors_surface
-/
import ReplicaBridge.Host.TableStore
import ReplicaBridge.Proofs.HostEffects

namespace ReplicaBridge

open Host (CountedHost Loaded Object ReflectionHost TableStore TypeTag)
open Params (FunctionDescriptor ParameterBlock ParamField ParamSchema Scalar)

/-! ### Structs that do not match -/

namespace Params

/-- What fails here fails fatally. -/
def Gravely {α : Type} (outcome : Except InvokeError α) : Prop :=
  ∀ error, outcome = .error error → error.kind.isFatal = true

section Gravely

variable {α : Type}

theorem gravely_ok (value : α) : Gravely (.ok value) := nofun

theorem gravely_error {error : InvokeError} (grave : error.kind.isFatal = true) :
    Gravely (.error error : Except InvokeError α) := by
  rintro _ ⟨⟩
  exact grave

end Gravely

namespace ParameterBlock

theorem gravely_checkRange (block : ParameterBlock) (offset size : Nat) :
    Gravely (block.checkRange offset size) := by
  unfold checkRange
  split
  · exact gravely_error rfl
  · exact gravely_ok ()

theorem gravely_checkSlot (slot : ParamSlot) (type : ScalarType) :
    Gravely (checkSlot slot type) := by
  unfold checkSlot
  split
  · exact gravely_ok ()
  · exact gravely_error rfl

theorem gravely_writeSlot (block : ParameterBlock) (slot : ParamSlot) (value : Scalar) :
    Gravely (block.writeSlot slot value) := by
  unfold writeSlot write
  cases sized : checkSlot slot value.type with
  | error error => exact gravely_error (gravely_checkSlot slot value.type error sized)
  | ok fits =>
      dsimp only
      cases ranged : block.checkRange slot.offset.toNat value.type.width with
      | error error => exact gravely_error (block.gravely_checkRange _ _ error ranged)
      | ok inside => exact gravely_ok _

theorem gravely_readSlot (block : ParameterBlock) (slot : ParamSlot) (type : ScalarType) :
    Gravely (block.readSlot slot type) := by
  unfold readSlot read
  cases sized : checkSlot slot type with
  | error error => exact gravely_error (gravely_checkSlot slot type error sized)
  | ok fits =>
      dsimp only
      cases ranged : block.checkRange slot.offset.toNat type.width with
      | error error => exact gravely_error (block.gravely_checkRange _ _ error ranged)
      | ok inside => exact gravely_ok _

end ParameterBlock

theorem FunctionDescriptor.gravely_slot (descriptor : FunctionDescriptor) (name : String) :
    Gravely (descriptor.slot name) := by
  unfold slot
  split
  · exact gravely_ok _
  · exact gravely_error rfl

namespace ParamSchema

theorem gravely_writeFields (descriptor : FunctionDescriptor) (block : ParameterBlock)
    (pairs : List (ParamField × Scalar)) : Gravely (writeFields descriptor block pairs) := by
  induction pairs generalizing block with
  | nil => exact gravely_ok block
  | cons pair rest ih =>
      unfold writeFields
      cases found : descriptor.slot pair.1.property with
      | error error => exact gravely_error (descriptor.gravely_slot _ error found)
      | ok slot =>
          dsimp only
          cases written : block.writeSlot slot pair.2 with
          | error error => exact gravely_error (block.gravely_writeSlot slot _ error written)
          | ok after => exact ih after

theorem gravely_encode (schema : ParamSchema) (values : List Scalar)
    (descriptor : FunctionDescriptor) : Gravely (schema.encode values descriptor) := by
  unfold encode FunctionDescriptor.expectSize
  by_cases sized : descriptor.blockSize = schema.size
  · rw [if_pos sized]
    exact gravely_writeFields descriptor _ _
  · rw [if_neg sized]
    exact gravely_error rfl

theorem gravely_readFields (descriptor : FunctionDescriptor) (block : ParameterBlock)
    (pairs : List (ParamField × Scalar)) : Gravely (readFields descriptor block pairs) := by
  induction pairs with
  | nil => exact gravely_ok []
  | cons pair rest ih =>
      unfold readFields
      split
      · cases found : descriptor.slot pair.1.property with
        | error error => exact gravely_error (descriptor.gravely_slot _ error found)
        | ok slot =>
            dsimp only
            cases taken : block.readSlot slot pair.2.type with
            | error error => exact gravely_error (block.gravely_readSlot slot _ error taken)
            | ok value =>
                dsimp only
                cases later : readFields descriptor block rest with
                | error error => exact gravely_error (ih error later)
                | ok values => exact gravely_ok _
      · cases later : readFields descriptor block rest with
        | error error => exact gravely_error (ih error later)
        | ok values => exact gravely_ok _

theorem gravely_decodeOutputs (schema : ParamSchema) (values : List Scalar)
    (descriptor : FunctionDescriptor) (block : ParameterBlock) :
    Gravely (schema.decodeOutputs values descriptor block) :=
  gravely_readFields descriptor block _

end ParamSchema

end Params

/-! ### How a request ends -/

/-- A refusal is fatal if its reason is. -/
def Halt.isFatal : Halt CallError → Bool
  | .refused error => error.isFatal
  | .unwound _ => false

namespace Bridge

variable {H : Type}

/-- What tells of a host that is not the expected build: the status flags, and whether the gate
is closed. -/
def alarm (bridge : Bridge H) : Status × Bool :=
  (bridge.report.status, bridge.gate.disabled)

/-- A closed gate shows in the status. -/
def Accountable (bridge : Bridge H) : Prop :=
  bridge.gate.disabled = true → bridge.report.status.hostUnsupported = true

/-- A request ends in one of two ways.  Either the status flags and the gate are as they were,
and it did not fail fatally; or it did, and the host counts as unsupported. -/
inductive Ending {ε α : Type} (fatal : ε → Bool) (before : Bridge H) :
    Bridge H × Except ε α → Prop
  | quiet {after : Bridge H} {outcome : Except ε α} (same : after.alarm = before.alarm)
      (minor : ∀ error, outcome = .error error → fatal error = false) :
      Ending fatal before (after, outcome)
  | raised {after : Bridge H} {error : ε} (grave : fatal error = true)
      (shows : after.report.status.hostUnsupported = true) :
      Ending fatal before (after, .error error)

theorem alarm_noteAll (bridge : Bridge H) (notices : List Notice) :
    (bridge.noteAll notices).alarm = bridge.alarm := by
  unfold alarm
  rw [status_noteAll, gate_noteAll]

namespace Ending

variable {ε δ α β : Type} {fatal : ε → Bool} {before middle after : Bridge H}

theorem done (same : after.alarm = before.alarm) (value : α) :
    Ending fatal before (after, .ok value) :=
  .quiet same nofun

theorem failed (same : after.alarm = before.alarm) {error : ε} (minor : fatal error = false) :
    Ending fatal before (after, (.error error : Except ε α)) := by
  refine .quiet same ?_
  rintro _ ⟨⟩
  exact minor

/-- A request that succeeded left everything as it was. -/
theorem alarm_eq {value : α} (ending : Ending fatal before (after, .ok value)) :
    after.alarm = before.alarm := by
  cases ending with
  | quiet same minor => exact same

/-- What failed at one step has failed altogether, in whatever terms that is told. -/
theorem error {cause : ε} (ending : Ending fatal before (after, (.error cause : Except ε α)))
    {grave : δ → Bool} {error : δ} (same : grave error = fatal cause) :
    Ending grave before (after, (.error error : Except δ β)) := by
  cases ending with
  | quiet quiet minor => exact .failed quiet (same.trans (minor cause rfl))
  | raised fatal shows => exact .raised (same.trans fatal) shows

/-- What was done before without any trace does not matter. -/
theorem behind {result : Bridge H × Except ε α} (same : middle.alarm = before.alarm)
    (ending : Ending fatal middle result) : Ending fatal before result := by
  cases ending with
  | quiet quiet minor => exact .quiet (quiet.trans same) minor
  | raised grave shows => exact .raised grave shows

theorem accountable {result : Bridge H × Except ε α} (ending : Ending fatal before result)
    (accountable : before.Accountable) : result.1.Accountable := by
  cases ending with
  | quiet same minor =>
      intro closed
      have gate := congrArg Prod.snd same
      have status := congrArg (·.1.hostUnsupported) same
      exact status.trans (accountable (gate.symm.trans closed))
  | raised grave shows => exact fun _ => shows

end Ending

variable [ReflectionHost H] (bridge : Bridge H)

/-! ### Resolving names -/

theorem ending_lookup (name : String) :
    Ending (·.kind.isFatal) bridge (bridge.lookup name) := by
  unfold lookup
  cases bridge.registry.object? name with
  | some object => exact .done rfl object
  | none =>
      dsimp only [Host.CountedHost.find]
      cases Host.findByName? bridge.host.store name with
      | none => apply Ending.failed <;> rfl
      | some object => apply Ending.done; rfl

/-- An entry of another kind raises the alarm and is reported as fatal. -/
theorem ending_checkTag (name : String) (object : Object) (expected : TypeTag) :
    Ending (·.kind.isFatal) bridge (bridge.checkTag name object expected) := by
  unfold checkTag
  dsimp only
  split
  · exact .done rfl ()
  · exact .raised rfl rfl

theorem ending_lookupClass (name : String) :
    Ending (·.kind.isFatal) bridge (bridge.lookupClass name) := by
  have looked := ending_lookup bridge name
  unfold lookupClass lookupAs
  rcases resolved : bridge.lookup name with ⟨found, answer⟩
  rw [resolved] at looked
  cases answer with
  | error error => exact looked.error rfl
  | ok object =>
      have checked := (ending_checkTag found name object .classType).behind looked.alarm_eq
      dsimp only
      rcases verified : found.checkTag name object .classType with ⟨after, verdict⟩
      rw [verified] at checked
      cases verdict with
      | error error => exact checked.error rfl
      | ok fine => exact .done checked.alarm_eq object

theorem ending_lookupFunction (className method : String) :
    Ending (·.kind.isFatal) bridge (bridge.lookupFunction className method) := by
  have looked := ending_lookupClass bridge className
  unfold lookupFunction
  cases bridge.registry.function? className method with
  | some descriptor => exact .done rfl descriptor
  | none =>
      dsimp only
      rcases resolved : bridge.lookupClass className with ⟨found, answer⟩
      rw [resolved] at looked
      cases answer with
      | error error => exact looked.error rfl
      | ok owningClass =>
          dsimp only
          cases ReflectionHost.findFunction found.host.store owningClass method with
          | none => exact .failed looked.alarm_eq rfl
          | some function =>
              have checked := (ending_checkTag found (className ++ "::" ++ method) function
                .function).behind looked.alarm_eq
              dsimp only
              rcases verified : found.checkTag (className ++ "::" ++ method) function .function
                with ⟨after, verdict⟩
              rw [verified] at checked
              cases verdict with
              | error error => exact checked.error rfl
              | ok fine =>
                  apply Ending.done
                  exact (alarm_noteAll after _).trans checked.alarm_eq

theorem ending_instancesOf (className : String) :
    Ending (·.kind.isFatal) bridge (bridge.instancesOf className) := by
  have looked := ending_lookupClass bridge className
  unfold instancesOf
  rcases resolved : bridge.lookupClass className with ⟨found, answer⟩
  rw [resolved] at looked
  cases answer with
  | error error => exact looked.error rfl
  | ok owner =>
      dsimp only
      split
      · exact .failed looked.alarm_eq rfl
      · exact .done looked.alarm_eq _

/-! ### Calling functions -/

omit [ReflectionHost H] in
/-- To close the gate raises the alarm. -/
theorem unsupported_failLayout (error : InvokeError) :
    (bridge.failLayout error).report.status.hostUnsupported = true := rfl

/-- How a call into the host ends, told as a failure of calls. -/
theorem ending_invoke (accountable : bridge.Accountable) (caller : Caller) (target : Object)
    (function : FunctionDescriptor) (block : ParameterBlock) :
    let done := bridge.invoke caller target function block
    Ending Halt.isFatal bridge (done.bridge, done.outcome.mapError (Halt.map .invoke)) := by
  unfold invoke
  cases caller with
  | elsewhere => apply Ending.failed <;> rfl
  | gameThread =>
      dsimp only
      split
      · rename_i closed
        exact .raised rfl (accountable closed)
      · split
        · apply Ending.done
          rfl
        · split
          · exact .raised rfl rfl
          · unfold dispatch
            split
            · exact .raised rfl rfl
            · dsimp only
              split
              · apply Ending.failed <;> rfl
              · apply Ending.done
                rfl

theorem ending_callWith (accountable : bridge.Accountable) (caller : Caller)
    (function : FunctionDescriptor) (target : Object) (schema : ParamSchema)
    (values : List Scalar) :
    Ending Halt.isFatal bridge (bridge.callWith caller function target schema values) := by
  unfold callWith
  cases encoded : schema.encode values function with
  | error error =>
      exact .raised (schema.gravely_encode values function error encoded)
        (bridge.unsupported_failLayout error)
  | ok block =>
      have invoked := bridge.ending_invoke accountable caller target function block
      dsimp only at invoked ⊢
      cases ended : (bridge.invoke caller target function block).outcome with
      | error halt =>
          rw [ended] at invoked
          exact invoked.error rfl
      | ok outcome =>
          rw [ended] at invoked
          have same := invoked.alarm_eq
          cases outcome with
          | skipped => exact .done same _
          | dispatched =>
              dsimp only
              cases decoded : schema.decodeOutputs values function
                  (bridge.invoke caller target function block).block with
              | error error =>
                  exact .raised (schema.gravely_decodeOutputs values function _ error decoded)
                    (unsupported_failLayout _ error)
              | ok values => exact .done same _

theorem ending_call (accountable : bridge.Accountable) (caller : Caller) (className : String)
    (target : Object) (schema : ParamSchema) (values : List Scalar) :
    Ending Halt.isFatal bridge (bridge.call caller className target schema values) := by
  have looked := bridge.ending_lookupFunction className schema.function
  have kept := looked.accountable accountable
  unfold call
  rcases resolved : bridge.lookupFunction className schema.function with ⟨found, answer⟩
  rw [resolved] at looked kept
  cases answer with
  | error error => exact looked.error rfl
  | ok function =>
      exact (found.ending_callWith kept caller function target schema values).behind
        looked.alarm_eq

theorem ending_setCurrentSeason (accountable : bridge.Accountable) (caller : Caller)
    (className : String) (season : Season) :
    Ending Halt.isFatal bridge (bridge.setCurrentSeason caller className season) := by
  have looked := bridge.ending_instancesOf className
  have kept := looked.accountable accountable
  unfold setCurrentSeason
  rcases listed : bridge.instancesOf className with ⟨found, answer⟩
  rw [listed] at looked kept
  cases answer with
  | error error => exact looked.error rfl
  | ok changers =>
      cases changers with
      | nil => exact .failed looked.alarm_eq rfl
      | cons changer others =>
          have called := (found.ending_call kept caller className changer setCurrentSeasonSchema
            [.u8 season.toByte]).behind looked.alarm_eq
          dsimp only
          rcases ended : found.call caller className changer setCurrentSeasonSchema
            [.u8 season.toByte] with ⟨after, outcome⟩
          rw [ended] at called
          cases outcome with
          | error halt => exact called.error rfl
          | ok result => exact .done called.alarm_eq changer

/-- However many schedulers were advanced before one fails, the failure shows. -/
theorem ending_advanceEach (accountable : bridge.Accountable) (caller : Caller)
    (function : FunctionDescriptor) (hours : Int32) (count index : Nat)
    (schedulers : List Object) :
    Ending Halt.isFatal bridge
      (advanceEach caller function hours count index schedulers bridge) := by
  induction schedulers generalizing index bridge with
  | nil => exact .done rfl ()
  | cons scheduler rest ih =>
      have called := bridge.ending_callWith accountable caller function scheduler
        advanceHoursSchema [.i32 hours]
      have kept := called.accountable accountable
      unfold advanceEach
      rcases ended : bridge.callWith caller function scheduler advanceHoursSchema [.i32 hours]
        with ⟨after, outcome⟩
      rw [ended] at called kept
      cases outcome with
      | ok result => exact (ih after kept (index + 1)).behind called.alarm_eq
      | error halt =>
          cases halt with
          | unwound fault => exact called.error rfl
          | refused error =>
              dsimp only
              split
              · exact called.error rfl
              · -- The note about the schedulers that were advanced does not touch the status.
                have noted : Ending Halt.isFatal bridge
                    (after.note (.advanceInterrupted index count hours),
                      (.error (.refused error) : Except _ Unit)) := by
                  cases called with
                  | quiet same minor =>
                      exact .quiet same fun _ failed => minor _ (by cases failed; rfl)
                  | raised grave shows => exact .raised grave shows
                exact noted

theorem ending_advanceHours (accountable : bridge.Accountable) (caller : Caller)
    (className : String) (hours : Int32) :
    Ending Halt.isFatal bridge (bridge.advanceHours caller className hours) := by
  have looked := bridge.ending_lookupFunction className advanceHoursSchema.function
  have kept := looked.accountable accountable
  unfold advanceHours
  rcases resolved : bridge.lookupFunction className advanceHoursSchema.function with
    ⟨found, answer⟩
  rw [resolved] at looked kept
  cases answer with
  | error error => exact looked.error rfl
  | ok function =>
      have enumerated := (found.ending_instancesOf className).behind looked.alarm_eq
      have still := enumerated.accountable accountable
      dsimp only
      rcases listed : found.instancesOf className with ⟨asked, schedulers⟩
      rw [listed] at enumerated still
      cases schedulers with
      | error error => exact enumerated.error rfl
      | ok schedulers =>
          have advanced := (asked.ending_advanceEach still caller function hours
            schedulers.length 0 schedulers).behind enumerated.alarm_eq
          dsimp only
          rcases ended : advanceEach caller function hours schedulers.length 0 schedulers asked
            with ⟨after, outcome⟩
          rw [ended] at advanced
          cases outcome with
          | error halt => exact advanced.error rfl
          | ok done => exact .done advanced.alarm_eq schedulers.length

end Bridge

/-! ### Requests one after another -/

/-- What can be asked of the host. -/
inductive HostRequest where
  | call (className : String) (target : Object) (schema : ParamSchema) (values : List Scalar)
  | setCurrentSeason (className : String) (season : Season)
  | advanceHours (className : String) (hours : Int32)

/-- What can happen to the way into the host. -/
inductive Incident (H : Type) where
  | request (caller : Caller) (request : HostRequest)
  /-- The host's objects came, went or changed. -/
  | hostChanges (store : H)
  /-- The host signalled that it rebuilt its store. -/
  | registryChanged
  /-- The connection should be dropped, for a reason that is not the host's. -/
  | disconnect (reason : String)
  /-- The session was torn down, and what belongs to it was reset in the status. -/
  | statusCleared

namespace Bridge

variable {H : Type} [ReflectionHost H] (bridge : Bridge H)

/-- Make a request; only how it ended is told. -/
def request (caller : Caller) : HostRequest → Bridge H × Except (Halt CallError) Unit
  | .call className target schema values =>
    let (after, outcome) := bridge.call caller className target schema values
    (after, outcome.map fun _ => ())
  | .setCurrentSeason className season =>
    let (after, outcome) := bridge.setCurrentSeason caller className season
    (after, outcome.map fun _ => ())
  | .advanceHours className hours =>
    let (after, outcome) := bridge.advanceHours caller className hours
    (after, outcome.map fun _ => ())

/-- What an incident leaves. -/
def meet : Incident H → Bridge H
  | .request caller asked => (bridge.request caller asked).1
  | .hostChanges store => { bridge with host := { bridge.host with store } }
  | .registryChanged => bridge.registryChanged
  | .disconnect reason => { bridge with report := bridge.report.requestDisconnect reason }
  | .statusCleared =>
    { bridge with report := { bridge.report with status := bridge.report.status.clear } }

/-- What incidents leave one after another. -/
def meetAll (incidents : List (Incident H)) : Bridge H :=
  incidents.foldl meet bridge

omit [ReflectionHost H] in
/-- Whether a request ended well does not depend on what it answered. -/
theorem Ending.map {ε α β : Type} {fatal : ε → Bool} {before after : Bridge H}
    {outcome : Except ε α} (ending : Ending fatal before (after, outcome)) (change : α → β) :
    Ending fatal before (after, outcome.map change) := by
  cases outcome with
  | error error => exact ending.error rfl
  | ok value => exact .done ending.alarm_eq (change value)

theorem ending_request (accountable : bridge.Accountable) (caller : Caller)
    (asked : HostRequest) : Ending Halt.isFatal bridge (bridge.request caller asked) := by
  cases asked with
  | call className target schema values =>
      exact (bridge.ending_call accountable caller className target schema values).map _
  | setCurrentSeason className season =>
      exact (bridge.ending_setCurrentSeason accountable caller className season).map _
  | advanceHours className hours =>
      exact (bridge.ending_advanceHours accountable caller className hours).map _

theorem Accountable.meet {bridge : Bridge H} (accountable : bridge.Accountable)
    (incident : Incident H) : (bridge.meet incident).Accountable := by
  cases incident with
  | request caller asked =>
      exact (bridge.ending_request accountable caller asked).accountable accountable
  | hostChanges store => exact accountable
  | registryChanged => exact accountable
  | disconnect reason =>
      intro closed
      have asked := bridge.report.status_requestDisconnect reason
      exact (congrArg Status.hostUnsupported asked).trans (accountable closed)
  | statusCleared => exact accountable

theorem Accountable.meetAll {bridge : Bridge H} (accountable : bridge.Accountable)
    (incidents : List (Incident H)) : (bridge.meetAll incidents).Accountable := by
  induction incidents generalizing bridge with
  | nil => exact accountable
  | cons incident rest ih => exact ih (accountable.meet incident)

end Bridge

/-- The failures of a request that are not fatal: something is not there yet, or the request was
made on another thread. -/
inductive CallError.Recoverable : CallError → Prop
  | objectNotFound (name : String) : Recoverable (.registry (.notFound name))
  | functionNotFound (className method : String) :
      Recoverable (.registry (.functionNotFound className method))
  | noInstances (className : String) : Recoverable (.registry (.noInstances className))
  | wrongThread (function : String) : Recoverable (.invoke (.wrongThread function))

/-- Every other failure is fatal. -/
theorem CallError.isFatal_eq_false_iff (error : CallError) :
    error.isFatal = false ↔ error.Recoverable := by
  constructor
  · intro minor
    cases error with
    | registry error =>
        cases error with
        | notFound name => exact .objectNotFound name
        | functionNotFound className method => exact .functionNotFound className method
        | noInstances className => exact .noInstances className
        | typeMismatch name expected found => cases minor
    | invoke error =>
        cases error with
        | wrongThread function => exact .wrongThread function
        | _ => cases minor
  · rintro (_ | _ | _ | _) <;> rfl

namespace Bridge

variable {H : Type} [ReflectionHost H]

/-- Whatever the host does and whatever was asked of it before, a request that fails fatally
leaves the host marked as unsupported; one that succeeds, or that fails because something is not
there yet or because it was made on another thread, leaves the status flags and the gate exactly
as they were. -/
theorem fatal_errors_surface (host : CountedHost H) (report : Report)
    (incidents : List (Incident H)) (caller : Caller) (asked : HostRequest) :
    let before := ({ host, report } : Bridge H).meetAll incidents
    let (after, outcome) := before.request caller asked
    (∀ error, outcome = .error (.refused error) → error.isFatal = true →
      after.report.status.contains 1 = true) ∧
    (∀ error, outcome = .error (.refused error) → error.isFatal = false →
      error.Recoverable ∧ after.report.status = before.report.status ∧
        after.gate.disabled = before.gate.disabled) ∧
    (outcome = .ok () →
      after.report.status = before.report.status ∧ after.gate.disabled = before.gate.disabled) := by
  intro before
  have fresh : Accountable ({ host, report } : Bridge H) := nofun
  have ending := before.ending_request (fresh.meetAll incidents) caller asked
  rcases answered : before.request caller asked with ⟨after, outcome⟩
  rw [answered] at ending
  dsimp only
  cases ending with
  | quiet same minor =>
      have kept := Prod.mk.inj same
      refine ⟨?_, ?_, fun _ => kept⟩
      · rintro error rfl fatal
        exact absurd (fatal.symm.trans (minor _ rfl)) Bool.false_ne_true.symm
      · rintro error rfl recoverable
        exact ⟨error.isFatal_eq_false_iff.1 recoverable, kept⟩
  | raised grave shows =>
      refine ⟨?_, ?_, nofun⟩
      · rintro error ⟨⟩ fatal
        exact after.report.status.contains_flags.1.trans shows
      · rintro error ⟨⟩ recoverable
        exact absurd (grave.symm.trans recoverable) Bool.false_ne_true.symm

/-- A class that is not there leaves no trace; an instance under the name of a class marks the
host. -/
example :
    let table : TableStore := { slots := [some (.named (Text.utf8 "Game.SeasonChanger") 0)] }
    let fresh : Bridge (Loaded TableStore) := { host := { store := { table } } }
    let absent := fresh.request .elsewhere (.advanceHours "Game.Scheduler" 6)
    let mistaken := fresh.request .gameThread (.setCurrentSeason "Game.SeasonChanger" .winter)
    absent.2.isOk = false ∧ absent.1.alarm = fresh.alarm ∧
      mistaken.2.isOk = false ∧ mistaken.1.report.status.contains 1 = true := by
  decide +kernel

end Bridge

end ReplicaBridge
