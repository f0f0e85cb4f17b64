/-
Module: ReplicaBridge.GameCalls
Purpose: The two host calls that the replicated world makes: switching the season through
  the first season changer, and advancing every scheduler of the world clock.
Main exports: setCurrentSeasonSchema, advanceHoursSchema, Bridge.setCurrentSeason,
  Bridge.advanceHours
-/
import ReplicaBridge.Bridge

namespace ReplicaBridge

open Host (Object ReflectionHost)
open Params (FunctionDescriptor ParamSchema Scalar)

/-- The parameters of the season changer's `SetCurrentSeason`. -/
def setCurrentSeasonSchema : ParamSchema :=
  { ident := "SetCurrentSeasonParams"
    function := "SetCurrentSeason"
    size := 1
    fields := [{ ident := "new_season", typeName := "u8", property := "NewSeason", out := false }] }

/-- The parameters of the scheduler's `AdvanceHours`. -/
def advanceHoursSchema : ParamSchema :=
  { ident := "AdvanceHoursParams"
    function := "AdvanceHours"
    size := 4
    fields := [{ ident := "in_hours", typeName := "i32", property := "InHours", out := false }] }

namespace Bridge

variable {H : Type} [ReflectionHost H]

/-- Switch the host to a season through the first live instance of the changer class. -/
def setCurrentSeason (bridge : Bridge H) (caller : Caller) (className : String)
    (season : Season) : Bridge H × Except (Halt CallError) Object :=
  match bridge.instancesOf className with
  | (bridge, .error error) => (bridge, .error (.refused (.registry error)))
  | (bridge, .ok []) => (bridge, .error (.refused (.registry (.noInstances className))))
  | (bridge, .ok (changer :: _)) =>
    match bridge.call caller className changer setCurrentSeasonSchema [.u8 season.toByte] with
    | (bridge, .error halt) => (bridge, .error halt)
    | (bridge, .ok _) => (bridge, .ok changer)

/-- Advance the schedulers from position `index` of `count` on, in order, up to the first
that fails.  A refusal past the first one is reported. -/
def advanceEach (caller : Caller) (function : FunctionDescriptor) (hours : Int32)
    (count : Nat) :
    (index : Nat) → List Object → Bridge H → Bridge H × Except (Halt CallError) Unit
  | _, [], bridge => (bridge, .ok ())
  | index, scheduler :: rest, bridge =>
    match bridge.callWith caller function scheduler advanceHoursSchema [.i32 hours] with
    | (bridge, .error (.unwound fault)) => (bridge, .error (.unwound fault))
    | (bridge, .error (.refused error)) =>
      (if index = 0 then bridge else bridge.note (.advanceInterrupted index count hours),
        .error (.refused error))
    | (bridge, .ok _) => advanceEach caller function hours count (index + 1) rest bridge

/-- Advance every live scheduler by the hours, in store order; says how many there are.  A
failure stops in the middle and nothing is taken back. -/
def advanceHours (bridge : Bridge H) (caller : Caller) (className : String) (hours : Int32) :
    Bridge H × Except (Halt CallError) Nat :=
  match bridge.lookupFunction className advanceHoursSchema.function with
  | (bridge, .error error) => (bridge, .error (.refused (.registry error)))
  | (bridge, .ok function) =>
    match bridge.instancesOf className with
    | (bridge, .error error) => (bridge, .error (.refused (.registry error)))
    | (bridge, .ok schedulers) =>
      match advanceEach caller function hours schedulers.length 0 schedulers bridge with
      | (bridge, .error halt) => (bridge, .error halt)
      | (bridge, .ok ()) => (bridge, .ok schedulers.length)

end Bridge

end ReplicaBridge
