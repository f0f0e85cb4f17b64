/-
Module: ReplicaBridge.Season
Purpose: The seasons of the game world and their wire values.
Main exports: Season, Season.ofByte?, Season.toByte, Season.isTarget, Season.targetOfByte?
-/

namespace ReplicaBridge

/-- A season.  `invalid` and `max` bound the range of values: neither is ever applied,
and neither is a valid target. -/
inductive Season where
  | invalid
  | fall
  | winter
  | spring
  | summer
  | max
deriving Repr, Inhabited, DecidableEq

namespace Season

/-- The wire value of a season. -/
def toByte : Season → UInt8
  | .invalid => 0
  | .fall => 1
  | .winter => 2
  | .spring => 3
  | .summer => 4
  | .max => 5

/-- The season of a wire value; values past `max` name none. -/
def ofByte? (value : UInt8) : Option Season :=
  match value.toNat with
  | 0 => some .invalid
  | 1 => some .fall
  | 2 => some .winter
  | 3 => some .spring
  | 4 => some .summer
  | 5 => some .max
  | _ => none

/-- The four seasons that the host can be switched to. -/
def isTarget : Season → Bool
  | .fall | .winter | .spring | .summer => true
  | .invalid | .max => false

/-- The season of a wire value that must name a target. -/
def targetOfByte? (value : UInt8) : Option Season :=
  (ofByte? value).filter isTarget

/-- The name shown in messages. -/
def name : Season → String
  | .invalid => "Invalid"
  | .fall => "Fall"
  | .winter => "Winter"
  | .spring => "Spring"
  | .summer => "Summer"
  | .max => "Max"

end Season

end ReplicaBridge
