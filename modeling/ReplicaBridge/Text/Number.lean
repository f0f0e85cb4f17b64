/-
Module: ReplicaBridge.Text.Number
Purpose: Number texts of the session's messages: hexadecimal addresses and tags, and
  the length of a time window.
Main exports: hexDigits, address, byteTag, window
-/

namespace ReplicaBridge.Text

/-- Lower-case hexadecimal digits, without leading zeros. -/
def hexDigits (value : Nat) : String :=
  String.ofList (Nat.toDigits 16 value)

/-- An address as `0x` and its hexadecimal digits. -/
def address (value : Nat) : String :=
  "0x" ++ hexDigits value

/-- A tag byte as `0x` and two hexadecimal digits. -/
def byteTag (value : UInt8) : String :=
  "0x" ++ (if value < 16 then "0" else "") ++ hexDigits value.toNat

/-- The digits after the point of `thousandths`/1000, trailing zeros dropped. -/
def thousandths (value : Nat) : String :=
  let digits := [value / 100 % 10, value / 10 % 10, value % 10]
  let kept := (digits.reverse.dropWhile (· == 0)).reverse
  String.join (kept.map toString)

/-- A window of so many milliseconds: nanoseconds when empty, milliseconds below a
second, else seconds with the fraction it needs. -/
def window (milliseconds : Nat) : String :=
  if milliseconds = 0 then "0ns"
  else if milliseconds < 1000 then s!"{milliseconds}ms"
  else
    let fraction := thousandths (milliseconds % 1000)
    if fraction.isEmpty then s!"{milliseconds / 1000}s"
    else s!"{milliseconds / 1000}.{fraction}s"

end ReplicaBridge.Text
