/-
Module: ReplicaBridge.Text.Digits
Purpose: Reading digits: one digit of a base up to sixteen, the number behind several, and
  the character with a code point.
Main exports: hexDigit?, isDigitOf, digitsValue, decimal?, codePoint?
-/

namespace ReplicaBridge.Text

/-- The value of a hexadecimal digit. -/
def hexDigit? (char : Char) : Option Nat :=
  if char.isDigit then some (char.toNat - '0'.toNat)
  else if 'a' ≤ char && char ≤ 'f' then some (char.toNat - 'a'.toNat + 10)
  else if 'A' ≤ char && char ≤ 'F' then some (char.toNat - 'A'.toNat + 10)
  else none

/-- The digits of a base. -/
def isDigitOf (base : Nat) (char : Char) : Bool :=
  (hexDigit? char).any (· < base)

/-- The number behind digits of a base. -/
def digitsValue (base : Nat) (digits : List Char) : Nat :=
  digits.foldl (fun number digit => number * base + (hexDigit? digit).getD 0) 0

/-- The number that decimal digits and nothing else write. -/
def decimal? (chars : List Char) : Option Nat :=
  if chars.isEmpty || !chars.all Char.isDigit then none else some (digitsValue 10 chars)

/-- The number behind hexadecimal digits. -/
def hexNumber? (digits : List Char) : Option Nat :=
  digits.foldlM (fun number digit => (hexDigit? digit).map (number * 16 + ·)) 0

/-- The character with the code point that hexadecimal digits give. -/
def codePoint? (digits : List Char) : Option Char :=
  match hexNumber? digits with
  | none => none
  | some code => if code.isValidChar then some (Char.ofNat code) else none

end ReplicaBridge.Text
