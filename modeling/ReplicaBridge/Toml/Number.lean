/-
Module: ReplicaBridge.Toml.Number
Purpose: Reading integers and floats.  Integers have 64 bits; a float must not be too large
  to be finite, unless it is negative.
Main exports: integer, float, number
-/
import ReplicaBridge.Toml.Scan
import ReplicaBridge.Toml.Text
import ReplicaBridge.Toml.Value

namespace ReplicaBridge.Toml

open Text (isDigitOf digitsValue)

/-- The digits that go on after a first one; an underscore may stand between two. -/
def moreDigits (isDigit : Char → Bool) : List Char → List Char × List Char
  | '_' :: digit :: rest =>
    if isDigit digit then
      let (digits, left) := moreDigits isDigit rest
      (digit :: digits, left)
    else ([], '_' :: digit :: rest)
  | digit :: rest =>
    if isDigit digit then
      let (digits, left) := moreDigits isDigit rest
      (digit :: digits, left)
    else ([], digit :: rest)
  | [] => ([], [])

/-- Read one digit or more. -/
def digitRun (isDigit : Char → Bool) : Scan (List Char)
  | first :: rest =>
    if isDigit first then
      let (digits, left) := moreDigits isDigit rest
      some (first :: digits, left)
    else none
  | [] => none

/-- Read decimal digits without a leading zero. -/
def wholeDigits : Scan (List Char)
  | '0' :: rest => some (['0'], rest)
  | chars => digitRun Char.isDigit chars

/-- Read a sign; says whether it is a minus. -/
def sign : List Char → Bool × List Char
  | '-' :: rest => (true, rest)
  | '+' :: rest => (false, rest)
  | chars => (false, chars)

/-- An integer of a document. -/
def bounded (value : Int) : Option Value :=
  if minInteger ≤ value && value ≤ maxInteger then some (.integer value) else none

/-- Read an integer of another base than ten, after its mark. -/
def marked (base : Nat) (chars : List Char) : Option (Value × List Char) :=
  match digitRun (isDigitOf base) chars with
  | none => none
  | some (digits, rest) =>
    (bounded (Int.ofNat (digitsValue base digits))).map fun value => (value, rest)

/-- Read a decimal integer. -/
def decimal (chars : List Char) : Option (Value × List Char) :=
  let (negative, unsigned) := sign chars
  match wholeDigits unsigned with
  | none => none
  | some (digits, rest) =>
    let size := Int.ofNat (digitsValue 10 digits)
    (bounded (if negative then -size else size)).map fun value => (value, rest)

/-- Read an integer. -/
def integer : Scan Value
  | '0' :: 'x' :: rest => marked 16 rest
  | '0' :: 'o' :: rest => marked 8 rest
  | '0' :: 'b' :: rest => marked 2 rest
  | chars => decimal chars

/-! ### Floats -/

/-- From here on a double is rounded to infinity: half a step above the greatest one. -/
def overflowBound : Nat := (1 <<< 1024) - (1 <<< 970)

/-- Digits times a power of ten are too large for a double.  Numbers that the count of
their digits settles are not multiplied out. -/
def overflows (digits : List Char) (exponent : Int) : Bool :=
  let significant := digits.dropWhile (· = '0')
  let reach := Int.ofNat significant.length + exponent
  if significant.isEmpty || reach < 300 then false
  else if 320 < reach then true
  else
    let value := digitsValue 10 significant
    if 0 ≤ exponent then overflowBound ≤ value * Nat.pow 10 exponent.toNat
    else overflowBound * Nat.pow 10 (-exponent).toNat ≤ value

/-- Read a point and the digits after it. -/
def fraction : Scan (List Char)
  | '.' :: rest => digitRun Char.isDigit rest
  | _ => none

/-- Read an exponent. -/
def exponent (chars : List Char) : Option (Int × List Char) :=
  match chars with
  | mark :: rest =>
    if mark = 'e' || mark = 'E' then
      let (negative, unsigned) := sign rest
      (digitRun Char.isDigit unsigned).map fun (digits, left) =>
        let size := Int.ofNat (digitsValue 10 digits)
        (if negative then -size else size, left)
    else none
  | [] => none

/-- What follows the whole digits of a float: a fraction, an exponent, or both. -/
def floatTail (chars : List Char) : Option ((List Char × Int) × List Char) :=
  match fraction chars with
  | some (digits, rest) =>
    match exponent rest with
    | some (power, left) => some ((digits, power), left)
    | none => some ((digits, 0), rest)
  | none => (exponent chars).map fun (power, rest) => (([], power), rest)

/-- Read the name of an infinity or of no number. -/
def special : List Char → Option (List Char)
  | 'i' :: 'n' :: 'f' :: rest => some rest
  | 'n' :: 'a' :: 'n' :: rest => some rest
  | _ => none

/-- Read a float. -/
def float (chars : List Char) : Option (Value × List Char) :=
  let (negative, unsigned) := sign chars
  let value (rest : List Char) : Value × List Char :=
    (.float (String.ofList (consumed chars rest)), rest)
  match special unsigned with
  | some rest => some (value rest)
  | none =>
    match wholeDigits unsigned with
    | none => none
    | some (whole, rest) =>
      match floatTail rest with
      | none => none
      | some ((digits, power), left) =>
        if !negative && overflows (whole ++ digits) (power - Int.ofNat digits.length) then none
        else some (value left)

/-- After whole digits, a point or an exponent makes the number a float. -/
def isFloat (chars : List Char) : Bool :=
  let unsigned := (sign chars).2
  (special unsigned).isSome || match wholeDigits unsigned with
    | some (_, next :: _) => next = '.' || next = 'e' || next = 'E'
    | _ => false

/-- Read an integer or a float. -/
def number (chars : List Char) : Option (Value × List Char) :=
  if isFloat chars then float chars else integer chars

end ReplicaBridge.Toml
