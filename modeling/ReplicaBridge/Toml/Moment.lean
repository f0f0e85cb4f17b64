/-
Module: ReplicaBridge.Toml.Moment
Purpose: Reading dates and times: a day, a time of day, or a day with a time and perhaps
  an offset from world time.
Main exports: moment
-/
import ReplicaBridge.Toml.Scan
import ReplicaBridge.Toml.Value

namespace ReplicaBridge.Toml

/-- Read exactly so many digits. -/
def fixedDigits (count : Nat) (chars : List Char) : Option (Nat × List Char) :=
  let digits := chars.take count
  if digits.length = count && digits.all Char.isDigit then
    some (digits.foldl (fun number digit => number * 10 + (digit.toNat - '0'.toNat)) 0,
      chars.drop count)
  else none

/-- Read two digits of a number between two bounds. -/
def twoDigits (least greatest : Nat) (chars : List Char) : Option (Nat × List Char) :=
  (fixedDigits 2 chars).filter fun (value, _) => least ≤ value && value ≤ greatest

/-- Read a given character. -/
def mark (wanted : Char) : List Char → Option (List Char)
  | char :: rest => if char = wanted then some rest else none
  | [] => none

def isLeapYear (year : Nat) : Bool :=
  year % 4 = 0 && (year % 100 ≠ 0 || year % 400 = 0)

/-- The number of days of a month. -/
def daysInMonth (year month : Nat) : Nat :=
  if month = 2 then (if isLeapYear year then 29 else 28)
  else if [4, 6, 9, 11].contains month then 30
  else 31

/-- Read a day that is in the calendar. -/
def date (chars : List Char) : Option (List Char) := do
  let (year, rest) ← fixedDigits 4 chars
  let rest ← mark '-' rest
  let (month, rest) ← twoDigits 1 12 rest
  let rest ← mark '-' rest
  let (day, rest) ← twoDigits 1 31 rest
  if day ≤ daysInMonth year month then some rest else none

/-- Read the digits of a fraction of a second, if there are some. -/
def secondFraction : List Char → List Char
  | '.' :: digit :: rest =>
    if digit.isDigit then rest.dropWhile Char.isDigit else '.' :: digit :: rest
  | chars => chars

/-- Read a time of day. -/
def time (chars : List Char) : Option (List Char) := do
  let (_, rest) ← twoDigits 0 23 chars
  let rest ← mark ':' rest
  let (_, rest) ← twoDigits 0 59 rest
  let rest ← mark ':' rest
  let (_, rest) ← twoDigits 0 60 rest
  some (secondFraction rest)

/-- Read an offset of hours and minutes. -/
def hourOffset (chars : List Char) : Option (List Char) := do
  let (_, rest) ← twoDigits 0 23 chars
  let rest ← mark ':' rest
  let (_, rest) ← twoDigits 0 59 rest
  some rest

/-- Read an offset from world time, if there is one; a sign promises one. -/
def offset : List Char → Option (List Char)
  | 'Z' :: rest | 'z' :: rest => some rest
  | '+' :: rest | '-' :: rest => hourOffset rest
  | chars => some chars

/-- Read what parts a day from its time. -/
def timeMark : List Char → Option (List Char)
  | 'T' :: rest | 't' :: rest | ' ' :: rest => some rest
  | _ => none

/-- Read the time and the offset that may follow a day. -/
def dayTime (chars : List Char) : Option (List Char) :=
  match (timeMark chars).bind time with
  | none => some chars
  | some rest => offset rest

/-- Read a date or a time. -/
def moment (chars : List Char) : Option (Value × List Char) :=
  let rest? := match date chars with
    | some rest => dayTime rest
    | none => time chars
  rest?.map fun rest => (.moment (String.ofList (consumed chars rest)), rest)

end ReplicaBridge.Toml
