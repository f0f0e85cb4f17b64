/-
Module: ReplicaBridge.Toml.Writer
Purpose: Writing a document of pairs and of sections with pairs.  A text takes the first
  form in which it needs no escapes.
Main exports: TextForm, textForm, renderText, Scalar, Section, Document, Document.map,
  Document.toValue, Document.render?
-/
import ReplicaBridge.Toml.Value

namespace ReplicaBridge.Toml

/-! ### Texts -/

/-- How a text is written. -/
structure TextForm where
  /-- Between three marks on each side and not one. -/
  tripled : Bool
  /-- As it is, between apostrophes; else between quotes with escapes. -/
  asIs : Bool
deriving Repr, Inhabited, DecidableEq

/-- A control character that only an escape can write. -/
def isControl (char : Char) : Bool :=
  char ≠ '\t' && char ≠ '\n' && (char.toNat < 0x20 || char.toNat = 0x7f)

/-- A mark stands three times in a row somewhere. -/
def hasTriple (mark : Char) : List Char → Bool
  | first :: second :: third :: rest =>
    (first = mark && second = mark && third = mark) || hasTriple mark (second :: third :: rest)
  | _ => false

/-- How to write a text.  The first of these is taken that needs no escapes: quotes,
apostrophes, three quotes, three apostrophes.  Line ends need three marks.  If nothing
spares the escapes, the text stands between quotes. -/
def textForm (chars : List Char) : TextForm :=
  let plain := !chars.any isControl
  let straight := plain && !chars.contains '\\'
  let oneLine := !chars.contains '\n'
  if straight && oneLine && !chars.contains '"' then { tripled := false, asIs := false }
  else if plain && oneLine && !chars.contains '\'' then { tripled := false, asIs := true }
  else if straight && !hasTriple '"' chars then { tripled := true, asIs := false }
  else if plain && !hasTriple '\'' chars then { tripled := true, asIs := true }
  else { tripled := !oneLine, asIs := false }

/-- Four upper-case hexadecimal digits. -/
def fourDigits (code : Nat) : List Char :=
  let digits := (Nat.toDigits 16 code).map Char.toUpper
  List.replicate (4 - digits.length) '0' ++ digits

/-- A character other than a quote, between quotes.  Three quotes leave line ends alone. -/
def escaped (tripled : Bool) (char : Char) : List Char :=
  if char = '\n' then (if tripled then ['\n'] else ['\\', 'n'])
  else if char = '\t' then ['\\', 't']
  else if char = '\r' then ['\\', 'r']
  else if char = '\x08' then ['\\', 'b']
  else if char = '\x0c' then ['\\', 'f']
  else if char = '\\' then ['\\', '\\']
  else if isControl char then ['\\', 'u'] ++ fourDigits char.toNat
  else [char]

/-- A text between quotes.  Three quotes leave up to two quotes in a row alone; `quotes`
counts those that stand just before. -/
def escapedText (tripled : Bool) : (quotes : Nat) → List Char → List Char
  | _, [] => []
  | quotes, char :: rest =>
    if char = '"' then
      if tripled && quotes < 2 then '"' :: escapedText tripled (quotes + 1) rest
      else '\\' :: '"' :: escapedText tripled 0 rest
    else escaped tripled char ++ escapedText tripled 0 rest

/-- A text as a value.  Where it has line ends in it, it starts on a line of its own. -/
def renderText (text : String) : String :=
  let chars := text.toList
  let form := textForm chars
  let mark := if form.asIs then '\'' else '"'
  let marks := String.ofList (List.replicate (if form.tripled then 3 else 1) mark)
  let start := if form.tripled && chars.contains '\n' then "\n" else ""
  let content := if form.asIs then chars else escapedText form.tripled 0 chars
  marks ++ start ++ String.ofList content ++ marks

/-! ### Documents -/

/-- A value that can be written on its own. -/
inductive Scalar where
  | text (value : String)
  | integer (value : Int)
  | boolean (value : Bool)
deriving Repr, Inhabited, DecidableEq

namespace Scalar

/-- The value itself. -/
def toValue : Scalar → Value
  | .text value => .text value
  | .integer value => .integer value
  | .boolean value => .boolean value

/-- The written value; an integer beyond 64 bits has none. -/
def render? : Scalar → Option String
  | .text value => some (renderText value)
  | .integer value =>
    if minInteger ≤ value && value ≤ maxInteger then some (toString value) else none
  | .boolean value => some (if value then "true" else "false")

end Scalar

/-- Keys with their values, in order.  The keys need no quotes. -/
abbrev Pairs := List (String × Scalar)

/-- A line for every pair. -/
def renderPairs? (pairs : Pairs) : Option String :=
  (pairs.mapM fun (pair : String × Scalar) =>
    pair.2.render?.map fun written => pair.1 ++ " = " ++ written ++ "\n").map String.join

/-- A named section of pairs. -/
structure Section where
  name : String
  pairs : Pairs
deriving Repr, Inhabited, DecidableEq

/-- A document: pairs, then sections. -/
structure Document where
  pairs : Pairs
  sections : List Section
deriving Repr, Inhabited, DecidableEq

/-- The pairs as entries of a table. -/
def Pairs.toEntries (pairs : Pairs) : List (String × Value) :=
  pairs.map fun (key, scalar) => (key, scalar.toValue)

namespace Document

/-- Change the value of every pair. -/
def map (document : Document) (change : String → Scalar → Scalar) : Document :=
  let changed (pairs : Pairs) : Pairs := pairs.map fun (key, scalar) => (key, change key scalar)
  { pairs := changed document.pairs
    sections := document.sections.map fun part => { part with pairs := changed part.pairs } }

/-- The document as a table with a table for each section. -/
def toValue (document : Document) : Value :=
  .table (document.pairs.toEntries ++ document.sections.map fun part =>
    (part.name, .table part.pairs.toEntries))

/-- The written document: an empty line before each header. -/
def render? (document : Document) : Option String := do
  let top ← renderPairs? document.pairs
  let bodies ← document.sections.mapM fun part =>
    (renderPairs? part.pairs).map fun body => "\n[" ++ part.name ++ "]\n" ++ body
  return top ++ String.join bodies

end Document

end ReplicaBridge.Toml
