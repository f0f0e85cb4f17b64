/-
Module: ReplicaBridge.Params.Annotation
Purpose: Annotations: keys with values, as the declaration of a typed call carries them, and
  the reading of a comma-separated list of them.
Main exports: AnnotationValue, Annotation, Annotation.listOfText?
-/
import ReplicaBridge.Grammar.Rules
import ReplicaBridge.Text.Digits

namespace ReplicaBridge.Params

open Grammar

/-- What follows the key of an annotation. -/
inductive AnnotationValue where
  /-- Nothing: the key stands alone. -/
  | bare
  | text (value : String)
  | number (value : Nat)
  | flag (value : Bool)
  /-- Anything else. -/
  | other
deriving Repr, Inhabited, DecidableEq

/-- A key with its value; a literal may stand where an annotation should, and has no key. -/
structure Annotation where
  key : Option String
  value : AnnotationValue
deriving Repr, Inhabited, DecidableEq

namespace AnnotationValue

/-- A number of which the lowest 64 bits count, the highest of them as the sign; a negative
one is not read as a number. -/
def ofWord (value : Int) : AnnotationValue :=
  if Int64.ofInt value < 0 then other else number (Int64.ofInt value).toNatClampNeg

/-- A text can only be given as a text. -/
def asText? : AnnotationValue → Option String
  | .text value => some value
  | _ => none

/-- The number that decimal digits write, behind a plus sign or alone. -/
def unsigned? : List Char → Option Nat
  | '+' :: digits => Text.decimal? digits
  | digits => Text.decimal? digits

/-- A size is a number of at most 64 bits, or a text of its digits. -/
def asSize? (value : AnnotationValue) : Option Nat :=
  let size := match value with
    | .number size => some size
    | .text digits => unsigned? digits.toList
    | _ => none
  size.filter (· < 1 <<< 64)

/-- A switch is on when its key stands alone; it can also be given as a truth value or the
word for one. -/
def asSwitch? : AnnotationValue → Option Bool
  | .bare => some true
  | .flag value => some value
  | .text "true" => some true
  | .text "false" => some false
  | _ => none

/-- What an expression is as a value: a literal, or anything else. -/
def ofTokens : List Token → AnnotationValue
  | [.literal (.text value)] => .text value
  | [.literal (.number value _)] => .number value
  | [.word "true"] => .flag true
  | [.word "false"] => .flag false
  | _ => .other

/-- Read a value: an equals sign and an expression. -/
def reader (read : Phrases) : Reader AnnotationValue := do
  let (_, tokens) ← Reader.taken (annotationValue read)
  return ofTokens (tokens.drop 1)

end AnnotationValue

namespace Annotation

/-- An annotation with a key. -/
def keyed (key : String) (value : AnnotationValue) : Annotation :=
  { key := some key, value }

/-- A literal without a key. -/
def literal : Annotation :=
  { key := none, value := .other }

/-- The words of a path, with a double colon between each two. -/
def keyOf (path : List Token) : String :=
  String.intercalate "::" <| path.filterMap fun token =>
    match token with
    | .word text => some text
    | _ => none

/-- A literal is in front that is no key. -/
def onKeyless (tokens : List Token) : Bool :=
  onLiteral tokens && !(onWordOf ["true", "false"] tokens && onMark "=" (tokens.drop 1))

/-- Read one annotation: a literal, or a key that stands alone, before brackets or before an
equals sign and a value. -/
def reader (read : Phrases) : Reader Annotation := do
  if ← Reader.look onKeyless then
    Reader.literal
    return literal
  let (_, path) ← Reader.taken annotationPath
  let key := keyOf path
  if ← Reader.perhaps onAnyGroup then return keyed key .other
  else if ← Reader.look onValue then return keyed key (← AnnotationValue.reader read)
  else return keyed key .bare

/-- The annotations that a text lists, or nothing when it cannot be read. -/
def listOfText? (text : String) : Option (List Annotation) := do
  let tokens ← Token.ofText? text
  let (found, _) ← (Reader.listOf (reader (phrases text.length))).run tokens
  return found

end Annotation

end ReplicaBridge.Params
