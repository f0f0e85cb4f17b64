/-
Module: ReplicaBridge.Grammar.Phrase
Purpose: The phrases of the grammar that contain one another, what a reader tells about one
  it has read, and how tightly operators bind.  A rule reads the phrases inside its own
  through a given reader of phrases, so that no rule is recursive by itself.
Main exports: Phrase, Shape, Rank, Phrases
-/
import ReplicaBridge.Grammar.Reader

namespace ReplicaBridge.Grammar

/-! ### How tightly operators bind -/

/-- The operators by how tightly they bind, the loosest first. -/
inductive Rank where
  | none
  | assign
  | range
  | or
  | and
  | compare
  | bitOr
  | bitXor
  | bitAnd
  | shift
  | sum
  | product
  | cast
deriving Repr, Inhabited, DecidableEq

namespace Rank

def level : Rank → Nat
  | none => 0
  | assign => 1
  | range => 2
  | or => 3
  | and => 4
  | compare => 5
  | bitOr => 6
  | bitXor => 7
  | bitAnd => 8
  | shift => 9
  | sum => 10
  | product => 11
  | cast => 12

/-- The operators between two operands with their ranks; of two that fit the first counts. -/
def operators : List (String × Rank) :=
  [("+=", assign), ("-=", assign), ("*=", assign), ("/=", assign), ("%=", assign),
    ("^=", assign), ("&=", assign), ("|=", assign), ("<<=", assign), (">>=", assign),
    ("&&", and), ("||", or), ("<<", shift), (">>", shift), ("==", compare), ("<=", compare),
    ("!=", compare), (">=", compare), ("+", sum), ("-", sum), ("*", product), ("/", product),
    ("%", product), ("^", bitXor), ("&", bitAnd), ("|", bitOr), ("<", compare), (">", compare)]

/-- The operator between two operands that is in front. -/
def operator? (tokens : List Token) : Option (String × Rank) :=
  operators.find? fun (operator, _) => onMark operator tokens

/-- A single equals sign is in front, which no arrow follows. -/
def onAssignment (tokens : List Token) : Bool :=
  onMark "=" tokens && !onMark "=>" tokens

/-- The rank of what continues an expression. -/
def ahead (tokens : List Token) : Rank :=
  match operator? tokens with
  | some (_, rank) => rank
  | _ =>
    if onAssignment tokens then assign
    else if onMark ".." tokens then range
    else if onWord "as" tokens then cast
    else none

end Rank

/-! ### What is known of a phrase -/

/-- What decides how the text may go on behind a phrase. -/
structure Shape where
  /-- A range of values. -/
  range : Bool := false
  /-- A range of values that has no start or no end. -/
  halfRange : Bool := false
  /-- A comparison of two operands. -/
  comparison : Bool := false
  /-- A block, or a branch or loop with blocks, which can be a statement by itself. -/
  blockLike : Bool := false
  /-- A use of a macro with a group in braces. -/
  bracedMacro : Bool := false
  /-- A path. -/
  path : Bool := false
  /-- A single name, perhaps with arguments in angle brackets. -/
  name : Bool := false
  /-- A single bound. -/
  bound : Bool := false
  /-- A bound that is a trait, or several with one. -/
  trait : Bool := false
deriving Repr, Inhabited, DecidableEq

/-! ### Phrases -/

/-- A phrase that other phrases contain. -/
inductive Phrase where
  /-- An expression; where `structs` does not hold, a brace does not belong to a path before
  it. -/
  | expression (structs : Bool)
  /-- An operand with the operators in front of it. -/
  | operand (structs : Bool)
  /-- An expression that is a statement or an arm; it ends with its block if it starts with
  one. -/
  | standalone
  /-- What continues an expression with operators that bind as tightly as `floor`. -/
  | continuation (structs : Bool) (floor : Rank) (start : Shape)
  /-- A type; a sum of bounds is one where `sums` holds. -/
  | type (sums : Bool)
  /-- A bound on a type; it can list captures where `captured` holds, and name a constant
  trait where `constant` does. -/
  | bound (captured constant : Bool)
  /-- A pattern without alternatives. -/
  | pattern
  /-- The statements of a block. -/
  | statements
  | item
  /-- What is imported; a leading double colon may follow an opening brace where `rooted`
  holds. -/
  | imports (rooted : Bool)
deriving Repr, Inhabited, DecidableEq

/-- A reader of phrases. -/
abbrev Phrases := Phrase → Reader Shape

namespace Phrases

open Reader

variable (read : Phrases)

/-- Read an expression in any position. -/
def expression : Reader Unit :=
  discard (read (.expression true))

/-- Read an expression before a block. -/
def condition : Reader Unit :=
  discard (read (.expression false))

/-- Read a type, which may be a sum of bounds. -/
def type : Reader Unit :=
  discard (read (.type true))

/-- Read a type that is no sum. -/
def plainType : Reader Unit :=
  discard (read (.type false))

/-- Read a bound on a parameter. -/
def bound : Reader Unit :=
  discard (read (.bound false true))

/-- Read a pattern without alternatives. -/
def pattern : Reader Unit :=
  discard (read .pattern)

/-- Read a pattern, perhaps with alternatives. -/
def alternatives : Reader Shape := do
  let leading ← mark? "|"
  let first ← read .pattern
  let goesOn (tokens : List Token) : Bool :=
    onMark "|" tokens && !onMark "||" tokens && !onMark "|=" tokens
  if leading || (← look goesOn) then
    repeated do
      if ← look goesOn then
        mark "|"
        read.pattern
        return true
      else return false
    return {}
  else return first

end Phrases

/-! ### Annotations of phrases -/

/-- The words of a path without arguments, which an annotation starts with. -/
def pathWord : Reader Unit :=
  Reader.one fun tokens => onName tokens || onWordOf ["super", "self", "Self", "crate"] tokens

/-- Read a path of words. -/
def plainPath : Reader Unit := do
  discard (Reader.mark? "::")
  pathWord
  Reader.repeated do
    if ← Reader.mark? "::" then
      pathWord
      return true
    else return false

/-- Read the path that an annotation starts with. -/
def annotationPath : Reader Unit := do
  if ← Reader.word? "unsafe" then return ()
  plainPath

/-- The value of an annotation is in front. -/
def onValue (tokens : List Token) : Bool :=
  onMark "=" tokens && !onMark "==" tokens && !onMark "=>" tokens

/-- Read the value of an annotation: an expression, which cannot be annotated itself. -/
def annotationValue (read : Phrases) : Reader Unit := do
  Reader.mark "="
  Reader.require !(← Reader.look fun tokens => onMark "#" tokens && onGroup '[' (tokens.drop 1))
  read.expression

/-- Read what follows the path of an annotation: a group, a value, or nothing. -/
def annotationRest (read : Phrases) : Reader Unit := do
  if ← Reader.look onAnyGroup then Reader.skip 1
  else if ← Reader.look onValue then annotationValue read

/-- Read an annotation in its brackets. -/
def bracketed (read : Phrases) : Reader Unit :=
  Reader.within '[' do
    annotationPath
    annotationRest read

/-- Read the annotations in front of a phrase; says whether there are any. -/
def outerAnnotations (read : Phrases) : Reader Bool := do
  let present ← Reader.look (onMark "#")
  Reader.repeated do
    if ← Reader.mark? "#" then
      bracketed read
      return true
    else return false
  return present

/-- Read the annotations at the start of a block, which are about the block. -/
def innerAnnotations (read : Phrases) : Reader Unit :=
  Reader.repeated do
    if ← Reader.look fun tokens => onMark "#" tokens && onMark "!" (tokens.drop 1) then
      Reader.skip 2
      bracketed read
      return true
    else return false

/-- Read a block in braces. -/
def block (read : Phrases) : Reader Unit :=
  Reader.within '{' (discard (read .statements))

/-- Read a block in braces that may start with annotations. -/
def annotatedBlock (read : Phrases) : Reader Unit :=
  Reader.within '{' do
    innerAnnotations read
    discard (read .statements)

end ReplicaBridge.Grammar
