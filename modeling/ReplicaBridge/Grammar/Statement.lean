/-
Module: ReplicaBridge.Grammar.Statement
Purpose: Reading the statements of a block: bindings, items, uses of macros and expressions,
  and where a semicolon has to stand between them.
Main exports: readStatements
-/
import ReplicaBridge.Grammar.Expression

namespace ReplicaBridge.Grammar

open Reader

variable (read : Phrases)

/-! ### What is in front -/

/-- What follows a path and an exclamation mark in front. -/
def pastMacroPath (tokens : List Token) : List Token :=
  match plainPath.run tokens with
  | some (_, rest) => if onMark "!" rest then rest.drop 1 else []
  | none => []

/-- A macro is used that is a statement by its braces. -/
def onMacroStatement (tokens : List Token) : Bool :=
  let group := pastMacroPath tokens
  onGroup '{' group && !onPoint (group.drop 1) && !onMark "?" (group.drop 1)

/-- A macro is used that names an item. -/
def onMacroItem (tokens : List Token) : Bool :=
  let named := pastMacroPath tokens
  onName named || onWord "try" named

/-- A word is in front that opens nothing but items, or does so before what follows it. -/
def onItemWord (tokens : List Token) : Bool :=
  let after := tokens.drop 1
  let opensFunction : List Token → Bool := onWordOf ["unsafe", "extern", "fn"]
  onWordOf ["pub", "extern", "use", "fn", "mod", "type", "struct", "enum", "trait", "impl",
      "macro"] tokens
    || (onWord "crate" tokens && !onMark "::" after)
    || (onWord "static" tokens && (onWord "mut" after || onName after))
    || (onWord "const" tokens && !(onGroup '{' after || onMark "|" after
      || onWordOf ["static", "move"] after
      || (onWord "async" after && !opensFunction (tokens.drop 2))))
    || (onWord "unsafe" tokens && !onGroup '{' after)
    || (onWord "async" tokens && opensFunction after)
    || (onWord "union" tokens && onName after)
    || (onWord "auto" tokens && onWord "trait" after)
    || (onWord "default" tokens && onWordOf ["unsafe", "impl"] after)

/-- An item is in front. -/
def onItem (tokens : List Token) : Bool :=
  onItemWord tokens || onMacroItem tokens

/-! ### Statements -/

/-- Read a binding of names.  A block may follow the value, for when it does not fit the
pattern, if the value itself does not end in braces. -/
def binding : Reader Unit := do
  read.pattern
  if ← mark? ":" then read.type
  if ← mark? "=" then
    let (_, value) ← taken read.expression
    if !(onGroup '{' (value.drop (value.length - 1))) then
      if ← word? "else" then block read
  mark ";"

/-- Read a statement; says whether the next one can follow at once. -/
def statement : Reader Bool := do
  discard (outerAnnotations read)
  if ← look onMacroStatement then
    plainPath
    macroGroup
    return true
  else if ← word? "let" then
    binding read
    return true
  else if ← look onItem then
    discard (read .item)
    return true
  else
    let found ← read .standalone
    if ← mark? ";" then return true
    else return found.blockLike || found.bracedMacro

/-- Read the statements of a block.  There may be any number of semicolons between two of
them. -/
def readStatements : Reader Unit :=
  repeated do
    repeated (mark? ";")
    if ← atEnd then return false
    let closed ← statement read
    require (closed || (← atEnd))
    return true

end ReplicaBridge.Grammar
