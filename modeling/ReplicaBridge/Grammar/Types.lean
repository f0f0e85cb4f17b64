/-
Module: ReplicaBridge.Grammar.Types
Purpose: Reading types: paths, tuples, arrays, references, functions, traits and sums of
  bounds.
Main exports: readType, result
-/
import ReplicaBridge.Grammar.Path

namespace ReplicaBridge.Grammar

open Reader

variable (read : Phrases)

/-- Read the type of a result, if one is given. -/
def result : Reader Unit := do
  if ← mark? "->" then read.type

/-- Read further bounds of a sum, each behind a plus sign. -/
def moreBounds : Reader Unit :=
  repeated do
    if ← mark? "+" then
      discard (read (.bound false false))
      return true
    else return false

/-- Read bounds that make a type, one of which has to be a trait. -/
def traitSum (sums captured constant : Bool) : Reader Shape := do
  let found ← bounds read sums captured constant
  require found.trait
  return found

/-- Read the fields of a tuple behind the first one, or nothing. -/
def moreTypes : Reader Unit := do
  mark ","
  listed read.type

/-- Read what stands in parentheses in a type; says whether it is in fact a sum of bounds, and
what is known of a single type. -/
def parenthesizedType : Reader (Bool × Shape) :=
  within '(' do
    if ← atEnd then return (false, {})
    else if ← look onLabel then
      discard (traitSum read true false false)
      return (false, {})
    else if ← look (onMark "?") then
      traitBound read false
      return (true, {})
    else
      let first ← read (.type true)
      if ← look (onMark ",") then
        moreTypes read
        return (false, {})
      else return (false, first)

/-- Read a type that starts with a parenthesis. -/
def typeInParentheses (sums : Bool) : Reader Shape := do
  match ← parenthesizedType read with
  | (true, _) =>
    moreBounds read
    return {}
  | (false, first) =>
    if sums && (← look (onMark "+")) && (first.path || first.bound) then moreBounds read
    return {}

/-- Read the name of a calling convention, if one is given. -/
def convention : Reader Unit := do
  if ← word? "extern" then
    discard (perhaps fun tokens => match tokens with
      | .literal (.text _) :: _ => true
      | _ => false)

/-- An argument with a name is in front; the first one can be the receiver. -/
def onNamedArgument (isFirst : Bool) (tokens : List Token) : Bool :=
  (onName tokens || onWord "_" tokens || (isFirst && onWord "self" tokens))
    && onMark ":" (tokens.drop 1) && !onMark "::" (tokens.drop 1)

/-- Three dots are in front that stand for further arguments, perhaps behind a name. -/
def onVariadic (tokens : List Token) : Bool :=
  onMark "..." tokens
    || ((onName tokens || onWord "_" tokens) && onMark ":" (tokens.drop 1)
      && onMark "..." (tokens.drop 2))

/-- Read further arguments, which end the list. -/
def variadic : Reader Unit := do
  if !(← look (onMark "...")) then
    skip 2
  mark "..."
  discard (mark? ",")

/-- Read an argument of a function type. -/
def functionArgument (isFirst : Bool) : Reader Unit := do
  let changes ← look fun tokens =>
    isFirst && onWord "mut" tokens && onWord "self" (tokens.drop 1)
  if changes then skip 1
  if ← look (onNamedArgument isFirst) then
    skip 2
    read.type
  else if changes then word "self"
  else read.type

/-- Read the arguments of a function type. -/
def functionArguments : Reader Unit :=
  within '(' do
    discard <| loop (fun isFirst => do
      if ← atEnd then return none
      discard (outerAnnotations read)
      if ← look onVariadic then
        variadic
        return none
      functionArgument read isFirst
      if ← atEnd then return none
      mark ","
      return some false) true

/-- Read a function type. -/
def functionType : Reader Unit := do
  discard (word? "unsafe")
  convention
  word "fn"
  functionArguments read
  if ← mark? "->" then read.plainType

/-- A path is in front. -/
def onPath (tokens : List Token) : Bool :=
  onName tokens || onWordOf ["super", "self", "Self", "crate"] tokens || onMark "::" tokens
    || onMark "<" tokens

/-- Something built in is in front, which goes on with a number sign. -/
def onBuiltIn (tokens : List Token) : Bool :=
  onWord "builtin" tokens && onMark "#" (tokens.drop 1)

/-- Read something built in: a name and its arguments. -/
def builtIn : Reader Unit := do
  skip 2
  name
  one (onGroup '(')

/-- A macro is used, given the path in front of it. -/
def usesMacro (path : Path) (tokens : List Token) : Bool :=
  path.plain && !path.qualified && onMark "!" tokens && !onMark "!=" tokens

/-- Read the group of a macro behind its exclamation mark. -/
def macroGroup : Reader Unit := do
  mark "!"
  one onAnyGroup

/-- Read a type that starts with a path; `introduced` says that lifetimes stand before it. -/
def typeOfPath (sums introduced : Bool) : Reader Shape := do
  let path ← typePath read
  if path.qualified then return path.shape
  if ← look (usesMacro path) then
    macroGroup
    return {}
  if sums && (← look (onMark "+")) then
    repeated do
      if ← mark? "+" then
        if ← look onBound then
          discard (read (.bound false false))
          return true
        else return false
      else return false
    return {}
  if introduced then return { bound := true }
  return path.shape

/-- Read an array or a slice. -/
def arrayType : Reader Unit :=
  within '[' do
    read.type
    if ← mark? ";" then read.expression

/-- Read a type; a sum of bounds is one where `sums` holds. -/
def readType (sums : Bool) : Reader Shape := do
  let introduced ← look (onWord "for")
  if introduced then
    boundLifetimes read
    require (← look fun tokens => onName tokens
      || onWordOf ["fn", "unsafe", "extern", "super", "self", "Self", "crate"] tokens)
  if ← look (onGroup '(') then typeInParentheses read sums
  else if ← look (onWordOf ["fn", "unsafe", "extern"]) then
    functionType read
    return {}
  else if ← look onBuiltIn then
    builtIn
    return {}
  else if ← look onPath then typeOfPath read sums introduced
  else if ← word? "dyn" then
    discard (mark? "*")
    discard (traitSum read sums false false)
    return {}
  else if ← look (onGroup '[') then
    arrayType read
    return {}
  else if ← mark? "*" then
    one (onWordOf ["const", "mut"])
    read.plainType
    return {}
  else if ← mark? "&" then
    discard (perhaps onLabel)
    discard (word? "mut")
    read.plainType
    return {}
  else if ← look fun tokens => onMark "!" tokens && !onMark "=" tokens then
    mark "!"
    return {}
  else if ← word? "impl" then
    discard (traitSum read sums true true)
    return {}
  else if ← word? "_" then return {}
  else if ← look onLabel then traitSum read true false false
  else failure

end ReplicaBridge.Grammar
