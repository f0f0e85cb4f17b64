/-
Module: ReplicaBridge.Grammar.Path
Purpose: Paths: names with double colons between them, their arguments in angle brackets or
  in parentheses, and the bounds and parameters that go with such arguments.
Main exports: Path, readPath, qualifiedPath, typePath, readBound, bounds, generics, whereClause
-/
import ReplicaBridge.Grammar.Phrase

namespace ReplicaBridge.Grammar

open Reader

/-! ### Paths -/

/-- The arguments of a part of a path. -/
inductive Arguments where
  | none
  | angled
  | parenthesized
deriving Repr, Inhabited, DecidableEq

/-- What is known of a path. -/
structure Path where
  /-- It starts with a type in angle brackets. -/
  qualified : Bool := false
  /-- It starts with a double colon. -/
  rooted : Bool := false
  parts : Nat := 0
  /-- The arguments of the last part. -/
  last : Arguments := .none
  /-- No part has arguments. -/
  plain : Bool := true
deriving Repr, Inhabited, DecidableEq

namespace Path

/-- The path with one part more. -/
def push (path : Path) (arguments : Arguments) : Path :=
  { path with
    parts := path.parts + 1
    last := arguments
    plain := path.plain && arguments = .none }

/-- The path whose last part has arguments in parentheses. -/
def parenthesize (path : Path) : Path :=
  { path with last := .parenthesized, plain := false }

def shape (path : Path) : Shape :=
  { path := !path.qualified
    name := !path.qualified && !path.rooted && path.parts = 1 && path.last ≠ .parenthesized }

end Path

variable (read : Phrases)

/-- Read a value that is an argument: a literal, a name or a block. -/
def constantArgument : Reader Unit := do
  if ← look onLiteral then literal
  else if ← look onName then name
  else annotatedBlock read

/-- The text of a bound without an opening: a lifetime, or a trait, perhaps in parentheses. -/
def onBound (tokens : List Token) : Bool :=
  onAnyWord tokens || onMark "::" tokens || onMark "?" tokens || onLabel tokens
    || onGroup '(' tokens

/-- Read the lifetimes that `for` introduces. -/
def boundLifetimes : Reader Unit := do
  word "for"
  mark "<"
  separated "," (onMark ">") do
    discard (outerAnnotations read)
    label
    if ← mark? ":" then
      separated "+" (fun tokens => onMark "," tokens || onMark ">" tokens) label
  mark ">"

/-- Read what captures are listed in a bound. -/
def captures : Reader Unit := do
  word "use"
  mark "<"
  separated "," (onMark ">") (one fun tokens => onLabel tokens || onName tokens
    || onWord "Self" tokens)
  mark ">"

/-- Read the arguments of a path in parentheses, with the type of the result. -/
def parenthesizedArguments : Reader Unit := do
  within '(' (listed read.type)
  if ← mark? "->" then read.plainType

/-- A path goes on with arguments in parentheses, perhaps behind a double colon. -/
def onParentheses (tokens : List Token) : Bool :=
  onGroup '(' tokens || (onMark "::" tokens && onGroup '(' (tokens.drop 2))

/-- Read an argument in angle brackets. -/
def argument : Reader Unit := do
  if ← look fun tokens => onLabel tokens && !onMark "+" (tokens.drop 1) then label
  else if ← look fun tokens => onLiteral tokens || onGroup '{' tokens then constantArgument read
  else
    let type ← read (.type true)
    if type.name then
      if ← mark? "=" then
        if ← look fun tokens => onLiteral tokens || onGroup '{' tokens then constantArgument read
        else read.type
      else if ← mark? ":" then
        separated "+" (fun tokens => onMark "," tokens || onMark ">" tokens) read.bound

/-- Read arguments in angle brackets. -/
def angled : Reader Unit := do
  mark "<"
  separated "," (onMark ">") (argument read)
  mark ">"

/-- Arguments in angle brackets are in front; `expression` says that a bare angle bracket
means a comparison. -/
def onAngles (expression : Bool) (tokens : List Token) : Bool :=
  (!expression && onMark "<" tokens && !onMark "<=" tokens && !onMark "<<=" tokens)
    || (onMark "::" tokens && onMark "<" (tokens.drop 2))

/-- Read a part of a path. -/
def part (expression : Bool) : Reader Arguments := do
  if ← perhaps (onWordOf ["super", "self", "crate", "try"]) then return .none
  one fun tokens => onWord "Self" tokens || onName tokens
  if ← look (onAngles expression) then
    discard (mark? "::")
    angled read
    return .angled
  else return .none

/-- Read the further parts of a path. -/
def moreParts (expression : Bool) (start : Path) : Reader Path :=
  loop (fun path => do
    if ← look fun tokens => onMark "::" tokens && !onGroup '(' (tokens.drop 2) then
      mark "::"
      return some (path.push (← part read expression))
    else return none) start

/-- Read a path. -/
def readPath (expression : Bool) : Reader Path := do
  let rooted ← mark? "::"
  let first ← part read expression
  moreParts read expression ({ rooted : Path }.push first)

/-- Read a path and then arguments in parentheses, if it has no others. -/
def pathOfTrait : Reader Unit := do
  let path ← readPath read false
  if path.last = .none && (← look onParentheses) then
    discard (mark? "::")
    parenthesizedArguments read

/-! ### Bounds -/

/-- Read the trait of a bound.  Where `constant` holds it can be a constant one. -/
def traitBound (constant : Bool) : Reader Unit := do
  let introduced ← look (onWord "for")
  whenOn (onWord "for") (boundLifetimes read)
  if ← look (onGroup '[') then
    within '[' (word "const")
    require constant
  else if ← word? "const" then require constant
  let questioned ← mark? "?"
  require !(questioned && (introduced || (← look (onWord "for"))))
  pathOfTrait read

/-- Read a bound: a lifetime, a list of captures or a trait. -/
def readBound (captured constant : Bool) : Reader Shape := do
  if ← perhaps onLabel then return {}
  else if ← look (onWord "use") then
    captures
    require captured
    return {}
  else
    if ← look (onGroup '(') then within '(' (traitBound read constant)
    else traitBound read constant
    return { trait := true }

/-- Read bounds with plus signs between them, of which there may be several where `sums`
holds. -/
def bounds (sums captured constant : Bool) : Reader Shape := do
  let first ← read (.bound captured constant)
  let starts (tokens : List Token) : Bool :=
    onBound tokens || (constant && (onGroup '[' tokens || onWord "const" tokens))
  loop (fun found => do
    if !sums then return none
    if !(← mark? "+") then return none
    if !(← look starts) then return none
    let next ← read (.bound captured constant)
    return some { trait := found.trait || next.trait }) { first with bound := true }

/-- Read a path that may start with a type in angle brackets. -/
def qualifiedPath (expression : Bool) : Reader Path := do
  if ← mark? "<" then
    read.type
    if ← word? "as" then discard (readPath read false)
    mark ">"
    mark "::"
    let first ← part read expression
    loop (fun path => do
      if ← mark? "::" then return some (path.push (← part read expression))
      else return none) ({ qualified := true : Path }.push first)
  else readPath read expression

/-- Read a path in a type, where arguments can stand in parentheses. -/
def typePath : Reader Path := do
  let path ← qualifiedPath read false
  loop (fun path => do
    if path.last = .none && (← look onParentheses) then
      discard (mark? "::")
      parenthesizedArguments read
      return some (← moreParts read false path.parenthesize)
    else return none) path

/-! ### Parameters -/

/-- Read the parameters of an item in angle brackets, if there are any. -/
def generics : Reader Unit := do
  if ← mark? "<" then
    separated "," (onMark ">") do
      discard (outerAnnotations read)
      let closes (tokens : List Token) : Bool := onMark "," tokens || onMark ">" tokens
      if ← perhaps onLabel then
        if ← mark? ":" then separated "+" closes label
      else if ← word? "const" then
        name
        mark ":"
        read.type
        if ← mark? "=" then constantArgument read
      else if ← perhaps (onWord "_") then return ()
      else
        name
        if ← mark? ":" then
          separated "+" (fun tokens => closes tokens || onMark "=" tokens) read.bound
        if ← mark? "=" then read.type
    mark ">"

/-- The conditions on parameters end here. -/
def closesConditions (tokens : List Token) : Bool :=
  tokens.isEmpty || onGroup '{' tokens || onMark "," tokens || onMark ";" tokens
    || (onMark ":" tokens && !onMark "::" tokens) || onMark "=" tokens

/-- Read the conditions on parameters, if there are any. -/
def whereClause : Reader Unit := do
  if ← word? "where" then
    separated "," closesConditions do
      if ← look fun tokens => onLabel tokens && onMark ":" (tokens.drop 1) then
        label
        mark ":"
        separated "+" closesConditions label
      else
        whenOn (onWord "for") (boundLifetimes read)
        read.type
        mark ":"
        separated "+" closesConditions read.bound

end ReplicaBridge.Grammar
