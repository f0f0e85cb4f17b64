/-
Module: ReplicaBridge.Grammar.Pattern
Purpose: Reading patterns: names, literals, ranges, and the shapes of structures, tuples,
  slices and references.
Main exports: readPattern
-/
import ReplicaBridge.Grammar.Types

namespace ReplicaBridge.Grammar

open Reader

variable (read : Phrases)

/-! ### Ranges -/

/-- A range of values stops here, before an end was given. -/
def closesRange (tokens : List Token) : Bool :=
  tokens.isEmpty || onWord "if" tokens || ["|", "=", ",", ";"].any (onMark · tokens)
    || (onMark ":" tokens && !onMark "::" tokens)

/-- Read an end of a range of values; says whether it is given. -/
def rangeBound : Reader Bool := do
  if ← look closesRange then return false
  if ← look onLiteral then literal
  else if ← look onPath then discard (qualifiedPath read true)
  else
    word "const"
    annotatedBlock read
  return true

/-- Read the dots of a range and its end, which only two dots can do without; says whether the
end is given. -/
def rangeRest : Reader Bool := do
  let closed ← look fun tokens => onMark "..=" tokens || onMark "..." tokens
  if closed then skip 3 else mark ".."
  let given ← rangeBound read
  require (given || !closed)
  return given

/-- Read a literal, or a range that starts with one. -/
def literalPattern : Reader Shape := do
  require (← rangeBound read)
  if ← look (onMark "..") then return { halfRange := !(← rangeRest read) }
  else return {}

/-- Read a range without a start, or two dots that stand for further elements. -/
def restPattern : Reader Shape := do
  require !(← look (onMark "..."))
  return { halfRange := ← rangeRest read }

/-! ### Structures, tuples and slices -/

/-- Read a field of a structure: a name that is bound, or a field with its pattern. -/
def fieldPattern : Reader Unit := do
  let boxed ← word? "box"
  let referenced ← word? "ref"
  let changeable ← word? "mut"
  if boxed || referenced || changeable then name
  else
    let named ← member
    if ← mark? ":" then discard read.alternatives else require named

/-- Read the fields of a structure; two dots stand for all others. -/
def fieldPatterns : Reader Unit :=
  within '{' <| repeated do
    if ← atEnd then return false
    discard (outerAnnotations read)
    if ← mark? ".." then return false
    fieldPattern read
    if ← atEnd then return false
    mark ","
    return true

/-- Read a pattern that starts with a path. -/
def pathPattern : Reader Shape := do
  let path ← qualifiedPath read true
  if ← look (usesMacro path) then
    macroGroup
    return {}
  else if ← look (onGroup '{') then
    fieldPatterns read
    return {}
  else if ← look (onGroup '(') then
    within '(' (listed (discard read.alternatives))
    return {}
  else if ← look (onMark "..") then return { halfRange := !(← rangeRest read) }
  else return {}

/-- Read a slice.  A range in it has to have both its ends. -/
def slicePattern : Reader Unit :=
  within '[' <| listed do
    let element ← read.alternatives
    require !element.halfRange

/-- Read a name that is bound, with the pattern its value has to fit. -/
def bindingPattern : Reader Unit := do
  discard (word? "ref")
  discard (word? "mut")
  if !(← word? "self") then name
  if ← mark? "@" then read.pattern

/-! ### Any pattern -/

/-- A pattern is in front that starts with a path. -/
def onPathPattern (tokens : List Token) : Bool :=
  let after := tokens.drop 1
  onMark "::" tokens || onMark "<" tokens || onWordOf ["Self", "super", "crate"] tokens
    || (onWord "self" tokens && onMark "::" after)
    || (onName tokens && (onMark "::" after || onMark "!" after || onGroup '{' after
      || onGroup '(' after || onMark ".." after))

/-- A pattern is in front that starts with a literal or a constant. -/
def onConstantPattern (tokens : List Token) : Bool :=
  onMark "-" tokens || onLiteral tokens || onWord "const" tokens

/-- Read a pattern without alternatives. -/
def readPattern : Reader Shape := do
  if ← look onPathPattern then pathPattern read
  else if ← word? "_" then return {}
  else if ← word? "box" then
    read.pattern
    return {}
  else if ← look onConstantPattern then literalPattern read
  else if ← look fun tokens => onWordOf ["ref", "mut", "self"] tokens || onName tokens then
    bindingPattern read
    return {}
  else if ← mark? "&" then
    discard (word? "mut")
    read.pattern
    return {}
  else if ← look (onGroup '(') then
    within '(' (listed (discard read.alternatives))
    return {}
  else if ← look (onGroup '[') then
    slicePattern read
    return {}
  else restPattern read

end ReplicaBridge.Grammar
