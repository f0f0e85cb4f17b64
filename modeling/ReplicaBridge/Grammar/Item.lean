/-
Module: ReplicaBridge.Grammar.Item
Purpose: Reading items: functions, types and their fields, constants, imports, modules,
  traits with their implementations, and macros.
Main exports: readItem, readImports
-/
import ReplicaBridge.Grammar.Statement

namespace ReplicaBridge.Grammar

open Reader

variable (read : Phrases)

/-! ### Who can see an item -/

/-- Read who can see an item, if that is said. -/
def visibility : Reader Unit := do
  if ← word? "pub" then
    match ← get with
    | .group '(' content :: rest =>
      if content.length = 1 && onWordOf ["crate", "self", "super"] content then set rest
      else if onWord "in" content then
        within '(' do
          word "in"
          plainPath
    | _ => pure ()

/-! ### Functions -/

/-- Read the words in front of a function. -/
def qualifiers : Reader Unit := do
  discard (word? "const")
  discard (word? "async")
  discard (word? "unsafe")
  convention

/-- A function is in front. -/
def onFunction (tokens : List Token) : Bool :=
  match qualifiers.run tokens with
  | some (_, rest) => onWord "fn" rest
  | none => false

/-- Read the object that a method is called on. -/
def receiver : Reader Unit := do
  let referenced ← mark? "&"
  if referenced then discard (perhaps onLabel)
  discard (word? "mut")
  word "self"
  if !referenced then
    if ← mark? ":" then read.type

/-- Read a parameter with its pattern and type; says whether it stands for any number of
further ones. -/
def typedParameter : Reader Bool := do
  if ← look fun tokens => onName tokens && onMark "<" (tokens.drop 1) then
    read.type
    return false
  read.pattern
  mark ":"
  if ← mark? "..." then return true
  read.type
  return false

/-- Read the parameters of a function; only the first one can be the object that a method is
called on. -/
def parameters : Reader Unit :=
  discard <| loop (fun isFirst => do
    if ← atEnd then return none
    discard (outerAnnotations read)
    if ← mark? "..." then
      discard (mark? ",")
      return none
    let further ← (do receiver read; require isFirst; return false) <|> typedParameter read
    if further then
      discard (mark? ",")
      return none
    if ← atEnd then return none
    mark ","
    return some false) true

/-- Read what a function is called with and what it gives. -/
def signature : Reader Unit := do
  qualifiers
  word "fn"
  name
  generics read
  within '(' (parameters read)
  result read
  whereClause read

/-- Read a function, perhaps without its block. -/
def function : Reader Unit := do
  signature read
  if !(← mark? ";") then annotatedBlock read

/-! ### Types -/

/-- Read fields with names. -/
def namedFields : Reader Unit :=
  within '{' <| listed do
    discard (outerAnnotations read)
    visibility
    one fun tokens => onName tokens || onWord "_" tokens
    mark ":"
    read.type

/-- Read fields without names. -/
def unnamedFields : Reader Unit :=
  within '(' <| listed do
    discard (outerAnnotations read)
    visibility
    read.type

/-- Read a structure behind its first word. -/
def structureItem : Reader Unit := do
  name
  generics read
  if ← look (onGroup '(') then
    unnamedFields read
    whereClause read
    mark ";"
  else
    whereClause read
    if !(← mark? ";") then namedFields read

/-- Read a choice of variants behind its first word. -/
def choice : Reader Unit := do
  name
  generics read
  whereClause read
  within '{' <| listed do
    discard (outerAnnotations read)
    visibility
    name
    if ← look (onGroup '{') then namedFields read
    else whenOn (onGroup '(') (unnamedFields read)
    if ← mark? "=" then read.expression

/-- Read a name for a type behind its first word. -/
def typeName : Reader Unit := do
  name
  generics read
  if ← mark? ":" then separated "+" closesConditions read.bound
  whereClause read
  if ← mark? "=" then read.type
  whereClause read
  mark ";"

/-! ### Values -/

/-- Read a constant behind its first word. -/
def constant : Reader Unit := do
  one fun tokens => onName tokens || onWord "_" tokens
  generics read
  mark ":"
  read.type
  if ← mark? "=" then read.expression
  whereClause read
  mark ";"

/-- Read a variable behind its first word. -/
def variableItem : Reader Unit := do
  discard (word? "mut")
  name
  if ← mark? ":" then read.type else require (← look (onMark "="))
  if ← mark? "=" then read.expression
  mark ";"

/-! ### Imports -/

/-- Read what is imported: a name, perhaps within others, all names, or several at once.  A
leading double colon may follow an opening brace where `rooted` holds. -/
def readImports (rooted : Bool) : Reader Unit := do
  if ← mark? "*" then return ()
  else if ← look (onGroup '{') then
    within '{' <| listed do
      let fromRoot ← if rooted then mark? "::" else pure false
      discard (read (.imports (rooted && !fromRoot)))
  else
    one fun tokens => onName tokens || onWordOf ["self", "super", "crate", "try"] tokens
    if ← mark? "::" then discard (read (.imports false))
    else if ← word? "as" then one fun tokens => onName tokens || onWord "_" tokens

/-- Read an import behind its first word. -/
def imported : Reader Unit := do
  let fromRoot ← mark? "::"
  discard (read (.imports !fromRoot))
  mark ";"

/-- Read the name of another library behind its first word. -/
def library : Reader Unit := do
  one fun tokens => onName tokens || onWord "self" tokens
  if ← word? "as" then one fun tokens => onName tokens || onWord "_" tokens
  mark ";"

/-! ### Items that hold others -/

/-- Read what an item in braces holds, each behind its annotations. -/
def contents (inner : Reader Unit) : Reader Unit :=
  within '{' do
    innerAnnotations read
    repeated do
      if ← atEnd then return false
      discard (outerAnnotations read)
      inner
      return true

/-- Read the use of a macro as an item; a semicolon ends it unless its group has braces. -/
def macroItem : Reader Unit := do
  plainPath
  mark "!"
  discard (perhaps fun tokens => onName tokens || onWord "try" tokens)
  let braced ← look (onGroup '{')
  one onAnyGroup
  if !braced then mark ";"

/-- Read an item of a trait, an implementation or a foreign library. -/
def associated : Reader Unit := do
  visibility
  discard (perhaps fun tokens => onWord "default" tokens && !onMark "!" (tokens.drop 1))
  if ← look onFunction then function read
  else if ← word? "const" then constant read
  else if ← word? "static" then variableItem read
  else if ← word? "type" then typeName read
  else macroItem

/-- Read a module behind its first word. -/
def moduleItem : Reader Unit := do
  one fun tokens => onName tokens || onWord "try" tokens
  if !(← mark? ";") then contents read (discard (read .item))

/-- Read a trait behind its first word; it may be another name for bounds. -/
def trait : Reader Unit := do
  name
  generics read
  if ← mark? "=" then
    separated "+" closesConditions read.bound
    whereClause read
    mark ";"
  else
    if ← mark? ":" then separated "+" closesConditions read.bound
    whereClause read
    contents read (associated read)

/-- Parameters of an implementation are in front, and not a type in angle brackets. -/
def onParameters (tokens : List Token) : Bool :=
  let after := tokens.drop 1
  onMark "<" tokens && (onMark ">" after || onMark "#" after || onWord "const" after
    || ((onLabel after || onName after)
      && [":", ",", ">", "="].any (onMark · (tokens.drop 2))))

/-- Read an implementation behind its first word. -/
def implementation : Reader Unit := do
  whenOn onParameters (generics read)
  if ← look fun tokens => onWord "const" tokens
      || (onMark "?" tokens && onWord "const" (tokens.drop 1)) then
    discard (mark? "?")
    word "const"
  if ← look fun tokens => onMark "!" tokens && !onGroup '{' (tokens.drop 1) then mark "!"
  read.type
  if ← word? "for" then read.type
  whereClause read
  contents read (associated read)

/-! ### Any item -/

/-- Read an item that starts with the name of a foreign library's convention, or with the name
of another library. -/
def foreign : Reader Unit := do
  if ← look fun tokens => onWord "extern" tokens && onWord "crate" (tokens.drop 1) then
    skip 2
    library
  else
    convention
    contents read (associated read)

/-- Read an item behind the word that says that it is to be used with care. -/
def careful : Reader Unit := do
  if ← word? "mod" then moduleItem read
  else if ← word? "impl" then implementation read
  else if ← look (onWord "extern") then foreign read
  else
    discard (word? "auto")
    word "trait"
    trait read

/-- Read a macro behind its first word. -/
def macroDefinition : Reader Unit := do
  name
  discard (perhaps (onGroup '('))
  one (onGroup '{')

/-- Read an item behind its annotations. -/
def readItem : Reader Unit := do
  let usesMacro ← look fun tokens => !(pastMacroPath tokens).isEmpty
  visibility
  if ← look onFunction then function read
  else if ← look (onWord "extern") then foreign read
  else if ← word? "use" then imported read
  else if ← word? "static" then variableItem read
  else if ← word? "const" then constant read
  else if ← word? "unsafe" then careful read
  else if ← word? "mod" then moduleItem read
  else if ← word? "type" then typeName read
  else if ← word? "struct" then structureItem read
  else if ← word? "enum" then choice read
  else if ← perhaps fun tokens => onWord "union" tokens && onName (tokens.drop 1) then
    name
    generics read
    whereClause read
    namedFields read
  else if ← word? "trait" then trait read
  else if ← look fun tokens => onWord "auto" tokens && onWord "trait" (tokens.drop 1) then
    skip 2
    trait read
  else if ← look fun tokens => onWord "impl" tokens
      || (onWord "default" tokens && !onMark "!" (tokens.drop 1)) then
    discard (word? "default")
    discard (word? "unsafe")
    word "impl"
    implementation read
  else if ← word? "macro" then macroDefinition
  else
    require usesMacro
    macroItem

end ReplicaBridge.Grammar
