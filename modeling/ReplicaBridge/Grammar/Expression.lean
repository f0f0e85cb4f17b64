/-
Module: ReplicaBridge.Grammar.Expression
Purpose: Reading expressions: operands with the operators in front of them and what follows
  them, and the operators between operands by how tightly they bind.
Main exports: readOperand, readContinuation, readStandalone, readExpression
-/
import ReplicaBridge.Grammar.Pattern

namespace ReplicaBridge.Grammar

open Reader

variable (read : Phrases)

/-! ### What is in front -/

/-- A single point is in front, behind which a field or a method is named. -/
def onPoint (tokens : List Token) : Bool :=
  onMark "." tokens && !onMark ".." tokens

/-- Lifetimes of a closure are in front. -/
def onLifetimes (tokens : List Token) : Bool :=
  onWord "for" tokens && onMark "<" (tokens.drop 1)
    && (onLabel (tokens.drop 2) || onMark ">" (tokens.drop 2))

/-- A closure is in front. -/
def onClosure (tokens : List Token) : Bool :=
  let after := tokens.drop 1
  onMark "|" tokens || onWordOf ["move", "static"] tokens || onLifetimes tokens
    || (onWord "const" tokens && !onGroup '{' after)
    || (onWord "async" tokens && (onMark "|" after || onWord "move" after))

/-- A block that is run later is in front. -/
def onAsyncBlock (tokens : List Token) : Bool :=
  onWord "async" tokens && (onGroup '{' (tokens.drop 1)
    || (onWord "move" (tokens.drop 1) && onGroup '{' (tokens.drop 2)))

/-- A block is in front, or a branch or loop with blocks. -/
def onBlockLike (tokens : List Token) : Bool :=
  onGroup '{' tokens || onLabel tokens || onWordOf ["if", "while", "loop", "match", "unsafe"] tokens
    || (onWord "for" tokens && !onLifetimes tokens)
    || (onWordOf ["try", "const"] tokens && onGroup '{' (tokens.drop 1))

/-- A path is in front that is an operand. -/
def onOperandPath (tokens : List Token) : Bool :=
  onPath tokens || (onWord "try" tokens
    && (onMark "!" (tokens.drop 1) || onMark "::" (tokens.drop 1)))

/-- The operators that an expression can begin with, each with the longer ones that it must
not be a part of. -/
def opening : List (String × List String) :=
  [("!", ["!="]), ("-", ["-=", "->"]), ("*", ["*="]), ("|", ["|="]), ("&", ["&="]), ("..", []),
    ("<", ["<=", "<<="]), ("::", []), ("#", [])]

/-- An expression can begin here. -/
def opensExpression (tokens : List Token) : Bool :=
  onAnyWord tokens || onAnyGroup tokens || onLiteral tokens || onLabel tokens
    || opening.any fun (operator, longer) =>
      onMark operator tokens && !longer.any (onMark · tokens)

/-- A range without an end stops here. -/
def closesOpenRange (structs : Bool) (tokens : List Token) : Bool :=
  tokens.isEmpty || onPoint tokens || onWord "as" tokens || (!structs && onGroup '{' tokens)
    || [",", ";", "?", "=>", "=", "+", "/", "%", "^", ">", "<=", "!=", "-=", "*=", "&=", "|=",
      "<<="].any (onMark · tokens)

/-! ### Operators between operands -/

/-- Read what stands on the right of an operator. -/
def rightSide (structs : Bool) (rank : Rank) : Reader Unit := do
  let start ← read (.operand structs)
  discard <| loop (fun shape => do
    let tokens ← get
    let next := Rank.ahead tokens
    if next.level > rank.level || (next = rank && rank = .assign) then
      let found ← read (.continuation structs next shape)
      return if (← get).length < tokens.length then some found else none
    else return none) start

/-- Read the dots of a range and its end, which only two dots can do without. -/
def rangeEnd (structs : Bool) : Reader Unit := do
  if ← mark? "..=" then rightSide read structs .range
  else
    require !(← look (onMark "..."))
    mark ".."
    if !(← look (closesOpenRange structs)) then rightSide read structs .range

/-- Read the type that a value is converted to.  What would be about the value cannot follow
it. -/
def conversion : Reader Unit := do
  word "as"
  read.plainType
  require !(← look fun tokens => onPoint tokens || onMark "?" tokens || onGroup '[' tokens
    || onGroup '(' tokens)

/-- Read an operator that binds as tightly as `floor`, with what stands on its right. -/
def operation? (structs : Bool) (floor : Rank) (left : Shape) : Reader (Option Shape) := do
  if left.range then return none
  match Rank.operator? (← get) with
  | some (operator, rank) =>
    if rank.level < floor.level then return none
    require !(rank = .compare && left.comparison)
    mark operator
    rightSide read structs rank
    return some { comparison := rank = .compare }
  | none =>
    if floor.level ≤ Rank.assign.level && (← look Rank.onAssignment) then
      mark "="
      rightSide read structs .assign
      return some {}
    else if floor.level ≤ Rank.range.level && (← look (onMark "..")) then
      rangeEnd read structs
      return some { range := true }
    else if ← look (onWord "as") then
      conversion read
      return some {}
    else return none

/-- Read what continues an expression with operators that bind as tightly as `floor`. -/
def readContinuation (structs : Bool) (floor : Rank) (start : Shape) : Reader Shape :=
  loop (operation? read structs floor) start

/-- Read an expression. -/
def readExpression (structs : Bool) : Reader Shape := do
  let start ← read (.operand structs)
  read (.continuation structs .none start)

/-! ### Branches, loops and blocks -/

/-- Read the blocks of a branch behind its first word. -/
def branches : Reader Unit :=
  repeated do
    read.condition
    block read
    if ← word? "else" then
      if ← word? "if" then return true
      block read
    return false

/-- Read the arms of a choice between patterns.  A comma follows an arm, unless it is the last
one or a block. -/
def arms : Reader Unit := do
  innerAnnotations read
  repeated do
    if ← atEnd then return false
    discard (outerAnnotations read)
    discard read.alternatives
    if ← word? "if" then read.expression
    mark "=>"
    let value ← read .standalone
    let separated ← mark? ","
    require (separated || value.blockLike || (← atEnd))
    return true

/-- Read a block, or a branch or loop with blocks.  A loop can have a label, and so can a block
by itself. -/
def blockLike : Reader Unit := do
  if ← perhaps onLabel then
    mark ":"
    require (← look fun tokens => onWordOf ["while", "for", "loop"] tokens || onGroup '{' tokens)
  if ← word? "if" then branches read
  else if ← word? "while" then
    read.condition
    annotatedBlock read
  else if ← word? "for" then
    discard read.alternatives
    word "in"
    read.condition
    annotatedBlock read
  else if ← word? "match" then
    read.condition
    within '{' (arms read)
  else if ← word? "try" then block read
  else
    discard (perhaps (onWordOf ["loop", "unsafe", "const"]))
    annotatedBlock read

/-! ### Operands -/

/-- Read a closure: its parameters between bars, and its value. -/
def closure (structs : Bool) : Reader Unit := do
  whenOn (onWord "for") (boundLifetimes read)
  discard (word? "const")
  discard (word? "static")
  discard (word? "async")
  discard (word? "move")
  mark "|"
  separated "," (onMark "|") do
    discard (outerAnnotations read)
    read.pattern
    if ← mark? ":" then read.type
  mark "|"
  if ← mark? "->" then
    read.type
    block read
  else discard (read (.expression structs))

/-- Read the fields of a structure; behind two dots the value may stand that gives all
others. -/
def fieldValues : Reader Unit :=
  within '{' <| repeated do
    if ← atEnd then return false
    if ← mark? ".." then
      if !(← atEnd) then read.expression
      return false
    discard (outerAnnotations read)
    let named ← member
    if ← mark? ":" then read.expression else require named
    if ← atEnd then return false
    mark ","
    return true

/-- Read an operand that starts with a path: a value, the use of a macro or a structure. -/
def pathOperand (structs : Bool) : Reader Shape := do
  let path ← qualifiedPath read true
  if ← look (usesMacro path) then
    let braced ← lookPast 1 (onGroup '{')
    macroGroup
    return { bracedMacro := braced }
  if structs then whenOn (onGroup '{') (fieldValues read)
  return {}

/-- Read a jump with its label and its value, if they are given. -/
def jump (structs : Bool) : Reader Unit := do
  if ← word? "break" then
    require !(← look fun tokens => onLabel tokens && onMark ":" (tokens.drop 1))
    discard (perhaps onLabel)
    if structs || !(← look (onGroup '{')) then whenOn opensExpression read.expression
  else if ← word? "continue" then discard (perhaps onLabel)
  else if ← word? "become" then read.expression
  else
    one (onWordOf ["return", "yield"])
    whenOn opensExpression read.expression

/-- Read a condition that binds names. -/
def bindingCondition (structs : Bool) : Reader Unit := do
  word "let"
  discard read.alternatives
  mark "="
  let start ← read (.operand structs)
  discard (read (.continuation structs .compare start))

/-- Read the elements of an array, or one element and how often it is repeated. -/
def elements : Reader Unit := do
  if !(← atEnd) then
    read.expression
    if ← mark? ";" then read.expression
    else if !(← atEnd) then
      mark ","
      listed read.expression

/-- Read an operand that no word and no path is in front of. -/
def unnamedOperand (structs : Bool) : Reader Shape := do
  if ← look (onGroup '(') then
    within '(' (listed read.expression)
    return {}
  else if ← look (onGroup '[') then
    within '[' (elements read)
    return {}
  else if ← look (onMark "..") then
    rangeEnd read structs
    return { range := true }
  else
    word "_"
    return {}

/-- Read an operand without operators. -/
def bareOperand (structs : Bool) : Reader Shape := do
  if ← look onLiteral then
    literal
    return {}
  else if ← look onAsyncBlock then
    word "async"
    discard (word? "move")
    block read
    return {}
  else if ← look onClosure then
    closure read structs
    return {}
  else if ← look onBuiltIn then
    builtIn
    return {}
  else if ← look onOperandPath then pathOperand read structs
  else if ← look onBlockLike then
    blockLike read
    return {}
  else if ← look (onWordOf ["break", "continue", "return", "become", "yield"]) then
    jump read structs
    return {}
  else if ← look (onWord "let") then
    bindingCondition read structs
    return {}
  else unnamedOperand read structs

/-- Read what follows a point: places of nested fields, the wait for a result, a field or a
method. -/
def access : Reader Unit := do
  mark "."
  match ← get with
  | .literal (.fraction spelling) :: rest =>
    set rest
    match Literal.places? spelling with
    | none => failure
    | some false => return ()
    | some true => pure ()
  | _ => pure ()
  if ← word? "await" then return ()
  if ← member then
    if ← mark? "::" then
      angled read
      require (← look (onGroup '('))

/-- Read what follows an operand: calls, fields, elements and question marks. -/
def followers (start : Shape) : Reader Shape :=
  loop (fun shape => do
    if ← look (onGroup '(') then
      within '(' (listed read.expression)
      return some {}
    else if ← look (onGroup '[') then
      within '[' read.expression
      return some {}
    else if shape.range then return none
    else if ← look onPoint then
      access read
      return some {}
    else if ← mark? "?" then return some {}
    else return none) start

/-- Read an operand with the operators in front of it.  A range that starts with its dots
cannot be annotated. -/
def readOperand (structs : Bool) : Reader Shape := do
  let annotated ← outerAnnotations read
  if ← mark? "&" then
    if ← look fun tokens => onWord "raw" tokens && onWordOf ["mut", "const"] (tokens.drop 1) then
      skip 2
    else discard (word? "mut")
    discard (read (.operand structs))
    return {}
  else if ← perhaps fun tokens => ["*", "!", "-"].any (onMark · tokens) then
    discard (read (.operand structs))
    return {}
  else
    let found ← followers read (← bareOperand read structs)
    require !(annotated && found.range)
    return found

/-- Read an expression that is a statement or an arm.  One that starts with a block ends with
it, unless a point or a question mark follows. -/
def readStandalone : Reader Shape := do
  discard (outerAnnotations read)
  if ← look onBlockLike then
    blockLike read
    if ← look fun tokens => onPoint tokens || onMark "?" tokens then
      read (.continuation true .none (← followers read {}))
    else return { blockLike := true }
  else
    let start ← read (.operand true)
    read (.continuation true .none start)

end ReplicaBridge.Grammar
