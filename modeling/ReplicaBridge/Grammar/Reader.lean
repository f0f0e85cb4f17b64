/-
Module: ReplicaBridge.Grammar.Reader
Purpose: Readers of tokens.  A reader takes tokens from the front and gives a finding, or it
  refuses; which way it goes is decided by looking at the tokens ahead.
Main exports: Reader, Reader.loop, Reader.listed, onMark, onWord, onName
-/
import ReplicaBridge.Grammar.Token

namespace ReplicaBridge.Grammar

/-! ### Looking ahead -/

/-- Take an operator of several marks, all but the last of which have to be joint. -/
def afterMarks : List Char → List Token → Option (List Token)
  | [], tokens => some tokens
  | [last], .mark char _ :: rest => if char = last then some rest else none
  | first :: more, .mark char joint :: rest =>
    if char = first && joint then afterMarks more rest else none
  | _, _ => none

/-- An operator is in front, perhaps as the first part of a longer one. -/
def onMark (operator : String) (tokens : List Token) : Bool :=
  (afterMarks operator.toList tokens).isSome

/-- A word is in front. -/
def onWord (word : String) : List Token → Bool
  | .word text :: _ => text == word
  | _ => false

/-- One of several words is in front. -/
def onWordOf (words : List String) : List Token → Bool
  | .word text :: _ => words.contains text
  | _ => false

/-- Any word is in front. -/
def onAnyWord : List Token → Bool
  | .word _ :: _ => true
  | _ => false

/-- The words that cannot be names. -/
def reserved : List String :=
  ["_", "abstract", "as", "async", "await", "become", "box", "break", "const", "continue",
    "crate", "do", "dyn", "else", "enum", "extern", "false", "final", "fn", "for", "if", "impl",
    "in", "let", "loop", "macro", "match", "mod", "move", "mut", "override", "priv", "pub", "ref",
    "return", "Self", "self", "static", "struct", "super", "trait", "true", "try", "type",
    "typeof", "unsafe", "unsized", "use", "virtual", "where", "while", "yield"]

/-- A word is in front that can be a name. -/
def onName : List Token → Bool
  | .word text :: _ => !reserved.contains text
  | _ => false

/-- A label is in front. -/
def onLabel : List Token → Bool
  | .label :: _ => true
  | _ => false

/-- A group of a kind is in front. -/
def onGroup (opening : Char) : List Token → Bool
  | .group bracket _ :: _ => bracket = opening
  | _ => false

/-- A group of any kind is in front. -/
def onAnyGroup : List Token → Bool
  | .group _ _ :: _ => true
  | _ => false

/-- A literal or a truth value is in front; a number may be negative. -/
def onLiteral : List Token → Bool
  | .literal _ :: _ => true
  | .word "true" :: _ => true
  | .word "false" :: _ => true
  | .mark '-' _ :: .literal (.number _ _) :: _ => true
  | .mark '-' _ :: .literal (.fraction _) :: _ => true
  | _ => false

/-! ### Readers -/

/-- A reader of tokens. -/
abbrev Reader := StateT (List Token) Option

namespace Reader

variable {α : Type}

/-- What holds of the tokens ahead. -/
def look (test : List Token → Bool) : Reader Bool := do
  return test (← get)

/-- What holds of the tokens behind so many ones. -/
def lookPast (count : Nat) (test : List Token → Bool) : Reader Bool := do
  return test ((← get).drop count)

/-- Take so many tokens. -/
def skip (count : Nat) : Reader Unit :=
  modify (·.drop count)

/-- Refuse unless something holds. -/
def require (condition : Bool) : Reader Unit :=
  if condition then pure () else failure

/-- Take one token of a kind. -/
def one (test : List Token → Bool) : Reader Unit := do
  require (← look test)
  skip 1

/-- Take one token of a kind if it is there; says whether it was. -/
def perhaps (test : List Token → Bool) : Reader Bool := do
  if ← look test then
    skip 1
    return true
  else return false

/-- Take an operator. -/
def mark (operator : String) : Reader Unit := do
  match afterMarks operator.toList (← get) with
  | some rest => set rest
  | none => failure

/-- Take an operator if it is there; says whether it was. -/
def mark? (operator : String) : Reader Bool := do
  match afterMarks operator.toList (← get) with
  | some rest =>
    set rest
    return true
  | none => return false

def word (text : String) : Reader Unit :=
  one (onWord text)

def word? (text : String) : Reader Bool :=
  perhaps (onWord text)

def name : Reader Unit :=
  one onName

def label : Reader Unit :=
  one onLabel

/-- Take a literal, with the sign in front of it. -/
def literal : Reader Unit := do
  require (← look onLiteral)
  skip (if ← look (onMark "-") then 2 else 1)

/-- Nothing is left. -/
def atEnd : Reader Bool :=
  look List.isEmpty

/-- Read all that a group of a kind holds. -/
def within (opening : Char) (inner : Reader α) : Reader α := do
  match ← get with
  | .group bracket content :: rest =>
    require (bracket = opening)
    match inner.run content with
    | some (found, []) =>
      set rest
      return found
    | _ => failure
  | _ => failure

/-- Take steps until one says that it was the last, at most `limit` of them. -/
def steps (limit : Nat) (step : α → Reader (Option α)) (start : α) : Reader α :=
  match limit with
  | 0 => pure start
  | limit + 1 => do
    match ← step start with
    | none => return start
    | some next => steps limit step next

/-- Take steps until one says that it was the last.  A step that is not the last takes at
least one token. -/
def loop (step : α → Reader (Option α)) (start : α) : Reader α := do
  steps ((← get).length + 1) step start

/-- Take steps until one says that there is nothing more to do. -/
def repeated (step : Reader Bool) : Reader Unit :=
  loop (fun _ => do return if ← step then some () else none) ()

/-- Read items between commas to the end; a comma may follow the last one. -/
def listOf (item : Reader α) : Reader (List α) := do
  let found ← loop (fun (found, ended) => do
    if ended || (← atEnd) then return none
    let next ← item
    if ← atEnd then return some (next :: found, true)
    mark ","
    return some (next :: found, false)) ([], false)
  return found.1.reverse

/-- Read items between commas to the end, of which nothing has to be known. -/
def listed (item : Reader Unit) : Reader Unit :=
  discard (listOf item)

/-- Read items as long as a separator follows.  Where `closes` holds there is no item. -/
def separated (separator : String) (closes : List Token → Bool) (item : Reader Unit) :
    Reader Unit :=
  repeated do
    if ← look closes then return false
    item
    mark? separator

/-- Read something; gives the tokens it took as well. -/
def taken (reader : Reader α) : Reader (α × List Token) := do
  let tokens ← get
  let found ← reader
  return (found, tokens.take (tokens.length - (← get).length))

/-- Read the name of a field, or its place; says whether it is a name. -/
def member : Reader Bool := do
  match ← get with
  | .literal (.number place false) :: rest =>
    require (place < 1 <<< 32)
    set rest
    return false
  | _ =>
    name
    return true

/-- Read something if it is announced. -/
def whenOn (test : List Token → Bool) (reader : Reader Unit) : Reader Unit := do
  if ← look test then reader

end Reader

end ReplicaBridge.Grammar
