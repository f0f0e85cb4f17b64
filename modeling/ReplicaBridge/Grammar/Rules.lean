/-
Module: ReplicaBridge.Grammar.Rules
Purpose: The rules of the grammar together: which reader belongs to which phrase, and the
  reading of phrases inside one another to any depth.
Main exports: rule, phrases
-/
import ReplicaBridge.Grammar.Item

namespace ReplicaBridge.Grammar

/-- A reader of something of which nothing has to be known. -/
def plainly (reader : Reader Unit) : Reader Shape := do
  reader
  return {}

/-- The reader of each phrase, given a reader of the phrases inside it. -/
def rule (read : Phrases) : Phrases
  | .expression structs => readExpression read structs
  | .operand structs => readOperand read structs
  | .standalone => readStandalone read
  | .continuation structs floor start => readContinuation read structs floor start
  | .type sums => readType read sums
  | .bound captured constant => readBound read captured constant
  | .pattern => readPattern read
  | .statements => plainly (readStatements read)
  | .item => plainly (readItem read)
  | .imports rooted => plainly (readImports read rooted)

/-- Read phrases that contain one another less deeply than `depth`. -/
def phrasesTo : (depth : Nat) → Phrases
  | 0 => fun _ => failure
  | depth + 1 => rule (phrasesTo depth)

/-- At most so many phrases start with the same token, each inside the one before. -/
def phrasesAtToken : Nat := 40

/-- Read the phrases of a text of so many characters. -/
def phrases (size : Nat) : Phrases :=
  phrasesTo (phrasesAtToken * (size + 2))

end ReplicaBridge.Grammar
