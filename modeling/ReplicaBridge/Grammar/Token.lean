/-
Module: ReplicaBridge.Grammar.Token
Purpose: The tokens of a declaration's text: words, literals, marks, and groups between
  brackets.  Blanks and comments stand between tokens and mean nothing, except that a comment
  for documentation stands for the annotation that holds its text.
Main exports: Token, Token.ofText?
-/
import ReplicaBridge.Grammar.Literal

namespace ReplicaBridge.Grammar

/-- A token of a declaration's text. -/
inductive Token where
  /-- An identifier or a reserved word. -/
  | word (text : String)
  /-- The name of a lifetime or of a label, behind its apostrophe. -/
  | label
  | literal (value : Literal)
  /-- A mark; `joint` if another one stands right behind it. -/
  | mark (char : Char) (joint : Bool)
  /-- What stands between two matching brackets, with the opening one. -/
  | group (opening : Char) (content : List Token)
deriving Repr, Inhabited

namespace Token

/-! ### Blanks and comments -/

/-- A comment opens here that is for documentation; says whether it is about what it stands
in, and gives what follows its opening. -/
def documents? : List Char → Option (Bool × List Char)
  | '/' :: '/' :: '!' :: rest => some (true, rest)
  | '/' :: '/' :: '/' :: rest => if rest.head? = some '/' then none else some (false, rest)
  | '/' :: '*' :: '!' :: rest => some (true, rest)
  | '/' :: '*' :: '*' :: rest =>
    if rest.head?.any fun char => char = '*' || char = '/' then none else some (false, rest)
  | _ => none

/-- Drop blanks and comments in front.  A comment runs to the end of its line, or stands
between marks, where `depth` of them are open; these nest. -/
def skipBlanks : (depth : Nat) → (inLine : Bool) → List Char → List Char
  | _, _, [] => []
  | 0, true, char :: rest => skipBlanks 0 (char ≠ '\n') rest
  | depth + 1, _, '*' :: '/' :: rest => skipBlanks depth false rest
  | depth + 1, _, '/' :: '*' :: rest => skipBlanks (depth + 2) false rest
  | depth + 1, _, _ :: rest => skipBlanks (depth + 1) false rest
  | 0, false, '/' :: '/' :: rest =>
    if (documents? ('/' :: '/' :: rest)).isSome then '/' :: '/' :: rest
    else skipBlanks 0 true rest
  | 0, false, '/' :: '*' :: rest =>
    if (documents? ('/' :: '*' :: rest)).isSome then '/' :: '*' :: rest
    else skipBlanks 1 false rest
  | 0, false, char :: rest => if Text.isBlank char then skipBlanks 0 false rest else char :: rest

/-- Drop the rest of a comment between marks, where `depth` more of them are open. -/
def afterComment : (depth : Nat) → List Char → Option (List Char)
  | _, [] => none
  | 0, '*' :: '/' :: rest => some rest
  | depth + 1, '*' :: '/' :: rest => afterComment depth rest
  | depth, '/' :: '*' :: rest => afterComment (depth + 1) rest
  | depth, _ :: rest => afterComment depth rest

/-! ### Tokens one by one -/

/-- The marks. -/
def marks : List Char :=
  "~!@#$%^&*-=+|;:,<.>/?'".toList

/-- The brackets, with the ones that close. -/
def brackets : List (Char × Char) :=
  [('(', ')'), ('[', ']'), ('{', '}')]

/-- A mark stands here, and not the opening of a comment. -/
def opensMark : List Char → Bool
  | '/' :: '/' :: _ => false
  | '/' :: '*' :: _ => false
  | char :: _ => marks.contains char
  | [] => false

/-- Read a label: an apostrophe and a word. -/
def label? : List Char → Option (Token × List Char)
  | '\'' :: rest =>
    if rest.head?.any isWordStart then some (.label, rest.dropWhile isWordChar) else none
  | _ => none

/-- Read a word; one that opens with `r#` is never a reserved one. -/
def word? : List Char → Option (Token × List Char)
  | 'r' :: '#' :: rest =>
    if rest.head?.any isWordStart then
      some (.word ("r#" ++ String.ofList (rest.takeWhile isWordChar)), rest.dropWhile isWordChar)
    else some (.word "r", '#' :: rest)
  | char :: rest =>
    if isWordStart char then
      some (.word (String.ofList (char :: rest.takeWhile isWordChar)), rest.dropWhile isWordChar)
    else none
  | [] => none

/-- Read a mark or a bracket. -/
def mark? : List Char → Option (Token × List Char)
  | char :: rest =>
    if brackets.any fun (opening, closing) => char = opening || char = closing then
      some (.mark char false, rest)
    else if char ≠ '\'' && opensMark (char :: rest) then some (.mark char (opensMark rest), rest)
    else none
  | [] => none

/-- The annotation that a comment for documentation stands for. -/
def documentation (inner : Bool) : List Token :=
  .mark '#' inner :: (if inner then [.mark '!' false] else [])
    ++ [.mark '[' false, .word "doc", .mark '=' false, .literal (.text ""), .mark ']' false]

/-- Read what is in front, which is one token unless it is a comment for documentation. -/
def first? (chars : List Char) : Option (List Token × List Char) :=
  match documents? chars with
  | some (inner, rest) =>
    if (chars.drop 1).head? = some '/' then
      some (documentation inner, rest.dropWhile (· ≠ '\n'))
    else (afterComment 0 rest).map (documentation inner, ·)
  | none => match Literal.first? chars with
    | some (value, rest) => some ([.literal value], rest)
    | none => (((label? chars).or (mark? chars)).or (word? chars)).map fun (token, rest) =>
      ([token], rest)

/-- The tokens of a text, brackets being marks.  Every step takes at least one character. -/
def ofChars? (chars : List Char) : Option (List Token) :=
  match skipBlanks 0 false chars with
  | [] => some []
  | front => match first? front with
    | none => none
    | some (tokens, rest) =>
      if rest.length < chars.length then (ofChars? rest).map (tokens ++ ·) else none
termination_by chars.length

/-! ### Groups -/

/-- A group that is still open: its opening bracket, and what stands before it. -/
structure OpenGroup where
  opening : Char
  before : List Token

/-- Make groups of what stands between matching brackets.  `current` is what the innermost
open group holds so far, the last token first. -/
def nest : (outer : List OpenGroup) → (current : List Token) → List Token → Option (List Token)
  | [], current, [] => some current.reverse
  | _ :: _, _, [] => none
  | outer, current, .mark char joint :: rest =>
    if brackets.any (·.1 = char) then nest ({ opening := char, before := current } :: outer) [] rest
    else if brackets.any (·.2 = char) then
      match outer with
      | [] => none
      | innermost :: others =>
        if brackets.contains (innermost.opening, char) then
          nest others (.group innermost.opening current.reverse :: innermost.before) rest
        else none
    else nest outer (.mark char joint :: current) rest
  | outer, current, token :: rest => nest outer (token :: current) rest

/-- The tokens of a text; a text that holds anything else, or brackets that do not match,
has none. -/
def ofText? (text : String) : Option (List Token) :=
  (ofChars? text.toList).bind (nest [] [])

end Token

end ReplicaBridge.Grammar
