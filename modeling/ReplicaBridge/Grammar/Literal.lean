/-
Module: ReplicaBridge.Grammar.Literal
Purpose: Reading the literals of a declaration's text: texts between quotes, with escapes or
  without, characters, bytes and numbers.
Main exports: Literal, Literal.first?
-/
import ReplicaBridge.Text.Blank
import ReplicaBridge.Text.Digits

namespace ReplicaBridge.Grammar

/-- A literal. -/
inductive Literal where
  /-- A text between quotes, as the characters it stands for. -/
  | text (value : String)
  /-- A whole number; the name of its type may stand right behind it. -/
  | number (value : Nat) (suffixed : Bool)
  /-- A number with a point or an exponent, as it is spelled. -/
  | fraction (spelling : List Char)
  /-- A literal of another kind: a character or bytes. -/
  | constant
deriving Repr, Inhabited, DecidableEq

/-! ### Classes of characters -/

/-- The first character of a word: a letter or an underscore.  Every character beyond ASCII
that is no blank counts as a letter. -/
def isWordStart (char : Char) : Bool :=
  char.isAlpha || char = '_' || (0x80 ≤ char.toNat && !Text.isBlank char)

/-- A character of a word. -/
def isWordChar (char : Char) : Bool :=
  isWordStart char || char.isDigit

/-- A digit, or the underscore that may stand between digits. -/
def isDigitOrGap (char : Char) : Bool :=
  char.isDigit || char = '_'

namespace Literal

/-! ### Texts -/

/-- Put a character in front of what was read. -/
def withFirst (char : Char) (read : Option (List Char × List Char)) :
    Option (List Char × List Char) :=
  read.map fun (front, rest) => (char :: front, rest)

/-- Where in a text the reading stands. -/
inductive TextState where
  | plain
  /-- Behind a backslash that joins two lines: blanks are skipped. -/
  | joining
  /-- Within the digits of a code point, the last one first. -/
  | code (digits : List Char)
deriving Repr, Inhabited, DecidableEq

/-- The character that a letter behind a backslash stands for. -/
def escaped? : Char → Option Char
  | 'n' => some '\n'
  | 'r' => some '\r'
  | 't' => some '\t'
  | '0' => some '\x00'
  | '\\' => some '\\'
  | '\'' => some '\''
  | '"' => some '"'
  | _ => none

/-- The characters that a backslash at the end of a line takes with it. -/
def isLineBlank (char : Char) : Bool :=
  char = ' ' || char = '\t' || char = '\n'

/-- Read a text with escapes up to its closing quote. -/
def content : TextState → List Char → Option (List Char × List Char)
  | _, [] => none
  | .code digits, '}' :: rest =>
    match Text.codePoint? digits.reverse with
    | some char => if digits.isEmpty then none else withFirst char (content .plain rest)
    | none => none
  | .code digits, char :: rest =>
    if char = '_' && !digits.isEmpty then content (.code digits) rest
    else if digits.length < 6 && Text.isDigitOf 16 char then content (.code (char :: digits)) rest
    else none
  | _, '"' :: rest => some ([], rest)
  | _, '\\' :: 'u' :: '{' :: rest => content (.code []) rest
  | _, '\\' :: 'x' :: high :: low :: rest =>
    match Text.codePoint? [high, low] with
    | some char => if char.toNat < 0x80 then withFirst char (content .plain rest) else none
    | none => none
  | _, '\\' :: '\n' :: rest => content .joining rest
  | _, '\\' :: '\r' :: '\n' :: rest => content .joining rest
  | _, '\\' :: letter :: rest =>
    match escaped? letter with
    | some char => withFirst char (content .plain rest)
    | none => none
  | state, '\r' :: '\n' :: rest =>
    if state = .joining then content .joining rest else withFirst '\n' (content .plain rest)
  | state, char :: rest =>
    if state = .joining && isLineBlank char then content .joining rest
    else if char = '\r' || char = '\\' then none
    else withFirst char (content .plain rest)

/-- Read up to a closing mark of several characters. -/
def upTo (closing : List Char) : List Char → Option (List Char × List Char)
  | [] => none
  | char :: rest =>
    if closing.isPrefixOf (char :: rest) then some ([], (char :: rest).drop closing.length)
    else withFirst char (upTo closing rest)

/-- Read a text without escapes, whose quotes stand between equally many number signs. -/
def verbatim (chars : List Char) : Option (List Char × List Char) :=
  match chars.dropWhile (· = '#') with
  | '"' :: rest => upTo ('"' :: chars.takeWhile (· = '#')) rest
  | _ => none

/-- Drop everything up to a closing quote; a backslash takes the next character with it. -/
def afterQuote (quote : Char) : List Char → Option (List Char)
  | [] => none
  | '\\' :: _ :: rest => afterQuote quote rest
  | char :: rest => if char = quote then some rest else afterQuote quote rest

/-- Drop a character literal behind its opening quote. -/
def afterCharacter : List Char → Option (List Char)
  | '\\' :: rest => afterQuote '\'' ('\\' :: rest)
  | _ :: '\'' :: rest => some rest
  | _ => none

/-- Read a literal that opens with a quote, or with letters and a quote. -/
def quoted? : List Char → Option (Literal × List Char)
  | '"' :: rest => (content .plain rest).map fun (chars, left) => (.text (String.ofList chars), left)
  | 'r' :: rest => (verbatim rest).map fun (chars, left) => (.text (String.ofList chars), left)
  | 'b' :: '"' :: rest => (afterQuote '"' rest).map (.constant, ·)
  | 'c' :: '"' :: rest => (afterQuote '"' rest).map (.constant, ·)
  | 'b' :: 'r' :: rest => (verbatim rest).map fun (_, left) => (.constant, left)
  | 'c' :: 'r' :: rest => (verbatim rest).map fun (_, left) => (.constant, left)
  | 'b' :: '\'' :: rest => (afterCharacter rest).map (.constant, ·)
  | '\'' :: rest => (afterCharacter rest).map (.constant, ·)
  | _ => none

/-! ### Numbers -/

/-- Read the digits of a base behind its mark. -/
def marked? (base : Nat) (chars : List Char) : Option (Literal × List Char) :=
  let isPart (char : Char) : Bool := Text.isDigitOf base char || char = '_'
  let digits := (chars.takeWhile isPart).filter (· ≠ '_')
  if digits.isEmpty then none
  else some (.number (Text.digitsValue base digits) false, chars.dropWhile isPart)

/-- Drop an exponent, which has at least one digit. -/
def afterExponent? : List Char → Option (List Char)
  | [] => none
  | char :: rest =>
    let unsigned := match rest with
      | '+' :: digits => digits
      | '-' :: digits => digits
      | digits => digits
    if (char = 'e' || char = 'E')
        && ((unsigned.dropWhile (· = '_')).head?).any Char.isDigit then
      some (unsigned.dropWhile isDigitOrGap)
    else none

/-- The fraction that ends where so many characters are left. -/
def fractionTo (chars left : List Char) : Literal × List Char :=
  (.fraction (chars.take (chars.length - left.length)), left)

/-- The number behind digits with gaps. -/
def gappedValue (chars : List Char) : Nat :=
  Text.digitsValue 10 (chars.filter (· ≠ '_'))

/-- Read a decimal number.  A point belongs to it unless a second point or a word follows;
with a point or an exponent the number is a fraction. -/
def decimal (chars : List Char) : Literal × List Char :=
  let whole : Literal := .number (gappedValue (chars.takeWhile isDigitOrGap)) false
  let after := chars.dropWhile isDigitOrGap
  match after with
  | '.' :: rest =>
    if rest.head?.any fun char => char = '.' || isWordStart char then (whole, after)
    else
      let left := rest.dropWhile isDigitOrGap
      fractionTo chars ((afterExponent? left).getD left)
  | _ => (afterExponent? after).elim (whole, after) (fractionTo chars)

/-- Read a number. -/
def number? : List Char → Option (Literal × List Char)
  | '0' :: 'x' :: rest => marked? 16 rest
  | '0' :: 'o' :: rest => marked? 8 rest
  | '0' :: 'b' :: rest => marked? 2 rest
  | char :: rest => if char.isDigit then some (decimal (char :: rest)) else none
  | [] => none

/-! ### Literals with their types -/

/-- A literal behind which the name of its type stands. -/
def suffix (name : List Char) : Literal → Literal
  | .number value _ => .number value true
  | .fraction spelling => .fraction (spelling ++ name)
  | literal => literal

/-- Read the literal in front, with the name of its type if that stands right behind it. -/
def first? (chars : List Char) : Option (Literal × List Char) :=
  match (quoted? chars).or (number? chars) with
  | none => none
  | some (literal, rest) =>
    if rest.head?.any isWordStart then
      some (literal.suffix (rest.takeWhile isWordChar), rest.dropWhile isWordChar)
    else some (literal, rest)

/-- A number that can name a field by its place. -/
def isPlace (chars : List Char) : Bool :=
  chars.head?.any Char.isDigit && chars.all isDigitOrGap && gappedValue chars < 1 <<< 32

/-- A fraction spells the places of two nested fields; says whether it ends in a point, behind
which a further field has to follow. -/
def places? (spelling : List Char) : Option Bool :=
  if isPlace (spelling.takeWhile (· ≠ '.')) then
    match spelling.dropWhile (· ≠ '.') with
    | [] => some false
    | [_] => some true
    | _ :: second => if isPlace second then some false else none
  else none

end Literal

end ReplicaBridge.Grammar
