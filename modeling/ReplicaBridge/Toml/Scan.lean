/-
Module: ReplicaBridge.Toml.Scan
Purpose: The lexical ground of TOML: the classes of characters, blanks, line ends and
  comments.
Main exports: Scan, isBlank, isTextChar, skipBlanks, newline?, lineEnd?, skipTrivia
-/

namespace ReplicaBridge.Toml

/-- A scan reads something from the front of the input and gives the rest, or fails. -/
abbrev Scan (α : Type) := List Char → Option (α × List Char)

/-- A blank within a line. -/
def isBlank (char : Char) : Bool :=
  char = ' ' || char = '\t'

/-- A character that may stand in a text or in a comment: a tab or no control character. -/
def isTextChar (char : Char) : Bool :=
  char = '\t' || (0x20 ≤ char.toNat && char.toNat ≠ 0x7f)

/-- A character of a key without quotes. -/
def isBareKeyChar (char : Char) : Bool :=
  char.isAlphanum || char = '_' || char = '-'

/-- Drop the blanks in front. -/
def skipBlanks (chars : List Char) : List Char :=
  chars.dropWhile isBlank

/-- Read a line end: a line feed, which may follow a carriage return. -/
def newline? : List Char → Option (List Char)
  | '\n' :: rest => some rest
  | '\r' :: '\n' :: rest => some rest
  | _ => none

/-- Drop a comment. -/
def skipComment : List Char → List Char
  | '#' :: rest => rest.dropWhile isTextChar
  | chars => chars

/-- Read to the end of a line on which nothing but blanks and a comment may follow. -/
def lineEnd? (chars : List Char) : Option (List Char) :=
  match skipComment (skipBlanks chars) with
  | [] => some []
  | rest => newline? rest

/-- Drop blanks, line ends and comments. -/
def skipTrivia : (inComment : Bool) → List Char → List Char
  | _, [] => []
  | _, '\r' :: '\n' :: rest => skipTrivia false rest
  | inComment, char :: rest =>
    if inComment && isTextChar char then skipTrivia true rest
    else if isBlank char || char = '\n' then skipTrivia false rest
    else if char = '#' then skipTrivia true rest
    else char :: rest

/-- What a scan consumed. -/
def consumed (before after : List Char) : List Char :=
  before.take (before.length - after.length)

end ReplicaBridge.Toml
