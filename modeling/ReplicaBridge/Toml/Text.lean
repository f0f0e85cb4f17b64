/-
Module: ReplicaBridge.Toml.Text
Purpose: Reading the four forms of a text: in quotes with escapes or in apostrophes
  without, on one line or on several.
Main exports: escape, basic, literal, text
-/
import ReplicaBridge.Text.Digits
import ReplicaBridge.Toml.Scan

namespace ReplicaBridge.Toml

open Text (codePoint?)

/-- Read what follows a backslash. -/
def escape : Scan Char
  | 'b' :: rest => some ('\x08', rest)
  | 't' :: rest => some ('\t', rest)
  | 'n' :: rest => some ('\n', rest)
  | 'f' :: rest => some ('\x0c', rest)
  | 'r' :: rest => some ('\r', rest)
  | '"' :: rest => some ('"', rest)
  | '\\' :: rest => some ('\\', rest)
  | 'u' :: rest =>
    if 4 ≤ rest.length then (codePoint? (rest.take 4)).map ((·, rest.drop 4)) else none
  | 'U' :: rest =>
    if 8 ≤ rest.length then (codePoint? (rest.take 8)).map ((·, rest.drop 8)) else none
  | _ => none

theorem length_lt_of_escape {chars rest : List Char} {char : Char}
    (h : escape chars = some (char, rest)) : rest.length < chars.length := by
  unfold escape at h
  split at h
  case h_10 => cases h
  case h_8 tail =>
    split at h
    · obtain ⟨_, _, found⟩ := Option.map_eq_some_iff.1 h
      cases found
      simp only [List.length_drop, List.length_cons]
      omega
    · cases h
  case h_9 tail =>
    split at h
    · obtain ⟨_, _, found⟩ := Option.map_eq_some_iff.1 h
      cases found
      simp only [List.length_drop, List.length_cons]
      omega
    · cases h
  all_goals
    cases h
    simp

/-- Put a character in front of what a scan read. -/
def withFirst (char : Char) (read : Option (List Char × List Char)) :
    Option (List Char × List Char) :=
  read.map fun (text, rest) => (char :: text, rest)

/-- Read the content of a one-line text up to its closing quote. -/
def basic (chars : List Char) : Option (List Char × List Char) :=
  match chars with
  | [] => none
  | '"' :: rest => some ([], rest)
  | '\\' :: rest =>
    match _found : escape rest with
    | none => none
    | some (char, after) => withFirst char (basic after)
  | char :: rest => if isTextChar char then withFirst char (basic rest) else none
termination_by chars.length
decreasing_by
  · have := length_lt_of_escape _found
    simp only [List.length_cons]
    omega
  · simp

/-- Read the content of a one-line text up to its closing apostrophe. -/
def literal : Scan (List Char)
  | [] => none
  | '\'' :: rest => some ([], rest)
  | char :: rest => if isTextChar char then withFirst char (literal rest) else none

/-- The end of a text of several lines, after three of its marks: up to two more of them
belong to the text. -/
def closing (mark : Char) : List Char → List Char × List Char
  | first :: second :: rest =>
    if first = mark then
      if second = mark then ([mark, mark], rest) else ([mark], second :: rest)
    else ([], first :: second :: rest)
  | [first] => if first = mark then ([mark], []) else ([], [first])
  | [] => ([], [])

/-- A backslash at the end of a line. -/
def endsLine (rest : List Char) : Bool :=
  (newline? (skipBlanks rest)).isSome

/-- Read the content of a text of several lines up to its closing quotes.  A backslash at
the end of a line joins the lines: all blanks and line ends after it are skipped. -/
def multiBasic (skipping : Bool) (chars : List Char) : Option (List Char × List Char) :=
  match chars with
  | [] => none
  | '"' :: '"' :: '"' :: rest => some (closing '"' rest)
  | '\r' :: '\n' :: rest =>
    if skipping then multiBasic true rest else withFirst '\n' (multiBasic false rest)
  | '\n' :: rest =>
    if skipping then multiBasic true rest else withFirst '\n' (multiBasic false rest)
  | '\\' :: rest =>
    if endsLine rest then multiBasic true rest
    else match _found : escape rest with
      | none => none
      | some (char, after) => withFirst char (multiBasic false after)
  | char :: rest =>
    if skipping && isBlank char then multiBasic true rest
    else if isTextChar char then withFirst char (multiBasic false rest) else none
termination_by chars.length
decreasing_by
  all_goals first
    | (have shorter := length_lt_of_escape _found
       simp only [List.length_cons]
       omega)
    | (simp only [List.length_cons]
       omega)

/-- Read the content of a text of several lines up to its closing apostrophes. -/
def multiLiteral : Scan (List Char)
  | [] => none
  | '\'' :: '\'' :: '\'' :: rest => some (closing '\'' rest)
  | '\r' :: '\n' :: rest => withFirst '\n' (multiLiteral rest)
  | '\n' :: rest => withFirst '\n' (multiLiteral rest)
  | char :: rest => if isTextChar char then withFirst char (multiLiteral rest) else none

/-- A line end right after the opening marks does not belong to the text. -/
def dropFirstNewline (chars : List Char) : List Char :=
  (newline? chars).getD chars

/-- Read a text in any of the four forms. -/
def text (chars : List Char) : Option (String × List Char) :=
  let read := match chars with
    | '"' :: '"' :: '"' :: rest => multiBasic false (dropFirstNewline rest)
    | '"' :: rest => basic rest
    | '\'' :: '\'' :: '\'' :: rest => multiLiteral (dropFirstNewline rest)
    | '\'' :: rest => literal rest
    | _ => none
  read.map fun (content, rest) => (String.ofList content, rest)

end ReplicaBridge.Toml
