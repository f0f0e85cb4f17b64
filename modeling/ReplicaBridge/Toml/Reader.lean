/-
Module: ReplicaBridge.Toml.Reader
Purpose: Reading a document: its keys, values and headers line by line, and what they add
  up to.
Main exports: value, Statement, statement, lines, parse?
-/
import ReplicaBridge.Toml.Moment
import ReplicaBridge.Toml.Number
import ReplicaBridge.Toml.Text
import ReplicaBridge.Toml.Tree

namespace ReplicaBridge.Toml

/-! ### Keys -/

/-- Read a single key: in quotes, in apostrophes or bare. -/
def simpleKey : Scan String
  | '"' :: rest => (basic rest).map fun (key, left) => (String.ofList key, left)
  | '\'' :: rest => (literal rest).map fun (key, left) => (String.ofList key, left)
  | chars =>
    match chars.takeWhile isBareKeyChar with
    | [] => none
    | key => some (String.ofList key, chars.dropWhile isBareKeyChar)

/-- Arrays, tables and dotted keys nest less deep than this. -/
def nestingLimit : Nat := 80

/-- Read a key of at most so many parts with points between them; gives the parts before
the last one and the last one. -/
def keyPath : (most : Nat) → Scan (List String × String)
  | 0, _ => none
  | most + 1, chars =>
    match simpleKey (skipBlanks chars) with
    | none => none
    | some (key, rest) =>
      match skipBlanks rest with
      | '.' :: rest =>
        (keyPath most rest).map fun ((path, last), left) => ((key :: path, last), left)
      | rest => some (([], key), rest)

/-- Read a key. -/
def key : Scan (List String × String) :=
  keyPath (nestingLimit - 1)

/-! ### Values -/

/-- Read a value that holds no other. -/
def scalar (chars : List Char) : Option (Value × List Char) :=
  match chars with
  | '"' :: _ | '\'' :: _ => (text chars).map fun (content, rest) => (.text content, rest)
  | 't' :: 'r' :: 'u' :: 'e' :: rest => some (.boolean true, rest)
  | 'f' :: 'a' :: 'l' :: 's' :: 'e' :: rest => some (.boolean false, rest)
  | _ =>
    match moment chars with
    | some read => some read
    | none => number chars

/-- Read the elements of an array up to its end. -/
def elements (read : Scan Value) : (fuel : Nat) → Scan (List Value)
  | 0, _ => none
  | fuel + 1, chars =>
    match skipTrivia false chars with
    | ']' :: rest => some ([], rest)
    | start =>
      match read start with
      | none => none
      | some (value, rest) =>
        match skipTrivia false rest with
        | ',' :: rest =>
          (elements read fuel rest).map fun (values, left) => (value :: values, left)
        | ']' :: rest => some ([value], rest)
        | _ => none

/-- A key with the value that it is given. -/
structure Pair where
  path : List String
  key : String
  value : Value
deriving Inhabited

/-- Read a key, an equals sign and a value. -/
def pair (read : Scan Value) (chars : List Char) : Option (Pair × List Char) :=
  match key chars with
  | some ((path, key), '=' :: rest) =>
    (read (skipBlanks rest)).map fun (value, left) => ({ path, key, value }, left)
  | _ => none

/-- Read the pairs of a table in braces from the first one on. -/
def members (read : Scan Value) : (fuel : Nat) → Scan (List Pair)
  | 0, _ => none
  | fuel + 1, chars =>
    match pair read chars with
    | none => none
    | some (first, rest) =>
      match skipBlanks rest with
      | ',' :: rest => (members read fuel rest).map fun (pairs, left) => (first :: pairs, left)
      | '\x7d' :: rest => some ([first], rest)
      | _ => none

/-- The table that pairs add up to. -/
def tableOf? (pairs : List Pair) : Option Value :=
  (pairs.foldlM (fun entries pair => Entries.insert pair.path pair.key pair.value .header entries)
    ([] : Entries)).map fun entries => .table (Entries.toValues entries)

/-- Read a table in braces, after the opening one. -/
def inlineTable (read : Scan Value) (chars : List Char) : Option (Value × List Char) :=
  match skipBlanks chars with
  | '\x7d' :: rest => some (.table [], rest)
  | start =>
    match members read start.length start with
    | none => none
    | some (pairs, rest) => (tableOf? pairs).map fun value => (value, rest)

/-- Read a value in which arrays and tables nest at most so deep. -/
def valueTo : (depth : Nat) → Scan Value
  | 0, chars => scalar chars
  | depth + 1, chars =>
    match chars with
    | '[' :: rest =>
      (elements (valueTo depth) (rest.length + 1) rest).map fun (values, left) =>
        (.array values, left)
    | '\x7b' :: rest => inlineTable (valueTo depth) rest
    | _ => scalar chars

/-- Read a value. -/
def value : Scan Value :=
  valueTo (nestingLimit - 1)

/-! ### Statements -/

/-- What a line of a document says. -/
inductive Statement where
  | pair (pair : Pair)
  /-- A header opens a table. -/
  | table (path : List String) (key : String)
  /-- A header in double brackets opens an element of an array of tables. -/
  | element (path : List String) (key : String)
deriving Inhabited

/-- Read a statement, without the end of its line. -/
def statement (chars : List Char) : Option (Statement × List Char) :=
  match chars with
  | '[' :: '[' :: rest =>
    match key rest with
    | some ((path, key), ']' :: ']' :: rest) => some (.element path key, rest)
    | _ => none
  | '[' :: rest =>
    match key rest with
    | some ((path, key), ']' :: rest) => some (.table path key, rest)
    | _ => none
  | _ => (pair value chars).map fun (pair, rest) => (.pair pair, rest)

/-- Read the statements of a document; lines that hold none are passed over. -/
def lines : (fuel : Nat) → List Char → Option (List Statement)
  | _, [] => some []
  | 0, _ => none
  | fuel + 1, chars =>
    match lineEnd? chars with
    | some rest => lines fuel rest
    | none =>
      match statement (skipBlanks chars) with
      | none => none
      | some (statement, rest) =>
        match lineEnd? rest with
        | none => none
        | some rest => (lines fuel rest).map (statement :: ·)

/-- The document so far and the path of its last header. -/
structure Draft where
  header : List String := []
  entries : Entries := []
deriving Inhabited

namespace Draft

/-- Add what a statement says. -/
def add? (draft : Draft) : Statement → Option Draft
  | .pair pair =>
    (draft.entries.insertUnder draft.header pair.path pair.key pair.value).map fun entries =>
      { draft with entries }
  | .table path key =>
    (draft.entries.openTable path key).map fun entries => { header := path ++ [key], entries }
  | .element path key =>
    (draft.entries.openElement path key).map fun entries => { header := path ++ [key], entries }

end Draft

/-- A byte order mark in front of a document means nothing. -/
def dropMark : List Char → List Char
  | '\ufeff' :: rest => rest
  | chars => chars

/-- The table that a document describes, if it is one. -/
def parse? (document : String) : Option Value :=
  let chars := dropMark document.toList
  match lines chars.length chars with
  | none => none
  | some statements =>
    (statements.foldlM Draft.add? {}).map fun draft => .table (Entries.toValues draft.entries)

end ReplicaBridge.Toml
