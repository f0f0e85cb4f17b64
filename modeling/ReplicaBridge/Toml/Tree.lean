/-
Module: ReplicaBridge.Toml.Tree
Purpose: The document while it is put together.  A table remembers how it came to be,
  which decides who may still add to it.
Main exports: Node, Entries, Entries.insert, Entries.openTable, Entries.openElement,
  Entries.toValues
-/
import ReplicaBridge.Toml.Value

namespace ReplicaBridge.Toml

/-- How a table came to be. -/
inductive Origin where
  /-- It has a header of its own, or is the document. -/
  | header
  /-- It lies on the way of a longer header. -/
  | onTheWay
  /-- It lies on the way of a dotted key. -/
  | dotted
deriving Repr, Inhabited, DecidableEq

/-- A node of the document. -/
inductive Node where
  | value (value : Value)
  | table (origin : Origin) (entries : List (String × Node))
  /-- An array of tables, each with a header. -/
  | tables (elements : List (List (String × Node)))
deriving Inhabited

/-- The entries of a table. -/
abbrev Entries := List (String × Node)

mutual

/-- The finished value of a node. -/
def Node.toValue : Node → Value
  | .value value => value
  | .table _ entries => .table (Entries.toValues entries)
  | .tables elements => .array (Entries.elementValues elements)

/-- The finished values of a table. -/
def Entries.toValues : List (String × Node) → List (String × Value)
  | [] => []
  | (key, node) :: rest => (key, node.toValue) :: Entries.toValues rest

/-- The finished elements of an array of tables. -/
def Entries.elementValues : List (List (String × Node)) → List Value
  | [] => []
  | entries :: rest => .table (Entries.toValues entries) :: Entries.elementValues rest

end

namespace Entries

/-- Put another node under a key that is there. -/
def replace (entries : Entries) (key : String) (node : Node) : Entries :=
  entries.map fun (name, old) => (name, if name == key then node else old)

/-- Add an entry under a new key. -/
def add (entries : Entries) (key : String) (node : Node) : Entries :=
  entries ++ [(key, node)]

/-- Go down a path, making the tables that are missing, and change the table at its end.
In an array of tables the way leads through the last one.  A dotted key does not lead
through a table with a header. -/
def changeAt (making : Origin) (change : Origin → Entries → Option Entries) :
    (path : List String) → Origin → Entries → Option Entries
  | [], origin, entries => change origin entries
  | key :: path, _, entries =>
    match entries.lookup key with
    | none =>
      (changeAt making change path making []).map fun child =>
        entries.add key (.table making child)
    | some (.value _) => none
    | some (.table origin child) =>
      if making = .dotted && origin = .header then none
      else (changeAt making change path origin child).map fun child =>
        entries.replace key (.table origin child)
    | some (.tables elements) =>
      match elements.getLast? with
      | none => none
      | some last =>
        (changeAt making change path .header last).map fun last =>
          entries.replace key (.tables (elements.dropLast ++ [last]))

/-- Add a value to a table.  A dotted key only adds to tables that dotted keys made. -/
def insertHere (dotted : Bool) (key : String) (value : Value) (origin : Origin)
    (entries : Entries) : Option Entries :=
  if dotted && origin ≠ .dotted then none
  else match entries.lookup key with
    | some _ => none
    | none => some (entries.add key (.value value))

/-- Add a value under a key, which is dotted unless the path is empty. -/
def insert (path : List String) (key : String) (value : Value) (origin : Origin)
    (entries : Entries) : Option Entries :=
  changeAt .dotted (insertHere (!path.isEmpty) key value) path origin entries

/-- Give a table its header.  A table has one header at most. -/
def openHere (key : String) (_origin : Origin) (entries : Entries) : Option Entries :=
  match entries.lookup key with
  | none => some (entries.add key (.table .header []))
  | some (.table .onTheWay child) => some (entries.replace key (.table .header child))
  | some _ => none

/-- Begin another element of an array of tables. -/
def elementHere (key : String) (_origin : Origin) (entries : Entries) : Option Entries :=
  match entries.lookup key with
  | none => some (entries.add key (.tables [[]]))
  | some (.tables elements) => some (entries.replace key (.tables (elements ++ [[]])))
  | some _ => none

/-- Open the table that a header names. -/
def openTable (path : List String) (key : String) (entries : Entries) : Option Entries :=
  changeAt .onTheWay (openHere key) path .header entries

/-- Open the next element of the array of tables that a header names. -/
def openElement (path : List String) (key : String) (entries : Entries) : Option Entries :=
  changeAt .onTheWay (elementHere key) path .header entries

/-- Add a value under a key of the table that the last header named. -/
def insertUnder (header path : List String) (key : String) (value : Value)
    (entries : Entries) : Option Entries :=
  changeAt .onTheWay (insert path key value) header .header entries

end Entries

end ReplicaBridge.Toml
