/-
Module: ReplicaBridge.Text.UpperCamel
Purpose: The naming rule that leads from the fields of a struct to the properties of a
  host: `new_season` becomes `NewSeason`.
Main exports: upperCamel
-/
import ReplicaBridge.Text.UpperCase

namespace ReplicaBridge.Text

/-- The pieces between underscores. -/
def pieces : List Char → List (List Char)
  | [] => [[]]
  | char :: rest =>
    if char = '_' then [] :: pieces rest
    else match pieces rest with
      | [] => [[char]]
      | first :: others => (char :: first) :: others

/-- A piece with its first character in upper case. -/
def capitalize : List Char → List Char
  | [] => []
  | first :: rest => upperCase first ++ rest

/-- Join the pieces, each with its first character in upper case. -/
def upperCamelChars (chars : List Char) : List Char :=
  (pieces chars).flatMap capitalize

/-- The property name of a field name. -/
def upperCamel (name : String) : String :=
  String.ofList (upperCamelChars name.toList)

end ReplicaBridge.Text
