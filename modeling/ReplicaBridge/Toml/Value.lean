/-
Module: ReplicaBridge.Toml.Value
Purpose: The values of a TOML document.
Main exports: Value
-/

namespace ReplicaBridge.Toml

/-- A value.  Floats and dates are kept as they were written. -/
inductive Value where
  | text (value : String)
  | integer (value : Int)
  | float (source : String)
  | boolean (value : Bool)
  | moment (source : String)
  | array (values : List Value)
  | table (entries : List (String × Value))
deriving Repr, Inhabited

/-- The greatest integer of a document. -/
def maxInteger : Int := 9223372036854775807

/-- The least integer of a document. -/
def minInteger : Int := -9223372036854775808

end ReplicaBridge.Toml
