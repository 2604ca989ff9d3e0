/-
  FrontLint.Toml.Value — the values of a settings document. Tables keep their keys in the order in
  which the document gives them.
-/

namespace FrontLint.Toml

inductive Value where
  | string (s : String)
  | integer (n : Int)
  | float (x : Float)
  | boolean (b : Bool)
  /-- A date, a time or both, in normal form. -/
  | datetime (text : String)
  | array (elements : List Value)
  | table (entries : List (String × Value))
  /-- Tables under one header, which is given once for each. -/
  | tables (elements : List (List (String × Value)))

abbrev Table := List (String × Value)

/-- The elements of an array, or of tables under one header. -/
def Value.elements? : Value → Option (List Value)
  | .array elements => some elements
  | .tables elements => some (elements.map .table)
  | _ => none

end FrontLint.Toml
