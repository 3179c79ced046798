/-!
JSON values. How their text is written and read is left to the parts of a program that exchange it.
-/

namespace Warehouse

/-- A JSON value. A number is an integer when it is written without a point or an exponent. -/
inductive Json where
  | null
  | bool (b : Bool)
  | int (i : Int)
  | float (x : Float)
  | text (s : String)
  | list (items : List Json)
  | object (entries : List (String × Json))

end Warehouse
