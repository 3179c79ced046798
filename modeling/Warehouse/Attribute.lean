import Warehouse.Decimal
import Warehouse.Dict
import Warehouse.Text.Casing

/-!
Attributes of declarations: named values such as a length, an encoding or a list of keys, which fill the
slots of a dialect's templates.
-/

namespace Warehouse

/-- The value of an attribute. -/
inductive Attribute where
  | bool (b : Bool)
  | int (i : Int64)
  | float (x : Float)
  | text (s : String)
  | list (items : List String)
  deriving Repr

/-- The attributes of a declaration by name. -/
abbrev Attributes := Dict Attribute

namespace Attribute

/-- The value as text; the items of a list are separated by commas. -/
def display : Attribute → String
  | bool b => if b then "true" else "false"
  | int i => toString i.toInt
  | float x => Decimal.writeFloat x
  | text s => s
  | list items => String.intercalate ", " items

/-- The items of a list, or the one value as text. -/
def asList : Attribute → List String
  | list items => items
  | other => [other.display]

/-- The truth value that a boolean has or a text spells, in any case. -/
def asBool? : Attribute → Option Bool
  | bool b => some b
  | text s =>
    let word := Text.lower s
    if word = "true" || word = "yes" then some true
    else if word = "false" || word = "no" then some false
    else none
  | _ => none

end Attribute

end Warehouse
