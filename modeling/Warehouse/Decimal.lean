import Warehouse.Decimal.Shortest

/-!
How numbers are written: floating-point numbers with the fewest digits that read back, never with an
exponent, and whole numbers among them without a point.
-/

namespace Warehouse.Decimal

/-- The text of a floating-point number. Zero keeps its sign. -/
def writeFloat (x : Float) : String :=
  if x.isNaN then "NaN"
  else
    let bits := x.toBits
    let sign := if bits >>> 63 == 1 then "-" else ""
    if x.isInf then sign ++ "inf"
    else
      match Binary.ofBits? bits with
      | none => sign ++ "0"
      | some b => sign ++ b.shortest.positional

end Warehouse.Decimal
