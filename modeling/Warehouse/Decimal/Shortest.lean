/-!
The shortest decimal that reads back as a given binary floating-point number. A finite positive number
is `m · 2 ^ q`; the reals that round to it form an interval, closed when `m` is even. Of the decimal
grids `… 100, 10, 1, 0.1, …` the first one with a point in the interval gives the fewest digits, and on
that grid only the two neighbours of the number need a look.
-/

namespace Warehouse.Decimal

/-- A positive number `mantissa · 2 ^ exponent`; `lowGap` tells how far its rounding interval reaches
down, in quarters of the last place. -/
structure Binary where
  mantissa : Nat
  exponent : Int
  lowGap : Nat
  deriving DecidableEq, Repr

/-- A number as digits and a power of ten: `digits · 10 ^ exponent`. -/
structure Digits where
  digits : Nat
  exponent : Int
  deriving DecidableEq, Repr

/-- The absolute value that the bits of a finite double stand for; `none` for zero. -/
def Binary.ofBits? (bits : UInt64) : Option Binary :=
  let fraction := (bits &&& 0xFFFFFFFFFFFFF).toNat
  let power := ((bits >>> 52) &&& 0x7FF).toNat
  if power = 0 then
    if fraction = 0 then none else some ⟨fraction, -1074, 2⟩
  else some ⟨0x10000000000000 + fraction, (power : Int) - 1075, if fraction = 0 && power > 1 then 1 else 2⟩

/-- Whether the ends of the rounding interval round to the number too. -/
def Binary.isClosed (b : Binary) : Bool := b.mantissa % 2 == 0

/-- The point nearest to the number that the grid of step `10 ^ e` has in the rounding interval; of two
points equally near it is the upper one. -/
def Binary.gridPoint? (b : Binary) (e : Int) : Option Nat :=
  -- In units of a quarter of the last place the number is `4 * mantissa`; `point` and `unit` bring
  -- grid points and those units to one integer scale.
  let point := Nat.pow 10 e.toNat * Nat.pow 2 (2 - b.exponent).toNat
  let unit := Nat.pow 10 (-e).toNat * Nat.pow 2 (b.exponent - 2).toNat
  let number := 4 * b.mantissa * unit
  let low := (4 * b.mantissa - b.lowGap) * unit
  let high := (4 * b.mantissa + 2) * unit
  let below := number / point
  let above := below + 1
  let fits (k : Nat) : Bool :=
    if b.isClosed then low ≤ k * point && k * point ≤ high else low < k * point && k * point < high
  match below != 0 && fits below, fits above with
  | true, true =>
    if above * point - number ≤ number - below * point then some above else some below
  | true, false => some below
  | false, true => some above
  | false, false => none

/-- The first of the grids `10 ^ (n - 345)`, `10 ^ (n - 346)`, … that has a point in the interval. -/
def Binary.firstGrid (b : Binary) : Nat → Digits
  | 0 => ⟨0, 0⟩
  | n + 1 =>
    let e : Int := (n : Int) - 344
    match b.gridPoint? e with
    | some k => ⟨k, e⟩
    | none => b.firstGrid n

/-- The shortest decimal that rounds to the number. Doubles lie between `10 ^ -324` and `10 ^ 309`. -/
def Binary.shortest (b : Binary) : Digits := b.firstGrid 660

/-- The number without an exponent: zeros behind it, or a point and zeros in front as needed. -/
def Digits.positional (d : Digits) : String :=
  let shown := (Nat.repr d.digits).toList
  if 0 ≤ d.exponent then String.ofList (shown ++ List.replicate d.exponent.toNat '0')
  else
    let places := (-d.exponent).toNat
    let padded := List.replicate (places + 1 - shown.length) '0' ++ shown
    let whole := padded.length - places
    String.ofList (padded.take whole ++ '.' :: padded.drop whole)

end Warehouse.Decimal
