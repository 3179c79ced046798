import Warehouse.Document

/-!
What a place that takes any value reads from a document. A scalar that is written plainly is a null, a
truth value, an integer, a float or a text, by how it looks; any other scalar is a text; and a standard
tag can ask for one of these. Integers of more than 64 bits are refused unless they have more than 128.
-/

namespace Warehouse

namespace Scalar

/-- The value of a digit in a base of at most 16. -/
def digitIn? (base : Nat) (c : Char) : Option Nat :=
  let n :=
    if c.isDigit then some (c.toNat - '0'.toNat)
    else if 'a' ≤ c && c ≤ 'f' then some (c.toNat - 'a'.toNat + 10)
    else if 'A' ≤ c && c ≤ 'F' then some (c.toNat - 'A'.toNat + 10)
    else none
  n.filter (· < base)

/-- The number that a text of digits writes in a base; none for a text that is empty or has another
character. -/
def digitsIn? (base : Nat) (cs : List Char) : Option Nat :=
  if cs.isEmpty then none
  else cs.foldlM (fun n c => (digitIn? base c).map (n * base + ·)) 0

/-- Whether a text is a number with a zero too many in front, and hence no number. -/
def hasLeadingZero (cs : List Char) : Bool :=
  let digits := match cs with
    | '-' :: rest => rest
    | '+' :: rest => rest
    | _ => cs
  digits.length > 1 && digits.head? == some '0' && digits.all Char.isDigit

/-- The absolute value of an integer in base 16, 8, 2 or 10. -/
def magnitude? (cs : List Char) : Option Nat :=
  match cs with
  | '0' :: 'x' :: rest => digitsIn? 16 rest
  | '0' :: 'o' :: rest => digitsIn? 8 rest
  | '0' :: 'b' :: rest => digitsIn? 2 rest
  | _ => digitsIn? 10 cs

/-- The integer that a text writes, of any size. -/
def integer? (cs : List Char) : Option Int :=
  if hasLeadingZero cs then none
  else
    match cs with
    | '-' :: rest => (magnitude? rest).map fun n => -(n : Int)
    | '+' :: rest => (magnitude? rest).map Int.ofNat
    | _ => (magnitude? cs).map Int.ofNat

/-- The float nearest to `digits · 10 ^ exponent`, if it is finite. Powers beyond any float are not
computed. -/
def scientific? (digits : Nat) (exponent : Int) : Option Float :=
  let size : Int := (Nat.repr digits).length + exponent
  if digits = 0 || size < -400 then some 0
  else if size > 400 then none
  else
    let x := Float.ofScientific digits (exponent < 0) exponent.natAbs
    if x.isInf then none else some x

/-- The decimal number that a text without a sign writes. There are digits before the point or behind
it, and behind the mark of an exponent. -/
def decimal? (cs : List Char) : Option Float :=
  let whole := cs.takeWhile Char.isDigit
  let (places, rest) := match cs.dropWhile Char.isDigit with
    | '.' :: more => (more.takeWhile Char.isDigit, more.dropWhile Char.isDigit)
    | more => ([], more)
  let exponent? : Option Int := match rest with
    | [] => some 0
    | c :: more =>
      if c == 'e' || c == 'E' then
        match more with
        | '-' :: digits => (digitsIn? 10 digits).map fun n => -(n : Int)
        | '+' :: digits => (digitsIn? 10 digits).map Int.ofNat
        | digits => (digitsIn? 10 digits).map Int.ofNat
      else none
  match digitsIn? 10 (whole ++ places), exponent? with
  | some digits, some exponent => scientific? digits (exponent - places.length)
  | _, _ => none

/-- Whether a text is one of the words for infinity. -/
def isInfinityWord (text : String) : Bool := text = ".inf" || text = ".Inf" || text = ".INF"

/-- The float that a text writes: a word for infinity or for no number, or a finite decimal. -/
def float? (cs : List Char) : Option Float :=
  if [".nan", ".NaN", ".NAN"].contains (String.ofList cs) then some (0 / 0)
  else
    match cs with
    | '-' :: rest =>
      if isInfinityWord (String.ofList rest) then some (-(1 / 0)) else (decimal? rest).map (- ·)
    | '+' :: rest => if isInfinityWord (String.ofList rest) then some (1 / 0) else decimal? rest
    | _ => if isInfinityWord (String.ofList cs) then some (1 / 0) else decimal? cs

/-- Whether an integer has at most 64 bits, with or without a sign. -/
def fitsWord (i : Int) : Bool := -0x8000000000000000 ≤ i && i ≤ 0xFFFFFFFFFFFFFFFF

/-- Whether an integer has at most 128 bits, with or without a sign. -/
def fitsDoubleWord (i : Int) : Bool :=
  -0x80000000000000000000000000000000 ≤ i && i ≤ 0xFFFFFFFFFFFFFFFFFFFFFFFFFFFFFFFF

/-- The value of a plain scalar that is no integer of at most 128 bits. -/
def resolveOther (s : String) : Atom :=
  if hasLeadingZero s.toList then .text s
  else
    match float? s.toList with
    | some x => .float x
    | none => .text s

/-- The value of a plain scalar; none for an integer that is refused. -/
def resolvePlain? (s : String) : Option Atom :=
  if s = "" || isNullWord s then some .null
  else
    match boolWord? s with
    | some b => some (.bool b)
    | none =>
      match integer? s.toList with
      | some i =>
        if fitsWord i then some (.int i)
        else if fitsDoubleWord i then none
        else some (resolveOther s)
      | none => some (resolveOther s)

/-- The value of a scalar in a place for any value. A local tag has no meaning there. -/
def resolve? (s : Scalar) : Option Atom :=
  match s.tag with
  | none => if s.style = .plain then resolvePlain? s.text else some (.text s.text)
  | some tag =>
    if tag = standardTag "bool" then (boolWord? s.text).map .bool
    else if tag = standardTag "int" then
      (integer? s.text.toList).bind fun i => if fitsWord i then some (.int i) else none
    else if tag = standardTag "float" then (float? s.text.toList).map .float
    else if tag = standardTag "null" then if isNullWord s.text then some .null else none
    else if isLocalTag tag then none
    else some (.text s.text)

end Scalar

namespace Document

mutual

/-- What a place for any value reads: the document with the values of its scalars. -/
def resolve? : Document → Option Document
  | atom a => some (atom a)
  | scalar s => s.resolve?.map atom
  | list form items =>
    if form = .tagged then none else (resolveItems? items).map (list .value)
  | table form entries =>
    if form = .tagged then none else (resolveEntries? entries).map (table .value)

/-- The values of several documents. -/
def resolveItems? : List Document → Option (List Document)
  | [] => some []
  | d :: rest =>
    match resolve? d, resolveItems? rest with
    | some v, some vs => some (v :: vs)
    | _, _ => none

/-- The values of the entries of a table. -/
def resolveEntries? : List (Document × Document) → Option (List (Document × Document))
  | [] => some []
  | (key, d) :: rest =>
    match resolve? key, resolve? d, resolveEntries? rest with
    | some k, some v, some vs => some ((k, v) :: vs)
    | _, _, _ => none

end

end Document

end Warehouse
