/-!
Numbers in double precision. A number is read with one rounding for its leading digits and one for
each power of ten after that, and written with the fewest digits that stand for it.
-/
namespace ListQuery.Document.Double

def powerOfTen (exponent : Nat) : Float := Float.ofScientific 1 false exponent

/-- Divides by a power of ten, by at most `10 ^ 308` at a time. Three steps leave nothing of a word. -/
def scaleDown : Nat → Float → Nat → Float
  | 0, value, _ => value
  | steps + 1, value, exponent =>
    if exponent ≤ 308 then value / powerOfTen exponent
    else scaleDown steps (value / powerOfTen 308) (exponent - 308)

/-- None if the number rounds to infinity. -/
def scale? (value : Float) (exponent : Int) : Option Float :=
  if exponent < 0 then some (scaleDown 3 value exponent.natAbs)
  else if value == 0 then some value
  else if 308 < exponent then none
  else
    let product := value * powerOfTen exponent.toNat
    if product.isInf then none else some product

/-- Appends digits as long as the number fits a machine word; also the digits left over. -/
def fillWord (value : Nat) : List Char → Nat × List Char
  | [] => (value, [])
  | c :: rest =>
    let next := value * 10 + (c.toNat - 48)
    if next < UInt64.size then fillWord next rest else (value, c :: rest)

/-- The number that digits before and after a point spell; digits that do not fit a word are dropped. -/
def ofDecimal? (whole fraction : List Char) (exponent : Int) : Option Float :=
  let (value, wholeLeft) := fillWord 0 whole
  let (value, fractionLeft) := fillWord value fraction
  scale? (UInt64.ofNat value).toFloat
    (exponent + wholeLeft.length - (fraction.length - fractionLeft.length : Nat))

/-- A positive number as a quotient of natural numbers. -/
def quotient (value : Float) : Nat × Nat :=
  let bits := value.toBits.toNat
  let fraction := bits % 0x10000000000000
  let exponent := bits / 0x10000000000000 % 0x800
  let mantissa := if exponent = 0 then fraction else fraction + 0x10000000000000
  let exponent : Int := (exponent.max 1 : Nat) - 1075
  (mantissa * Nat.pow 2 exponent.toNat, Nat.pow 2 (-exponent).toNat)

/-- The exponent of the leading decimal digit of a quotient. -/
def leadingExponent (top bottom : Nat) : Int :=
  let guess : Int := (Nat.toDigits 10 top).length - (Nat.toDigits 10 bottom).length
  if bottom * Nat.pow 10 guess.toNat ≤ top * Nat.pow 10 (-guess).toNat then guess else guess - 1

/-- The closest number of so many digits that stands for a value, the even one of two as close. -/
def candidate? (value : Float) (count : Nat) : Option (Nat × Int) :=
  let (top, bottom) := quotient value
  let exponent := leadingExponent top bottom - (count - 1 : Nat)
  let top := top * Nat.pow 10 (-exponent).toNat
  let bottom := bottom * Nat.pow 10 exponent.toNat
  let below := top / bottom
  let excess := 2 * (top % bottom)
  let ordered :=
    if excess < bottom ∨ (excess = bottom ∧ below % 2 = 0) then [below, below + 1]
    else [below + 1, below]
  (ordered.find? fun digits =>
    Float.ofScientific digits (exponent < 0) exponent.natAbs == value).map (·, exponent)

/-- The fewest digits, and their power of ten, that stand for a number that is not negative. -/
def shortest (value : Float) : Nat × Int :=
  if value == 0 then (0, 0)
  else ((List.range 17).findSome? fun count => candidate? value (count + 1)).getD (0, 0)

end ListQuery.Document.Double
