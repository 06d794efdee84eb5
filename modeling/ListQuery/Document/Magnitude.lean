/-! The range of double precision, for numbers given by decimal digits and an exponent. -/
namespace ListQuery.Document

/-- Half a unit past the largest finite double: from here on a number rounds to infinity. -/
def doubleBound : Nat := Nat.pow 2 1024 - Nat.pow 2 970

/--
Whether `digits * 10 ^ exponent` rounds to infinity. Numbers far from the bound are told by their
length, so that no large power is computed.
-/
def exceedsDouble (digits : Nat) (exponent : Int) : Bool :=
  let length : Int := (Nat.toDigits 10 digits).length + exponent
  if digits = 0 then false
  else if 310 < length then true
  else if length < 300 then false
  else doubleBound * Nat.pow 10 (-exponent).toNat ≤ digits * Nat.pow 10 exponent.toNat

end ListQuery.Document
