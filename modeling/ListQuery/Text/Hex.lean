/-! Hexadecimal digits, and characters given by their number. -/
namespace ListQuery.Text

def hexValue? (c : Char) : Option Nat :=
  if c.isDigit then some (c.toNat - 48)
  else if 'a' ≤ c ∧ c ≤ 'f' then some (c.toNat - 87)
  else if 'A' ≤ c ∧ c ≤ 'F' then some (c.toNat - 55)
  else none

/-- The octet that two digits spell. -/
def hexOctet? (high low : UInt8) : Option UInt8 :=
  match hexValue? (Char.ofUInt8 high), hexValue? (Char.ofUInt8 low) with
  | some high, some low => some (UInt8.ofNat (high * 16 + low))
  | _, _ => none

def charOfNat? (n : Nat) : Option Char :=
  if n.isValidChar then some (Char.ofNat n) else none

theorem hexValue?_digitChar : ∀ n < 16, hexValue? (Nat.digitChar n) = some n := by
  decide

end ListQuery.Text
