import ListQuery.Log.Pattern.Group
import ListQuery.Text.Decimal

/-! The values that a rule may ask of a field. -/
namespace ListQuery.Log.Pattern

open Text

/-- A number without a sign. -/
def isNumber (word : List Char) : Bool :=
  let isDigits := fun digits : List Char => !digits.isEmpty && digits.all Char.isDigit
  let (mantissa, exponent) := splitExponent word
  let (whole, fraction) := splitFirst '.' mantissa
  ["inf", "infinity", "nan"].contains (String.ofList (word.map Char.toLower)) ||
    (isDigits (whole ++ fraction.getD []) &&
      exponent.all fun exponent => isDigits (splitSign exponent).2)

/-- The value that a rule asks of a field is a number or a pattern. -/
def isValue : List Char → Bool
  | '+' :: rest => isNumber rest
  | text => isPattern text

end ListQuery.Log.Pattern
