import ListQuery.Text.Blank

/-! Whole numbers in decimal, and the lenient reading of one at the start of a text. -/
namespace ListQuery.Text

/-- An optional sign: whether it is a minus, and the text after it. -/
def splitSign : List Char → Bool × List Char
  | '-' :: rest => (true, rest)
  | '+' :: rest => (false, rest)
  | text => (false, text)

/-- A number without its exponent, and the text after the letter `e` if there is one. -/
def splitExponent (text : List Char) : List Char × Option (List Char) :=
  let isMark := fun c : Char => c == 'e' || c == 'E'
  match text.dropWhile fun c => !isMark c with
  | [] => (text, none)
  | _ :: rest => (text.takeWhile fun c => !isMark c, some rest)

/--
The whole number that a text starts with, after blanks and at most one sign. None when no digit
follows, or when the digits alone exceed the largest `Int64`.
-/
def leadingInt? (text : String) : Option Int64 :=
  let (negative, unsigned) := splitSign (trimStart text.toList)
  let digits := unsigned.takeWhile Char.isDigit
  if digits.isEmpty then none
  else
    let magnitude := Nat.ofDigitChars 10 digits 0
    if magnitude ≤ Int64.maxValue.toInt then
      some (Int64.ofInt (if negative then -(magnitude : Int) else magnitude))
    else none

end ListQuery.Text
