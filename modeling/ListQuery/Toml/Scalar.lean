import ListQuery.Document.Basic
import ListQuery.Document.Magnitude
import ListQuery.Text.Decimal
import ListQuery.Text.Split
import ListQuery.Toml.Quoted

/-! TOML values that are written as one word: truth values, numbers and times. -/
namespace ListQuery.Toml

open Text

/-- Digits, where an underscore may stand between two of them. -/
def digitsOf? (isDigit : Char → Bool) (word : List Char) : Option (List Char) :=
  let groups := word.splitOnP (· == '_')
  if groups.all fun group => !group.isEmpty && group.all isDigit then some groups.flatten else none

/-- Decimal digits without a needless leading zero. -/
def wholeDigits? (word : List Char) : Option (List Char) :=
  (digitsOf? Char.isDigit word).filter fun digits => digits.head? != some '0' || digits.length == 1

def ofDigits (base : Nat) (digits : List Char) : Nat :=
  digits.foldl (fun value c => value * base + (hexValue? c).getD 0) 0

def prefixed? (base : Nat) (word : List Char) : Option Nat :=
  (digitsOf? (fun c => (hexValue? c).any (· < base)) word).map (ofDigits base)

def integer? (word : List Char) : Option Int :=
  let value : Option Int :=
    match word with
    | '0' :: 'x' :: digits => (prefixed? 16 digits).map Int.ofNat
    | '0' :: 'o' :: digits => (prefixed? 8 digits).map Int.ofNat
    | '0' :: 'b' :: digits => (prefixed? 2 digits).map Int.ofNat
    | _ =>
      let (negative, digits) := splitSign word
      (wholeDigits? digits).map fun digits =>
        if negative then -(ofDigits 10 digits : Int) else ofDigits 10 digits
  value.filter fun value => Int64.minValue.toInt ≤ value ∧ value ≤ Int64.maxValue.toInt

/-- The exponent after the letter `e`; zero without one. -/
def exponent? : Option (List Char) → Option Int
  | none => some 0
  | some word =>
    let (negative, digits) := splitSign word
    (digitsOf? Char.isDigit digits).map fun digits =>
      if negative then -(ofDigits 10 digits : Int) else ofDigits 10 digits

/-- A number past the largest double is an error unless it is negative. -/
def float? (word : List Char) : Option Document :=
  let (negative, unsigned) := splitSign word
  if unsigned = ['i', 'n', 'f'] ∨ unsigned = ['n', 'a', 'n'] then some .unreadable
  else
    let (mantissa, exponent) := splitExponent unsigned
    let (whole, fraction) := splitFirst '.' mantissa
    if fraction.isNone ∧ exponent.isNone then none
    else
      match wholeDigits? whole, (fraction.map (digitsOf? Char.isDigit)).getD (some []),
        exponent? exponent with
      | some whole, some fraction, some exponent =>
        let digits := ofDigits 10 (whole ++ fraction)
        let exponent := exponent - fraction.length
        if Document.exceedsDouble digits exponent then if negative then some .unreadable else none
        else some (.decimal negative digits exponent)
      | _, _, _ => none

/-- A number of exactly two digits, within bounds. -/
def twoDigits (low high : Nat) : List Char → Option (Nat × List Char)
  | a :: b :: rest =>
    if a.isDigit ∧ b.isDigit then
      let value := ofDigits 10 [a, b]
      if low ≤ value ∧ value ≤ high then some (value, rest) else none
    else none
  | _ => none

def expect (c : Char) : List Char → Option (List Char)
  | d :: rest => if c = d then some rest else none
  | [] => none

def daysIn (year month : Nat) : Nat :=
  if month = 2 then
    if year % 4 = 0 ∧ (year % 100 ≠ 0 ∨ year % 400 = 0) then 29 else 28
  else if month = 4 ∨ month = 6 ∨ month = 9 ∨ month = 11 then 30
  else 31

/-- The text after a date. -/
def date? : List Char → Option (List Char)
  | a :: b :: c :: d :: rest => do
    if !([a, b, c, d].all Char.isDigit) then none
    let rest ← expect '-' rest
    let (month, rest) ← twoDigits 1 12 rest
    let rest ← expect '-' rest
    let (_, rest) ← twoDigits 1 (daysIn (ofDigits 10 [a, b, c, d]) month) rest
    pure rest
  | _ => none

/-- The text after a time of day. -/
def time? (input : List Char) : Option (List Char) := do
  let (_, rest) ← twoDigits 0 23 input
  let rest ← expect ':' rest
  let (_, rest) ← twoDigits 0 59 rest
  let rest ← expect ':' rest
  let (_, rest) ← twoDigits 0 60 rest
  match rest with
  | '.' :: fraction =>
    if (fraction.takeWhile Char.isDigit).isEmpty then none
    else pure (fraction.dropWhile Char.isDigit)
  | rest => pure rest

/-- Whether a text is empty or the offset of a time zone. -/
def isOffset : List Char → Bool
  | [] => true
  | ['Z'] | ['z'] => true
  | '+' :: rest | '-' :: rest =>
    (do
      let (_, rest) ← twoDigits 0 23 rest
      let rest ← expect ':' rest
      let (_, rest) ← twoDigits 0 59 rest
      pure rest.isEmpty : Option Bool).getD false
  | _ => false

def isDateTime (word : List Char) : Bool :=
  match date? word with
  | some [] => true
  | some (mark :: rest) =>
    (mark == 'T' || mark == 't' || mark == ' ') && ((time? rest).map isOffset).getD false
  | none => time? word = some []

/-- A time is a table with one entry, under a key of its own. -/
def timeKey : String := "$__toml_private_datetime"

def scalar? (word : List Char) : Option Document :=
  if word = ['t', 'r', 'u', 'e'] then some (.bool true)
  else if word = ['f', 'a', 'l', 's', 'e'] then some (.bool false)
  else if isDateTime word then some (.table [(timeKey, .text (String.ofList word))])
  else
    match integer? word with
    | some value => some (.int value)
    | none => float? word

def isWordChar (c : Char) : Bool :=
  c.isAlphanum || c == '_' || c == '+' || c == '-' || c == '.' || c == ':'

/-- The word at the start of a text. A date and a time may be two words. -/
def takeWord (input : List Char) : List Char × List Char :=
  let word := input.takeWhile isWordChar
  match date? word, input.dropWhile isWordChar with
  | some [], ' ' :: digit :: rest =>
    if digit.isDigit then
      (word ++ ' ' :: (digit :: rest).takeWhile isWordChar, (digit :: rest).dropWhile isWordChar)
    else (word, ' ' :: digit :: rest)
  | _, rest => (word, rest)

end ListQuery.Toml
