import ListQuery.Document.Basic
import ListQuery.Document.Double
import ListQuery.Text.Hex
import ListQuery.Text.Split

/-!
JSON text as a tree. Half of a surrogate pair, a number past the range of doubles and nesting past
127 levels are spelled correctly but unreadable.
-/
namespace ListQuery.Json

open Text (dropWord hexValue?)

def isSpace (c : Char) : Bool := c == ' ' || c == '\t' || c == '\n' || c == '\r'

def skipSpace (input : List Char) : List Char := input.dropWhile isSpace

def simpleEscape? (c : Char) : Option Char :=
  match c with
  | '"' => some '"'
  | '\\' => some '\\'
  | '/' => some '/'
  | 'b' => some '\x08'
  | 'f' => some '\x0c'
  | 'n' => some '\n'
  | 'r' => some '\r'
  | 't' => some '\t'
  | _ => none

/-- The characters of a string up to its end, whether each stands for one, and the text after it. -/
structure Scanned where
  chars : List Char
  sound : Bool
  rest : List Char
  deriving DecidableEq, Repr

def Scanned.cons (c : Char) (sound : Bool) (scanned : Scanned) : Scanned :=
  { scanned with chars := c :: scanned.chars, sound := sound && scanned.sound }

inductive StringState where
  | plain
  | escape
  | hex (due value : Nat)
  deriving DecidableEq, Repr

def isHighSurrogate (n : Nat) : Bool := 0xd800 ≤ n && n ≤ 0xdbff

def isLowSurrogate (n : Nat) : Bool := 0xdc00 ≤ n && n ≤ 0xdfff

/-- A high surrogate is kept until the low one that has to follow at once. -/
def scanString (state : StringState) (high : Option Nat) : List Char → Option Scanned
  | [] => none
  | c :: rest =>
    match state with
    | .plain =>
      if c = '"' then some ⟨[], high.isNone, rest⟩
      else if c = '\\' then scanString .escape high rest
      else if c < ' ' then none
      else (scanString .plain none rest).map (.cons c high.isNone)
    | .escape =>
      if c = 'u' then scanString (.hex 4 0) high rest
      else
        match simpleEscape? c with
        | none => none
        | some plain => (scanString .plain none rest).map (.cons plain high.isNone)
    | .hex due value =>
      match hexValue? c with
      | none => none
      | some digit =>
        let value := value * 16 + digit
        if 1 < due then scanString (.hex (due - 1) value) high rest
        else if isHighSurrogate value then
          (scanString .plain (some value) rest).map fun scanned =>
            { scanned with sound := high.isNone && scanned.sound }
        else
          match high with
          | none =>
            (scanString .plain none rest).map (.cons (Char.ofNat value) !(isLowSurrogate value))
          | some first =>
            let joined := 0x10000 + (first - 0xd800) * 0x400 + (value - 0xdc00)
            (scanString .plain none rest).map (.cons (Char.ofNat joined) (isLowSurrogate value))

/-- The digits after a point; a point without digits is an error. -/
def readFraction : List Char → Option (Option (List Char) × List Char)
  | '.' :: rest =>
    let digits := rest.takeWhile Char.isDigit
    if digits.isEmpty then none else some (some digits, rest.dropWhile Char.isDigit)
  | input => some (none, input)

def readExponent (input : List Char) : Option (Option Int × List Char) :=
  match input with
  | c :: rest =>
    if c = 'e' ∨ c = 'E' then
      let (negative, rest) :=
        match rest with
        | '-' :: rest => (true, rest)
        | '+' :: rest => (false, rest)
        | rest => (false, rest)
      let digits := rest.takeWhile Char.isDigit
      let value : Int := Nat.ofDigitChars 10 digits 0
      if digits.isEmpty then none
      else some (some (if negative then -value else value), rest.dropWhile Char.isDigit)
    else some (none, input)
  | [] => some (none, input)

/-- Minus zero is no whole number, as it has a sign. -/
def number (negative : Bool) (whole : List Char) (fraction : Option (List Char))
    (exponent : Option Int) : Document :=
  let double : Document :=
    match Document.Double.ofDecimal? whole (fraction.getD []) (exponent.getD 0) with
    | some value =>
      let (digits, exponent) := Document.Double.shortest value
      .decimal negative digits exponent
    | none => .unreadable
  let digits := Nat.ofDigitChars 10 whole 0
  match fraction, exponent with
  | none, none =>
    if negative then
      if digits = 0 ∨ -digits < Int64.minValue.toInt then double else .int (-digits)
    else if digits < UInt64.size then .int digits
    else double
  | _, _ => double

def readNumber (input : List Char) : Option (Document × List Char) :=
  let (negative, input) :=
    match input with
    | '-' :: rest => (true, rest)
    | input => (false, input)
  let whole := input.takeWhile Char.isDigit
  if whole.isEmpty ∨ (whole.head? = some '0' ∧ 1 < whole.length) then none
  else
    match readFraction (input.dropWhile Char.isDigit) with
    | none => none
    | some (fraction, input) =>
      match readExponent input with
      | none => none
      | some (exponent, input) => some (number negative whole fraction exponent, input)

mutual

/-- The value at the start of a text, with `depth` further levels of nesting to go. -/
def readValue (fuel depth : Nat) (input : List Char) : Option (Document × List Char) :=
  match fuel with
  | 0 => none
  | fuel + 1 =>
    match skipSpace input with
    | '"' :: rest =>
      (scanString .plain none rest).map fun scanned =>
        (if scanned.sound then .text (String.ofList scanned.chars) else .unreadable, scanned.rest)
    | '[' :: rest =>
      (match skipSpace rest with
        | ']' :: rest => some ([], rest)
        | rest => readItems fuel (depth - 1) rest).map fun (items, rest) =>
        (if depth = 0 then .unreadable else .list items, rest)
    | '{' :: rest =>
      (match skipSpace rest with
        | '}' :: rest => some ([], true, rest)
        | rest => readEntries fuel (depth - 1) rest).map fun (entries, sound, rest) =>
        (if depth = 0 ∨ !sound then .unreadable else .table entries, rest)
    | 'n' :: rest => (dropWord ['u', 'l', 'l'] rest).map fun rest => (.null, rest)
    | 't' :: rest => (dropWord ['r', 'u', 'e'] rest).map fun rest => (.bool true, rest)
    | 'f' :: rest => (dropWord ['a', 'l', 's', 'e'] rest).map fun rest => (.bool false, rest)
    | rest => readNumber rest

def readItems (fuel depth : Nat) (input : List Char) : Option (List Document × List Char) :=
  match fuel with
  | 0 => none
  | fuel + 1 =>
    match readValue fuel depth input with
    | none => none
    | some (item, rest) =>
      match skipSpace rest with
      | ',' :: rest => (readItems fuel depth rest).map fun (items, rest) => (item :: items, rest)
      | ']' :: rest => some ([item], rest)
      | _ => none

/-- The entries of a table, and whether all keys can be read. -/
def readEntries (fuel depth : Nat) (input : List Char) :
    Option (List (String × Document) × Bool × List Char) :=
  match fuel with
  | 0 => none
  | fuel + 1 =>
    match skipSpace input with
    | '"' :: rest =>
      match scanString .plain none rest with
      | none => none
      | some key =>
        match skipSpace key.rest with
        | ':' :: rest =>
          match readValue fuel depth rest with
          | none => none
          | some (value, rest) =>
            let entry := (String.ofList key.chars, value)
            match skipSpace rest with
            | ',' :: rest =>
              (readEntries fuel depth rest).map fun (entries, sound, rest) =>
                (entry :: entries, key.sound && sound, rest)
            | '}' :: rest => some ([entry], key.sound, rest)
            | _ => none
        | _ => none
    | _ => none

end

/-- The tree that a whole text spells. -/
def parse? (text : String) : Option Document :=
  let input := text.toList
  match readValue (2 * input.length + 1) 127 input with
  | some (document, rest) => if (skipSpace rest).isEmpty then some document else none
  | none => none

end ListQuery.Json
