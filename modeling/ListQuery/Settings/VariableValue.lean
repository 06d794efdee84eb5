import ListQuery.Document.Entries
import ListQuery.Text.Decimal
import ListQuery.Text.Octets
import ListQuery.Text.Split
import ListQuery.Toml.Quoted

/-!
The value of an environment variable as a tree: a truth value, a number, a quoted text, a list in
brackets, a table in braces, or else the text itself.
-/
namespace ListQuery.Settings

open Text (dropWord splitExponent splitSign takeOctets)

def isSpace (c : Char) : Bool :=
  c == ' ' || c == '\t' || c == '\n' || c == '\r' || c == '\x0c'

def skipSpace (input : List Char) : List Char := input.dropWhile isSpace

def isSeparator (c : Char) : Bool := c == ',' || c == '{' || c == '}' || c == '[' || c == ']'

def isKeyChar (c : Char) : Bool := c.isAlphanum || c == '_' || c == '-'

def natural? (word : List Char) : Option Nat :=
  if word.isEmpty ∨ !word.all Char.isDigit then none else some (Nat.ofDigitChars 10 word 0)

/-- A whole number of a machine word, signed or unsigned. -/
def integer? (word : List Char) : Option Int :=
  let (negative, digits) := splitSign word
  match natural? digits with
  | none => none
  | some value =>
    if negative then if Int64.minValue.toInt ≤ -value then some (-value) else none
    else if value < UInt64.size then some value
    else none

/-- Digits with a point before, after or among them, and perhaps an exponent. -/
def float? (word : List Char) : Option Document :=
  let (negative, unsigned) := splitSign word
  let (mantissa, mark) := splitExponent unsigned
  let exponent : Option Int :=
    match mark with
    | none => some 0
    | some word =>
      let (negative, digits) := splitSign word
      (natural? digits).map fun value => if negative then -(value : Int) else value
  let digits := mantissa.filter (· != '.')
  let fraction := ((mantissa.dropWhile (· != '.')).drop 1).length
  match natural? digits, exponent with
  | some digits, some exponent =>
    if mantissa.count '.' = 1 then some (.decimal negative digits (exponent - fraction)) else none
  | _, _ => none

def plainValue (word : List Char) : Document :=
  match (if '.' ∈ word then float? word else none), integer? word with
  | some number, _ => number
  | none, some value => .int value
  | none, none => .text (String.ofList word)

/--
A quoted text, from after its opening quotation mark. If it has escapes, then the characters before
the first of them are cut to as many octets as there are characters.
-/
def readQuoted (input : List Char) : Option (List Char × List Char) :=
  (Toml.basicString .plain input).map fun (text, rest) =>
    let plain := input.takeWhile fun c => c != '"' && c != '\\'
    match input.drop plain.length with
    | '\\' :: _ => (takeOctets plain.length plain ++ text.drop plain.length, rest)
    | _ => (text, rest)

def readKey (input : List Char) : Option (String × List Char) :=
  match skipSpace input with
  | '"' :: rest => (readQuoted rest).map fun (key, rest) => (String.ofList key, rest)
  | input =>
    let key := input.takeWhile isKeyChar
    if key.isEmpty then none else some (String.ofList key, input.dropWhile isKeyChar)

mutual

/-- The value at the start of a text, with the space around it. -/
def readValue (fuel : Nat) (input : List Char) : Option (Document × List Char) :=
  match fuel with
  | 0 => none
  | fuel + 1 =>
    let input := skipSpace input
    let read : Option (Document × List Char) :=
      match dropWord ['t', 'r', 'u', 'e'] input, dropWord ['f', 'a', 'l', 's', 'e'] input with
      | some rest, _ => some (.bool true, rest)
      | none, some rest => some (.bool false, rest)
      | none, none =>
        match input with
        | '{' :: rest =>
          (match rest with
            | '}' :: rest => some ([], rest)
            | rest => readEntries fuel [] rest).map fun (entries, rest) => (.table entries, rest)
        | '[' :: rest =>
          (match rest with
            | ']' :: rest => some ([], rest)
            | rest => readItems fuel rest).map fun (items, rest) => (.list items, rest)
        | '"' :: rest =>
          (readQuoted rest).map fun (text, rest) => (.text (String.ofList text), rest)
        | '\'' :: c :: '\'' :: rest => some (.text (String.ofList [c]), rest)
        | '\'' :: _ => none
        | input =>
          some (plainValue (Text.trim (input.takeWhile fun c => !isSeparator c)),
            input.dropWhile fun c => !isSeparator c)
    read.map fun (value, rest) => (value, skipSpace rest)

/-- The items up to the closing bracket; a comma may follow the last one. -/
def readItems (fuel : Nat) (input : List Char) : Option (List Document × List Char) :=
  match fuel with
  | 0 => none
  | fuel + 1 =>
    match readValue fuel input with
    | some (item, ']' :: rest) => some ([item], rest)
    | some (item, ',' :: ']' :: rest) => some ([item], rest)
    | some (item, ',' :: rest) =>
      (readItems fuel rest).map fun (items, rest) => (item :: items, rest)
    | _ => none

/-- The entries up to the closing brace; of entries under one key the last counts. -/
def readEntries (fuel : Nat) (entries : List (String × Document)) (input : List Char) :
    Option (List (String × Document) × List Char) :=
  match fuel with
  | 0 => none
  | fuel + 1 =>
    match readKey input with
    | none => none
    | some (key, rest) =>
      match skipSpace rest with
      | '=' :: rest =>
        match readValue fuel rest with
        | some (value, '}' :: rest) => some (setEntry key value entries, rest)
        | some (value, ',' :: '}' :: rest) => some (setEntry key value entries, rest)
        | some (value, ',' :: rest) => readEntries fuel (setEntry key value entries) rest
        | _ => none
      | _ => none

end

/-- A text that is no single value stands for itself. -/
def variableValue (text : String) : Document :=
  let input := text.toList
  match readValue (2 * input.length + 2) input with
  | some (value, []) => value
  | _ => .text text

end ListQuery.Settings
