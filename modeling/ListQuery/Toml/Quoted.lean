import ListQuery.Text.Hex
import ListQuery.Toml.Scan

/-! The four kinds of TOML strings. Each reader starts after the opening quotation marks. -/
namespace ListQuery.Toml

open Text (hexValue? charOfNat?)

def simpleEscape? (c : Char) : Option Char :=
  match c with
  | '"' => some '"'
  | '\\' => some '\\'
  | 'b' => some '\x08'
  | 'f' => some '\x0c'
  | 'n' => some '\n'
  | 'r' => some '\r'
  | 't' => some '\t'
  | _ => none

/-- What has been read of an escape, or how many quotation marks in a row. -/
inductive State where
  | plain
  | escape
  | hex (due value : Nat)
  /-- A backslash and blanks after it, or the blanks of the lines after that. -/
  | fold (lineEnded : Bool)
  | quotes (count : Nat)
  deriving DecidableEq, Repr

/-- The characters that one more character adds, and the state it leaves. -/
def plainStep (multiline : Bool) (c : Char) : Option (List Char × State) :=
  if c = '\\' then some ([], .escape)
  else if multiline ∧ c = '\n' then some ([c], .plain)
  else if isControl c then none
  else some ([c], .plain)

def escapeStep (multiline : Bool) (c : Char) : Option (List Char × State) :=
  if c = 'u' then some ([], .hex 4 0)
  else if c = 'U' then some ([], .hex 8 0)
  else if multiline ∧ c = '\n' then some ([], .fold true)
  else if multiline ∧ isBlank c then some ([], .fold false)
  else (simpleEscape? c).map fun plain => ([plain], .plain)

def step (multiline : Bool) (state : State) (c : Char) : Option (List Char × State) :=
  match state with
  | .plain | .quotes _ => plainStep multiline c
  | .escape => escapeStep multiline c
  | .hex due value =>
    match hexValue? c with
    | none => none
    | some digit =>
      let value := value * 16 + digit
      if 1 < due then some ([], .hex (due - 1) value)
      else (charOfNat? value).map fun c => ([c], .plain)
  | .fold lineEnded =>
    if isBlank c then some ([], .fold lineEnded)
    else if c = '\n' then some ([], .fold true)
    else if lineEnded then plainStep multiline c
    else none

def prepend (chars : List Char) (read : Option (List Char × List Char)) :
    Option (List Char × List Char) :=
  read.map fun (text, rest) => (chars ++ text, rest)

/-- Whether a quotation mark counts as one here, rather than belonging to an escape. -/
def State.atQuote : State → Bool
  | .plain | .quotes _ | .fold true => true
  | _ => false

def basicString (state : State) : List Char → Option (List Char × List Char)
  | [] => none
  | c :: rest =>
    if c = '"' ∧ state.atQuote then some ([], rest)
    else
      match step false state c with
      | none => none
      | some (chars, next) => prepend chars (basicString next rest)

/-- Three quotation marks end the string; up to two in front of them belong to it. -/
def multilineBasic (state : State) : List Char → Option (List Char × List Char)
  | [] =>
    match state with
    | .quotes count => if 3 ≤ count then some (List.replicate (count - 3) '"', []) else none
    | _ => none
  | c :: rest =>
    let count := match state with | .quotes count => count | _ => 0
    if c = '"' ∧ state.atQuote then
      if count = 4 then some (['"', '"'], rest) else multilineBasic (.quotes (count + 1)) rest
    else if 3 ≤ count then some (List.replicate (count - 3) '"', c :: rest)
    else
      match step true state c with
      | none => none
      | some (chars, next) =>
        prepend (List.replicate count '"' ++ chars) (multilineBasic next rest)

def literalString : List Char → Option (List Char × List Char)
  | [] => none
  | c :: rest =>
    if c = '\'' then some ([], rest)
    else if isControl c then none
    else prepend [c] (literalString rest)

def multilineLiteral (count : Nat) : List Char → Option (List Char × List Char)
  | [] => if 3 ≤ count then some (List.replicate (count - 3) '\'', []) else none
  | c :: rest =>
    if c = '\'' then
      if count = 4 then some (['\'', '\''], rest) else multilineLiteral (count + 1) rest
    else if 3 ≤ count then some (List.replicate (count - 3) '\'', c :: rest)
    else if isControl c ∧ c ≠ '\n' then none
    else prepend (List.replicate count '\'' ++ [c]) (multilineLiteral 0 rest)

/-- A line end right after the opening marks does not belong to the string. -/
def dropLineEnd : List Char → List Char
  | '\n' :: rest => rest
  | input => input

/-- The string that a text starts with, if it starts with a quotation mark. -/
def readString (input : List Char) : Option (String × List Char) :=
  (match input with
    | '"' :: '"' :: '"' :: rest => multilineBasic .plain (dropLineEnd rest)
    | '"' :: rest => basicString .plain rest
    | '\'' :: '\'' :: '\'' :: rest => multilineLiteral 0 (dropLineEnd rest)
    | '\'' :: rest => literalString rest
    | _ => none).map fun (text, rest) => (String.ofList text, rest)

end ListQuery.Toml
