import ListQuery.Document.Basic

/-! Trees as JSON text: on one line, or indented by two spaces a level. -/
namespace ListQuery.Json

open Document

def hexDigits (n : Nat) : List Char :=
  let digits := Nat.toDigits 16 n
  List.replicate (4 - digits.length) '0' ++ digits

/-- Only quotation marks, backslashes and the characters below the space are escaped. -/
def escaped (c : Char) : List Char :=
  if c = '"' then ['\\', '"']
  else if c = '\\' then ['\\', '\\']
  else if c = '\x08' then ['\\', 'b']
  else if c = '\t' then ['\\', 't']
  else if c = '\n' then ['\\', 'n']
  else if c = '\x0c' then ['\\', 'f']
  else if c = '\r' then ['\\', 'r']
  else if c < ' ' then ['\\', 'u'] ++ hexDigits c.toNat
  else [c]

def string (text : String) : List Char :=
  '"' :: (text.toList.flatMap escaped ++ ['"'])

def decimal (negative : Bool) (digits : Nat) (exponent : Int) : List Char :=
  (if negative then ['-'] else []) ++ Nat.toDigits 10 digits ++ ['e'] ++
    (toString exponent).toList

mutual

def print : Document → List Char
  | .null | .unreadable => ['n', 'u', 'l', 'l']
  | .bool true => ['t', 'r', 'u', 'e']
  | .bool false => ['f', 'a', 'l', 's', 'e']
  | .int value => (toString value).toList
  | .decimal negative digits exponent => decimal negative digits exponent
  | .text value => string value
  | .list items => '[' :: (printItems items ++ [']'])
  | .table entries => '{' :: (printEntries entries ++ ['}'])

def printItems : List Document → List Char
  | [] => []
  | [item] => print item
  | item :: rest => print item ++ ',' :: printItems rest

def printEntries : List (String × Document) → List Char
  | [] => []
  | [(key, value)] => string key ++ ':' :: print value
  | (key, value) :: rest => string key ++ ':' :: (print value ++ ',' :: printEntries rest)

end

def compact (document : Document) : String :=
  String.ofList (print document)

def newline (depth : Nat) : List Char :=
  '\n' :: List.replicate (2 * depth) ' '

mutual

def printIndented (depth : Nat) : Document → List Char
  | .list (item :: rest) =>
    '[' :: (newline (depth + 1) ++ printIndented (depth + 1) item ++
      indentedItems (depth + 1) rest ++ newline depth ++ [']'])
  | .table ((key, value) :: rest) =>
    '{' :: (newline (depth + 1) ++ string key ++ ':' :: ' ' :: printIndented (depth + 1) value ++
      indentedEntries (depth + 1) rest ++ newline depth ++ ['}'])
  | document => print document

def indentedItems (depth : Nat) : List Document → List Char
  | [] => []
  | item :: rest =>
    ',' :: (newline depth ++ printIndented depth item ++ indentedItems depth rest)

def indentedEntries (depth : Nat) : List (String × Document) → List Char
  | [] => []
  | (key, value) :: rest =>
    ',' :: (newline depth ++ string key ++ ':' :: ' ' :: printIndented depth value ++
      indentedEntries depth rest)

end

def indented (document : Document) : String :=
  String.ofList (printIndented 0 document)

end ListQuery.Json
