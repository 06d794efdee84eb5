import ListQuery.Toml.Scalar
import ListQuery.Toml.Table

/-! TOML text as a tree. -/
namespace ListQuery.Toml

def isKeyChar (c : Char) : Bool := c.isAlphanum || c == '_' || c == '-'

def readSimpleKey (input : List Char) : Option (String × List Char) :=
  match input with
  | '"' :: rest => (basicString .plain rest).map fun (key, rest) => (String.ofList key, rest)
  | '\'' :: rest => (literalString rest).map fun (key, rest) => (String.ofList key, rest)
  | _ =>
    let key := input.takeWhile isKeyChar
    if key.isEmpty then none else some (String.ofList key, input.dropWhile isKeyChar)

/-- The parts of a dotted key; blanks may surround each. -/
def readKeyParts : Nat → List Char → Option (List String × List Char)
  | 0, _ => none
  | fuel + 1, input =>
    match readSimpleKey (skipBlanks input) with
    | none => none
    | some (key, rest) =>
      match skipBlanks rest with
      | '.' :: rest => (readKeyParts fuel rest).map fun (keys, rest) => (key :: keys, rest)
      | rest => some ([key], rest)

/-- A key has fewer than 80 parts; its last part is apart from the path to it. -/
def readKey (input : List Char) : Option (List String × String × List Char) :=
  match readKeyParts 79 input with
  | none => none
  | some (keys, rest) => keys.getLast?.map fun last => (keys.dropLast, last, rest)

mutual

/-- The value at the start of a text, with `depth` further levels of brackets to go. -/
def readValue (fuel depth : Nat) (input : List Char) : Option (Document × List Char) :=
  match fuel with
  | 0 => none
  | fuel + 1 =>
    match input with
    | '"' :: _ | '\'' :: _ => (readString input).map fun (text, rest) => (.text text, rest)
    | '[' :: rest =>
      if depth = 0 then none
      else (readItems fuel (depth - 1) rest).map fun (items, rest) => (.list items, rest)
    | '{' :: rest =>
      if depth = 0 then none
      else
        match skipBlanks rest with
        | '}' :: rest => some (.table [], rest)
        | rest =>
          (readEntries fuel (depth - 1) (.empty .header) rest).map fun (table, rest) =>
            (table.toDocument, rest)
    | _ =>
      let (word, rest) := takeWord input
      (scalar? word).map fun document => (document, rest)

/-- The items up to the closing bracket; a comma may follow the last one. -/
def readItems (fuel depth : Nat) (input : List Char) : Option (List Document × List Char) :=
  match fuel with
  | 0 => none
  | fuel + 1 =>
    match skipTrivia false input with
    | none | some [] => none
    | some (']' :: rest) => some ([], rest)
    | some rest =>
      match readValue fuel depth rest with
      | none => none
      | some (item, rest) =>
        match skipTrivia false rest with
        | some (',' :: rest) =>
          (readItems fuel depth rest).map fun (items, rest) => (item :: items, rest)
        | some (']' :: rest) => some ([item], rest)
        | _ => none

/-- The entries of a table in braces, all on one line. -/
def readEntries (fuel depth : Nat) (table : Table) (input : List Char) :
    Option (Table × List Char) :=
  match fuel with
  | 0 => none
  | fuel + 1 =>
    match readKey input with
    | some (path, key, '=' :: rest) =>
      match readValue fuel depth (skipBlanks rest) with
      | none => none
      | some (value, rest) =>
        match table.define path key value, skipBlanks rest with
        | some table, ',' :: rest => readEntries fuel depth table rest
        | some table, '}' :: rest => some (table, rest)
        | _, _ => none
    | _ => none

end

/-- A key and its value, or a header, at the start of a line. -/
inductive Statement where
  | assignment (path : List String) (key : String) (value : Document)
  | header (path : List String) (key : String)
  | itemHeader (path : List String) (key : String)

def readStatement (input : List Char) : Option (Statement × List Char) :=
  match input with
  | '[' :: '[' :: rest =>
    match readKey rest with
    | some (path, key, ']' :: ']' :: rest) => some (.itemHeader path key, rest)
    | _ => none
  | '[' :: rest =>
    match readKey rest with
    | some (path, key, ']' :: rest) => some (.header path key, rest)
    | _ => none
  | _ =>
    match readKey input with
    | some (path, key, '=' :: rest) =>
      (readValue (2 * input.length + 1) 79 (skipBlanks rest)).map fun (value, rest) =>
        (.assignment path key value, rest)
    | _ => none

/-- The tables defined so far, and the path of the one that assignments go to. -/
structure Progress where
  root : Table
  current : List String

def Progress.apply (progress : Progress) : Statement → Option Progress
  | .assignment path key value =>
    (progress.root.update false (fun table => table.define path key value) progress.current).map
      fun root => { progress with root := root }
  | .header path key =>
    (progress.root.openTable path key).map fun root => ⟨root, path ++ [key]⟩
  | .itemHeader path key =>
    (progress.root.openItem path key).map fun root => ⟨root, path ++ [key]⟩

/-- Reads lines up to the end of the text. -/
def readLines : Nat → Progress → List Char → Option Table
  | 0, _, _ => none
  | fuel + 1, progress, input =>
    match skipTrivia false input with
    | none => none
    | some [] => some progress.root
    | some input =>
      match readStatement input with
      | none => none
      | some (statement, rest) =>
        match progress.apply statement, endLine rest with
        | some progress, some rest => readLines fuel progress rest
        | _, _ => none

def dropByteOrderMark : List Char → List Char
  | '\ufeff' :: rest => rest
  | input => input

/-- The tree that a whole text spells, its tables in the order of their keys. -/
def parse? (text : String) : Option Document :=
  let input := joinLineEnds (dropByteOrderMark text.toList)
  (readLines (input.length + 1) ⟨.empty .header, []⟩ input).map Table.toDocument

end ListQuery.Toml
