/-! The characters of TOML between its values: blanks, comments and line ends. -/
namespace ListQuery.Toml

/-- A line feed may be preceded by a carriage return. -/
def joinLineEnds : List Char → List Char
  | '\r' :: '\n' :: rest => '\n' :: joinLineEnds rest
  | c :: rest => c :: joinLineEnds rest
  | [] => []

def isBlank (c : Char) : Bool := c == ' ' || c == '\t'

/-- A tab is the only control character that a line may hold. -/
def isControl (c : Char) : Bool := (c.toNat < 0x20 && c != '\t') || c.toNat == 0x7f

def skipBlanks (input : List Char) : List Char := input.dropWhile isBlank

/-- Skips blanks, comments and line ends. -/
def skipTrivia (inComment : Bool) : List Char → Option (List Char)
  | [] => some []
  | c :: rest =>
    if inComment then
      if c = '\n' then skipTrivia false rest
      else if isControl c then none
      else skipTrivia true rest
    else if isBlank c ∨ c = '\n' then skipTrivia false rest
    else if c = '#' then skipTrivia true rest
    else some (c :: rest)

/-- Ends a line: blanks, perhaps a comment, and a line end or the end of the text. -/
def endLine (input : List Char) : Option (List Char) :=
  match skipBlanks input with
  | [] => some []
  | '\n' :: rest => some rest
  | '#' :: rest =>
    let comment := rest.takeWhile (· != '\n')
    if comment.any isControl then none else some ((rest.dropWhile (· != '\n')).drop 1)
  | _ => none

end ListQuery.Toml
