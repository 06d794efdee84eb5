import ListQuery.Text.Blank

/-!
How a pattern is read, and how deep its parts lie in each other. Flags that are written in a pattern
change the mode for the rest of the group they stand in.
-/
namespace ListQuery.Log.Pattern

open Text

structure Mode where
  /-- Whether a pattern speaks of characters, and not of single octets. -/
  unicode : Bool := true
  /-- Whether blanks and comments are there for the reader alone. -/
  spaced : Bool := false
  deriving DecidableEq, Repr

/-- The text after blanks and comments. A comment goes from a hash to the end of its line. -/
def dropComments (inComment : Bool) : List Char → List Char
  | [] => []
  | c :: rest =>
    if inComment then dropComments (c != '\n') rest
    else if isBlank c then dropComments false rest
    else if c = '#' then dropComments true rest
    else c :: rest

namespace Mode

/-- A flag is on if it stands before the dash and off if it stands after it. -/
def withFlags (mode : Mode) (flags : List Char) : Mode :=
  let state (flag : Char) (inherited : Bool) : Bool :=
    if flags.contains flag then (flags.takeWhile (· != '-')).contains flag else inherited
  ⟨state 'u' mode.unicode, state 'x' mode.spaced⟩

/-- The text from the first character on that counts. -/
def skip (mode : Mode) (input : List Char) : List Char :=
  if mode.spaced then dropComments false input else input

/--
The character after a dash by which it is told whether the dash makes a range. Of a comment only the
hash is passed over here, and at the end of the text nothing is.
-/
def peek? (mode : Mode) (input : List Char) : Option Char :=
  let passed :=
    match input.dropWhile isBlank with
    | '#' :: rest => rest.dropWhile isBlank
    | rest => rest
  if mode.spaced then passed.head?.or input.head? else input.head?

end Mode

/-- A single part adds nothing to its own depth, several side by side are one level above them. -/
def depthOf : List Nat → Nat
  | [] => 0
  | [part] => part
  | parts => parts.foldl max 0 + 1

/-- Deeper patterns are refused. -/
def maxDepth : Nat := 250

end ListQuery.Log.Pattern
