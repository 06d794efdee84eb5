import ListQuery.Log.Pattern.Mode
import ListQuery.Text.Hex

/-!
What a backslash and the characters after it stand for in a pattern. Text to be matched is always
UTF-8, so nothing may stand for an octet that is no character of its own.
-/
namespace ListQuery.Log.Pattern

open Text

inductive Atom where
  | char (value : Char)
  /-- Any of several characters. -/
  | set
  /-- A place between characters. -/
  | place
  deriving DecidableEq, Repr

def Atom.isAscii : Atom → Bool
  | .char c => c.toNat < 0x80
  | .set | .place => true

def hexDigits (mode : Mode) (value : Nat) : Nat → List Char → Option (Nat × List Char)
  | 0, input => some (value, input)
  | _ + 1, [] => none
  | count + 1, c :: rest =>
    (hexValue? c).bind fun digit => hexDigits mode (value * 16 + digit) count (mode.skip rest)

/-- A character by its number, in exactly so many digits. -/
def numbered (mode : Mode) (count : Nat) (input : List Char) : Option (Atom × List Char) :=
  (hexDigits mode 0 count (mode.skip input)).bind fun (number, rest) =>
    (charOfNat? number).map fun c => (.char c, rest)

/-- A category of characters by its initial. -/
def category (mode : Mode) (input : List Char) : Option (Atom × List Char) :=
  match mode.skip input with
  | [] => none
  | c :: rest =>
    if mode.unicode ∧ ['c', 'l', 'm', 'n', 'p', 's', 'z'].contains c.toLower then
      some (.set, mode.skip rest)
    else none

def controls : List (Char × Char) :=
  [('a', '\x07'), ('f', '\x0c'), ('t', '\t'), ('n', '\n'), ('r', '\r'), ('v', '\x0b')]

/-- What follows a backslash. Boundaries of words are known only among ASCII characters. -/
def escape (mode : Mode) : List Char → Option (Atom × List Char)
  | [] => none
  | c :: rest =>
    if c = 'x' then (numbered mode 2 rest).filter fun read => mode.unicode || read.1.isAscii
    else if c = 'u' then numbered mode 4 rest
    else if c = 'U' then numbered mode 8 rest
    else if c = 'p' ∨ c = 'P' then category mode rest
    else if ['d', 's', 'w'].contains c then some (.set, rest)
    else if ['D', 'S', 'W'].contains c then if mode.unicode then some (.set, rest) else none
    else if ['A', 'z'].contains c then some (.place, rest)
    else if ['b', 'B', '<', '>'].contains c then
      if mode.unicode then none else some (.place, rest)
    else if c.isAlphanum ∨ 0x80 ≤ c.toNat then
      (controls.lookup c).map fun control => (.char control, rest)
    else some (.char c, rest)

end ListQuery.Log.Pattern
