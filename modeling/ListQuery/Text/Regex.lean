/-! Regular expressions over characters, matched against a whole text. -/
namespace ListQuery.Text

inductive Regex where
  | nothing
  | empty
  | oneOf (accepts : Char → Bool)
  | sequence (first second : Regex)
  | choice (left right : Regex)
  | many (inner : Regex)

namespace Regex

def oneOrMore (accepts : Char → Bool) : Regex :=
  sequence (oneOf accepts) (many (oneOf accepts))

def word (text : String) : Regex :=
  text.toList.foldr (fun c rest => sequence (oneOf (· == c)) rest) empty

def anyOf (words : List String) : Regex :=
  words.foldr (fun text rest => choice (word text) rest) nothing

def inOrder (parts : List Regex) : Regex :=
  parts.foldr sequence empty

def acceptsEmpty : Regex → Bool
  | nothing | oneOf _ => false
  | empty | many _ => true
  | sequence first second => first.acceptsEmpty && second.acceptsEmpty
  | choice left right => left.acceptsEmpty || right.acceptsEmpty

/-- A sequence without a first part that nothing is left of. -/
def followedBy : Regex → Regex → Regex
  | nothing, _ => nothing
  | empty, second => second
  | first, second => sequence first second

/-- A choice without an impossible side. -/
def orElse : Regex → Regex → Regex
  | nothing, right => right
  | left, nothing => left
  | left, right => choice left right

/-- What is left to match after a first character. -/
def after (c : Char) : Regex → Regex
  | nothing | empty => nothing
  | oneOf accepts => if accepts c then empty else nothing
  | sequence first second =>
    let rest := (first.after c).followedBy second
    if first.acceptsEmpty then rest.orElse (second.after c) else rest
  | choice left right => (left.after c).orElse (right.after c)
  | many inner => (inner.after c).followedBy (many inner)

def accepts (regex : Regex) : List Char → Bool
  | [] => regex.acceptsEmpty
  | c :: rest => (regex.after c).accepts rest

/--
The parts around a separator, the first matched by `first` and the other by `second`. Of several
ways to cut a text the one with the longest first part is taken.
-/
def capture (separator : Char) (second first : Regex) :
    List Char → Option (List Char × List Char)
  | [] => none
  | c :: rest =>
    match capture separator second (first.after c) rest with
    | some (head, tail) => some (c :: head, tail)
    | none =>
      if c = separator ∧ first.acceptsEmpty ∧ second.accepts rest then some ([], rest) else none

end Regex

end ListQuery.Text
