import ListQuery.Log.Pattern.Atom

/-! Sets of characters in a pattern, such as `[^a-z_[:digit:]]`. Sets may lie in each other. -/
namespace ListQuery.Log.Pattern

/-- A set of octets may hold ASCII characters only. -/
def item (mode : Mode) : List Char → Option (Atom × List Char)
  | [] => none
  | c :: rest =>
    (if c = '\\' then escape mode rest else some (.char c, rest)).filter fun read =>
      read.1 != .place && (mode.unicode || read.1.isAscii)

/-- The text after one item of a set, or after a range whose ends are in order. -/
def afterItem (mode : Mode) (input : List Char) : Option (List Char) :=
  (item mode input).bind fun (low, rest) =>
    match mode.skip rest with
    | '-' :: after =>
      if [some ']', some '-'].contains (mode.peek? after) then some ('-' :: after)
      else
        match low, item mode (mode.skip after) with
        | .char low, some (.char high, rest) => if low ≤ high then some rest else none
        | _, _ => none
    | rest => some rest

def setNames : List String :=
  ["alnum", "alpha", "ascii", "blank", "cntrl", "digit", "graph", "lower", "print", "punct",
    "space", "upper", "word", "xdigit"]

/--
After the bracket that opens a named set such as `[:^alpha:]`: whether it is negated, and the text
after it.
-/
def namedSet? : List Char → Option (Bool × List Char)
  | ':' :: rest =>
    let negated := rest.head? == some '^'
    let rest := if negated then rest.tail else rest
    match rest.dropWhile (· != ':') with
    | ':' :: ']' :: after =>
      if setNames.contains (String.ofList (rest.takeWhile (· != ':'))) then some (negated, after)
      else none
    | _ => none
  | _ => none

/-- After the bracket that opens a set. Most octets outside of a set are no characters. -/
def afterCaret (mode : Mode) (input : List Char) : Option (List Char) :=
  match mode.skip input with
  | '^' :: rest => if mode.unicode then some rest else none
  | rest => some rest

/-- A set read up to some place. -/
structure OpenSet where
  /-- Whether nothing but dashes was read, which are items there. -/
  fresh : Bool := true
  /-- The depth of what stands before the last operator. -/
  before : Option Nat := none
  /-- The depths of the items after it. -/
  items : List Nat := []
  deriving DecidableEq, Repr

namespace OpenSet

def add (set : OpenSet) (depth : Nat) : OpenSet :=
  { set with fresh := false, items := depth :: set.items }

/-- Operators are applied from the left. -/
def depth (set : OpenSet) : Nat :=
  depthOf (set.before.toList ++ [depthOf set.items])

def operate (set : OpenSet) : OpenSet :=
  ⟨false, some set.depth, []⟩

end OpenSet

/-- The depth of a set and the text after it. A bracket that comes first is an item. -/
def afterSet (mode : Mode) (fuel : Nat) (set : OpenSet) (outer : List OpenSet)
    (input : List Char) : Option (Nat × List Char) :=
  match fuel, mode.skip input with
  | fuel + 1, c :: rest =>
    if c = '-' ∧ set.fresh then
      afterSet mode fuel { set with items := 0 :: set.items } outer rest
    else if c = ']' ∧ set.fresh ∧ set.items.isEmpty then afterSet mode fuel (set.add 0) outer rest
    else if c = '[' then
      match namedSet? rest with
      | some (negated, rest) =>
        if negated ∧ !mode.unicode then none else afterSet mode fuel (set.add 0) outer rest
      | none => (afterCaret mode rest).bind (afterSet mode fuel {} (set :: outer))
    else if c = ']' then
      match outer with
      | [] => some (set.depth + 1, rest)
      | around :: outer => afterSet mode fuel (around.add (set.depth + 1)) outer rest
    else if ['&', '-', '~'].contains c ∧ rest.head? = some c then
      afterSet mode fuel set.operate outer rest.tail
    else (afterItem mode (c :: rest)).bind (afterSet mode fuel (set.add 0) outer)
  | _, _ => none

end ListQuery.Log.Pattern
