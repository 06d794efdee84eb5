import ListQuery.Log.Pattern.Set
import ListQuery.Text.Alphanumeric
import ListQuery.Text.Split

/-!
Patterns in the notation of regular expressions. Only their spelling counts here, as there are no
spans whose fields could be compared with them.
-/
namespace ListQuery.Log.Pattern

open Text

/-- A group read up to some place. -/
structure Group where
  mode : Mode := {}
  /-- The depths of the branches that are complete. -/
  branches : List Nat := []
  /-- The depths of the parts of the last branch, last first; none for flags. -/
  parts : List (Option Nat) := []
  deriving DecidableEq, Repr

namespace Group

def add (group : Group) (depth : Nat) : Group :=
  { group with parts := some depth :: group.parts }

def branch (group : Group) : Nat :=
  depthOf (group.parts.map fun depth => depth.getD 0)

def nextBranch (group : Group) : Group :=
  { group with branches := group.branch :: group.branches, parts := [] }

def depth (group : Group) : Nat :=
  depthOf (group.branch :: group.branches)

end Group

/-- A pattern read up to some place. -/
structure Progress where
  group : Group := {}
  /-- The groups around, innermost first. -/
  outer : List Group := []
  names : List (List Char) := []
  deriving DecidableEq, Repr

namespace Progress

def enter (progress : Progress) (mode : Mode) : Progress :=
  { progress with group := ⟨mode, [], []⟩, outer := progress.group :: progress.outer }

/-- What flags of a group change ends with it. -/
def leave? (progress : Progress) : Option Progress :=
  match progress.outer with
  | [] => none
  | around :: outer =>
    some { progress with group := around.add (progress.group.depth + 1), outer := outer }

/-- Only the last part is repeated. -/
def repeatLast? (progress : Progress) : Option Progress :=
  match progress.group.parts with
  | some depth :: parts =>
    some { progress with group := { progress.group with parts := some (depth + 1) :: parts } }
  | _ => none

end Progress

def isName : List Char → Bool
  | [] => false
  | c :: rest =>
    (c == '_' || isAlphabetic c) &&
      rest.all fun c => c == '_' || c == '.' || c == '[' || c == ']' || isAlphanumeric c

def openNamedGroup (progress : Progress) (input : List Char) : Option (Progress × List Char) :=
  let (name, rest) := splitFirst '>' input
  if isName name && !progress.names.contains name then
    rest.map fun rest =>
      ({ progress.enter progress.group.mode with names := name :: progress.names }, rest)
  else none

/-- Flags, each at most once, for the rest of a group or in front of a group of their own. -/
def openFlags (progress : Progress) (input : List Char) : Option (Progress × List Char) :=
  let isEnd := fun c : Char => c == ':' || c == ')'
  let flags := input.takeWhile fun c => !isEnd c
  if !(flags.all ['i', 'm', 's', 'U', 'u', 'R', 'x', '-'].contains) || flags.eraseDups != flags ||
      flags.getLast? = some '-' then none
  else
    let group := progress.group
    let mode := group.mode.withFlags flags
    match input.dropWhile fun c => !isEnd c with
    | ':' :: rest => some (progress.enter mode, rest)
    | ')' :: rest =>
      if flags.isEmpty then none
      else some ({ progress with group := ⟨mode, group.branches, none :: group.parts⟩ }, rest)
    | _ => none

def openGroup (progress : Progress) (input : List Char) : Option (Progress × List Char) :=
  match progress.group.mode.skip input with
  | '?' :: 'P' :: '<' :: rest | '?' :: '<' :: rest => openNamedGroup progress rest
  | '?' :: rest => openFlags progress rest
  | rest => some (progress.enter progress.group.mode, rest)

/--
A part of a branch: its depth and the text after it. A number of repetitions in braces is not
supported.
-/
def readPart (mode : Mode) (c : Char) (rest : List Char) : Option (Nat × List Char) :=
  if c = '[' then (afterCaret mode rest).bind (afterSet mode (rest.length + 1) {} [])
  else if c = '\\' then (escape mode rest).map fun read => (0, read.2)
  else if c = '\x7b' ∨ (c = '.' ∧ !mode.unicode) then none
  else some (0, rest)

def step (progress : Progress) (c : Char) (rest : List Char) : Option (Progress × List Char) :=
  let group := progress.group
  if c = '(' then openGroup progress rest
  else if c = ')' then progress.leave?.map fun progress => (progress, rest)
  else if c = '|' then some ({ progress with group := group.nextBranch }, rest)
  else if c = '*' ∨ c = '+' ∨ c = '?' then
    progress.repeatLast?.map fun progress =>
      (progress, match rest with | '?' :: rest => rest | rest => rest)
  else
    (readPart group.mode c rest).map fun (depth, rest) =>
      ({ progress with group := group.add depth }, rest)

def scan (fuel : Nat) (progress : Progress) (input : List Char) : Bool :=
  match fuel, progress.group.mode.skip input with
  | _, [] => progress.outer.isEmpty && progress.group.depth ≤ maxDepth
  | 0, _ => false
  | fuel + 1, c :: rest =>
    match step progress c rest with
    | some (progress, rest) => scan fuel progress rest
    | none => false

def isPattern (text : List Char) : Bool :=
  scan text.length {} text

end ListQuery.Log.Pattern
