import ListQuery.Log.Event
import ListQuery.Log.Pattern.Value
import ListQuery.Text.Alphanumeric
import ListQuery.Text.Decimal
import ListQuery.Text.Octets
import ListQuery.Text.Split

/-!
Which events are written. A filter is a list of rules separated by commas, each a level, a target or
both: `warn,query_directives::sort=trace`. A rule may also ask for spans and fields in brackets.
-/
namespace ListQuery.Log

open Text

/-- A field that a rule asks for, and whether it asks for a value of it. -/
structure FieldQuery where
  name : String
  hasValue : Bool
  deriving DecidableEq, Repr

/-- A name alone asks for any value. A value ends at a second equals sign. -/
def FieldQuery.ofText? (text : String) : Option FieldQuery :=
  match splitFirst '=' text.toList with
  | (name, none) => some ⟨String.ofList name, false⟩
  | (name, some value) =>
    if Pattern.isValue (splitFirst '=' value).1 then some ⟨String.ofList name, true⟩ else none

structure FilterRule where
  target : Option String := none
  span : Option String := none
  fields : List FieldQuery := []
  /-- The highest verbosity let through, zero for none. -/
  verbosity : Nat := 5
  deriving DecidableEq, Repr

def levelNames : List (String × Nat) :=
  [("off", 0), ("error", 1), ("warn", 2), ("info", 3), ("debug", 4), ("trace", 5)]

/-- A level by name, in any case, or by number. -/
def verbosity? (text : List Char) : Option Nat :=
  let digits := match text with | '+' :: rest => rest | _ => text
  if !digits.isEmpty && digits.all Char.isDigit then
    some (Nat.ofDigitChars 10 digits 0) |>.filter (· ≤ 5)
  else levelNames.lookup (String.ofList (text.map Char.toLower))

namespace FilterRule

/-- What the characters from `start` on belong to. Positions are counted in octets. -/
inductive State where
  | start
  | levelOrTarget (start : Nat)
  | span (start : Nat)
  | field (start : Nat)
  | fieldsEnd
  | spanEnd
  | level (start : Nat)
  deriving DecidableEq, Repr

def slice (text : List Char) (start stop : Nat) : String :=
  String.ofList (dropOctets start (takeOctets stop text))

def step (text : List Char) (position : Nat) (c : Char) (rule : FilterRule) :
    State → Option (FilterRule × State)
  | .start =>
    if c = '[' then some (rule, .span (position + 1))
    else if c = '-' ∨ c = ':' ∨ c = '_' ∨ isAlphanumeric c then some (rule, .levelOrTarget position)
    else none
  | .levelOrTarget start =>
    if c = '=' then some ({ rule with target := slice text start position }, .level (position + 1))
    else if c = '[' then
      some ({ rule with target := slice text start position }, .span (position + 1))
    else some (rule, .levelOrTarget start)
  | .span start =>
    let name := slice text start position
    if c = ']' then some ({ rule with span := name }, .spanEnd)
    else if c = '\x7b' then
      some ({ rule with span := if name.isEmpty then none else some name }, .field (position + 1))
    else some (rule, .span start)
  | .field start =>
    if c = '\x7d' then
      let field := slice text start position
      if field.isEmpty then none
      else
        (FieldQuery.ofText? field).map fun field =>
          ({ rule with fields := rule.fields ++ [field] }, .fieldsEnd)
    else some (rule, .field start)
  | .fieldsEnd => if c = ']' then some (rule, .spanEnd) else none
  | .spanEnd => if c = '=' then some (rule, .level (position + 1)) else none
  | .level start => some (rule, .level start)

def finish (text : List Char) (rule : FilterRule) : State → Option FilterRule
  | .levelOrTarget start =>
    let word := dropOctets start text
    match verbosity? word with
    | some verbosity => some { rule with verbosity := verbosity }
    | none => some { rule with target := String.ofList word }
  | .level start =>
    let word := dropOctets start text
    if word.isEmpty then some rule
    else (verbosity? word).map fun verbosity => { rule with verbosity := verbosity }
  | .spanEnd => some rule
  | _ => none

def scan (text : List Char) (position : Nat) (rule : FilterRule) (state : State) :
    List Char → Option FilterRule
  | [] => finish text rule state
  | c :: rest =>
    match step text position c rule state with
    | none => none
    | some (rule, state) => scan text (position + c.utf8Size) rule state rest

/-- Space around a rule is not counted in positions, and yet belongs to the text cut at them. -/
def ofText? (text : List Char) : Option FilterRule :=
  scan text 0 {} .start (trim text)

/-- A rule for spans says nothing about events outside of them, and there are no spans here. -/
def concernsEvents (rule : FilterRule) : Bool :=
  rule.span.isNone && !rule.fields.any FieldQuery.hasValue

/-- A target covers all targets that start with it. -/
def covers (rule : FilterRule) (event : Event) : Bool :=
  (rule.target.all fun target => target.toList.isPrefixOf event.target.toList) &&
    rule.fields.all fun field => event.fields.any fun entry => entry.1 == field.name

/-- Rules with longer targets, then with more fields, come first. -/
def moreSpecific (a b : FilterRule) : Bool :=
  let key (rule : FilterRule) : List Nat :=
    [(rule.target.map fun target => target.utf8ByteSize + 1).getD 0, rule.fields.length]
  let names (rule : FilterRule) : List String :=
    rule.target.getD "" :: rule.fields.map FieldQuery.name
  key b < key a || (key a == key b && names b < names a)

end FilterRule

structure Filter where
  rules : List FilterRule
  deriving DecidableEq, Repr

namespace Filter

/-- The rules of a text, or none if one of them cannot be read. A filter without rules is for errors. -/
def ofText? (text : String) : Option Filter :=
  match (pieces (· == ',') text.toList).mapM FilterRule.ofText? with
  | none => none
  | some [] => some ⟨[{ verbosity := 1 }]⟩
  | some rules => some ⟨rules.filter FilterRule.concernsEvents⟩

/-- A text that cannot be read counts as `info`. -/
def ofText (text : String) : Filter :=
  (ofText? text).getD ⟨[{ verbosity := 3 }]⟩

/-- The rule that decides about an event; of equally specific ones the last. -/
def ruleFor? (filter : Filter) (event : Event) : Option FilterRule :=
  (filter.rules.filter fun rule => rule.covers event).foldl (fun best rule =>
    match best with
    | none => some rule
    | some best => if best.moreSpecific rule then some best else some rule) none

def enables (filter : Filter) (event : Event) : Bool :=
  (filter.ruleFor? event).any fun rule => event.level.verbosity ≤ rule.verbosity

end Filter

/-- What a log started with the text of a filter writes of its own start and of the events after it. -/
def written (filter : String) (events : List Event) : List Event × List Event :=
  let rules := Filter.ofText filter
  ([Event.started filter].filter rules.enables, events.filter rules.enables)

end ListQuery.Log
