import ListQuery.Rule
import ListQuery.Text.Regex
import ListQuery.Text.Split

/-!
One filter of a request: a property, a rule and, unless the rule is nullary, a value. Its text on the
wire is `property:rule` or `property:rule:value`.
-/
namespace ListQuery

structure Criterion where
  property : String
  rule : Rule
  value : Option String
  deriving DecidableEq, Repr

namespace Criterion

def text (criterion : Criterion) : String :=
  match criterion.value with
  | some value => criterion.property ++ ":" ++ criterion.rule.token ++ ":" ++ value
  | none => criterion.property ++ ":" ++ criterion.rule.token

def isListSeparator (c : Char) : Bool := c == ',' || c == '|'

/-- The items of a list rule's value, or the whole value of any other rule. -/
def values (criterion : Criterion) : List String :=
  match criterion.value with
  | none => []
  | some value =>
    if criterion.rule.takesList then
      (Text.pieces isListSeparator value.toList).map String.ofList
    else [value]

def isPropertyChar (c : Char) : Bool := c.isAlphanum || c == '_'

def isValueChar (c : Char) : Bool := c.isAlphanum || c == '-' || c == ',' || c == '|'

/-- How a directive whose rule takes a value is spelled. -/
def binaryForm : Text.Regex :=
  .inOrder [.oneOrMore isPropertyChar, .word ":",
    .anyOf ["eq", "neq", "gt", "gte", "lt", "lte", "like", "nlike", "in", "nin"], .word ":",
    .oneOrMore isValueChar]

/-- How a directive whose rule takes no value is spelled. -/
def nullaryForm : Text.Regex :=
  .inOrder [.oneOrMore isPropertyChar, .word ":",
    .anyOf ["isnull", "isnotnull", "istrue", "isfalse"]]

end Criterion

end ListQuery
