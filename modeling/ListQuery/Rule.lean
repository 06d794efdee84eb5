import ListQuery.Rejection

/-! The comparison rules of filters, each with a token on the wire and a name in documents. -/
namespace ListQuery

inductive Rule where
  | equals | notEquals
  | greaterThan | greaterThanOrEquals | lessThan | lessThanOrEquals
  | like | notLike
  | isIn | notIn
  | isNull | isNotNull | isTrue | isFalse
  deriving DecidableEq, Repr

namespace Rule

def all : List Rule :=
  [equals, notEquals, greaterThan, greaterThanOrEquals, lessThan, lessThanOrEquals, like, notLike,
    isIn, notIn, isNull, isNotNull, isTrue, isFalse]

def token : Rule → String
  | equals => "eq"
  | notEquals => "neq"
  | greaterThan => "gt"
  | greaterThanOrEquals => "gte"
  | lessThan => "lt"
  | lessThanOrEquals => "lte"
  | like => "like"
  | notLike => "nlike"
  | isIn => "in"
  | notIn => "nin"
  | isNull => "isnull"
  | isNotNull => "isnotnull"
  | isTrue => "istrue"
  | isFalse => "isfalse"

def name : Rule → String
  | equals => "equals"
  | notEquals => "not_equals"
  | greaterThan => "greater_than"
  | greaterThanOrEquals => "greater_than_or_equals"
  | lessThan => "less_than"
  | lessThanOrEquals => "less_than_or_equals"
  | like => "like"
  | notLike => "not_like"
  | isIn => "in"
  | notIn => "not_in"
  | isNull => "is_null"
  | isNotNull => "is_not_null"
  | isTrue => "is_true"
  | isFalse => "is_false"

/-- A nullary rule takes no value. -/
def isNullary : Rule → Bool
  | isNull | isNotNull | isTrue | isFalse => true
  | _ => false

/-- The value of such a rule is a list of items. -/
def takesList : Rule → Bool
  | isIn | notIn => true
  | _ => false

def ofToken? (token : String) : Option Rule :=
  all.find? fun rule => rule.token == token

def parse (token : String) : Except Rejection Rule :=
  match ofToken? token with
  | some rule => .ok rule
  | none => .error (.ruleUnknown token)

@[simp] theorem ofToken?_token (rule : Rule) : ofToken? rule.token = some rule := by
  cases rule <;> decide

end Rule

end ListQuery
