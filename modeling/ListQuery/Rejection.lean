import ListQuery.Text.Quoted

/-! Why a directive of a request is refused. -/
namespace ListQuery

/-- Each cause carries the text or numbers at fault. -/
inductive Rejection where
  | filterSyntax (directive : String)
  | fieldDisallowed (property : String)
  | ruleUnknown (token : String)
  | ruleDisallowed (token : String)
  | sortSyntax (directive : String)
  | limitBelowMinimum (limit minimum : Int64)
  | limitAboveMaximum (limit maximum : Int64)
  | limitInvalid (raw : String)
  | offsetOverflow (page limit : UInt64)
  deriving DecidableEq, Repr

namespace Rejection

def code : Rejection → String
  | filterSyntax _ => "INVALID_FILTER_SYNTAX"
  | fieldDisallowed _ => "DISALLOWED_FIELD"
  | ruleUnknown _ => "UNKNOWN_RULE"
  | ruleDisallowed _ => "DISALLOWED_RULE"
  | sortSyntax _ => "INVALID_SORT_SYNTAX"
  | limitBelowMinimum _ _ => "LIMIT_BELOW_MINIMUM"
  | limitAboveMaximum _ _ => "LIMIT_ABOVE_MAXIMUM"
  | limitInvalid _ => "INVALID_LIMIT"
  | offsetOverflow _ _ => "OFFSET_OVERFLOW"

def message : Rejection → String
  | filterSyntax directive => "Invalid filter parameter: " ++ directive
  | fieldDisallowed property => "Invalid filter property: " ++ property
  | ruleUnknown token => "Invalid filter rule: " ++ token
  | ruleDisallowed token => "Filter rule `" ++ token ++ "` not allowed"
  | sortSyntax directive => "Invalid sort parameter: " ++ directive
  | limitBelowMinimum limit minimum =>
    "Page limit should not be less than " ++ toString minimum.toInt ++
      " (got " ++ toString limit.toInt ++ ")"
  | limitAboveMaximum limit maximum =>
    "Page limit should not be greater than " ++ toString maximum.toInt ++
      " (got " ++ toString limit.toInt ++ ")"
  | limitInvalid raw => "Invalid page limit: " ++ Text.quoted raw
  | offsetOverflow page limit =>
    "Page " ++ toString page.toNat ++ " with limit " ++ toString limit.toNat ++ " is out of range"

end Rejection

end ListQuery
