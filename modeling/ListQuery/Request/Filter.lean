import ListQuery.Log.Logged
import ListQuery.Policy

/-! Reading the filter directives of a request. -/
namespace ListQuery.Request

open Log

/--
Spelling is judged first, then the property, then the rule. What follows a second colon is the
value, further colons included.
-/
def checkFilter (policy : FilterPolicy) (directive : String) : Except Rejection Criterion :=
  if !Criterion.binaryForm.accepts directive.toList &&
      !Criterion.nullaryForm.accepts directive.toList then
    .error (.filterSyntax directive)
  else
    match Text.splitFirst ':' directive.toList with
    | (_, none) => .error (.filterSyntax directive)
    | (property, some rest) =>
      let (token, value) := Text.splitFirst ':' rest
      if !policy.fields.permits (String.ofList property) then
        .error (.fieldDisallowed (String.ofList property))
      else do
        let rule ← Rule.parse (String.ofList token)
        if !policy.rules.permits rule then .error (.ruleDisallowed (String.ofList token))
        else .ok ⟨String.ofList property, rule, value.map String.ofList⟩

def readFilter (policy : FilterPolicy) (directive : String) : Logged Rejection Criterion :=
  match checkFilter policy directive with
  | .ok criterion => ⟨[.filterAccepted criterion], .ok criterion⟩
  | .error rejection => ⟨[.filterRejected directive rejection.code], .error rejection⟩

/-- Empty directives are skipped; the first bad one refuses the whole list. -/
def readFilters (policy : FilterPolicy) : List String → Logged Rejection (List Criterion)
  | [] => pure []
  | directive :: rest =>
    if directive.isEmpty then readFilters policy rest
    else do
      let criterion ← readFilter policy directive
      let criteria ← readFilters policy rest
      pure (criterion :: criteria)

end ListQuery.Request
