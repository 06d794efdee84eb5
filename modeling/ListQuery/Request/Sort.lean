import ListQuery.Log.Logged
import ListQuery.Policy

/-! Reading the sort directive of a request. -/
namespace ListQuery.Request

open Log

def checkSort (policy : SortPolicy) (directive : String) : Except Rejection SortKey :=
  match SortKey.parts? directive with
  | none => .error (.sortSyntax directive)
  | some (property, direction) =>
    if !policy.fields.permits property then .error (.fieldDisallowed property)
    else SortKey.mk property <$> Direction.parse direction

/-- Without a directive, or with an empty one, the policy's fallback applies unchecked. -/
def readSort (policy : SortPolicy) (raw : Option String) : Logged Rejection (Option SortKey) :=
  match raw.filter fun directive => !directive.isEmpty with
  | none => pure policy.fallbackKey
  | some directive =>
    match checkSort policy directive with
    | .ok key => ⟨[.sortAccepted key], .ok (some key)⟩
    | .error rejection => ⟨[.sortRejected directive rejection.code], .error rejection⟩

end ListQuery.Request
