import ListQuery.Log.Logged
import ListQuery.Policy
import ListQuery.Text.Decimal
import ListQuery.Window

/-! Reading the page and limit of a request. -/
namespace ListQuery.Request

open Log

/-- A page that is no positive number is the first page. -/
def readPage (raw : Option String) : UInt64 :=
  match raw.bind Text.leadingInt? with
  | some page => if 0 < page.toInt then UInt64.ofNat page.toInt.toNat else 1
  | none => 1

/-- The minimum is checked first. -/
def checkLimit (policy : LimitPolicy) (limit : Int64) : Logged Rejection Unit :=
  match policy.minimum.filter (limit < ·) with
  | some minimum =>
    ⟨[.limitBelowMinimum limit minimum], .error (.limitBelowMinimum limit minimum)⟩
  | none =>
    match policy.maximum.filter (· < limit) with
    | some maximum =>
      ⟨[.limitAboveMaximum limit maximum], .error (.limitAboveMaximum limit maximum)⟩
    | none => pure ()

/-- A limit that is no number takes the policy's fallback. -/
def readLimit (policy : LimitPolicy) (raw : Option String) : Logged Rejection UInt64 :=
  match raw.bind Text.leadingInt?, policy.fallback with
  | some limit, _ => do
    checkLimit policy limit
    if limit.toInt < 0 then .fail (.limitInvalid (toString limit.toInt))
    else pure (UInt64.ofNat limit.toInt.toNat)
  | none, some fallback => pure fallback
  | none, none =>
    let text := raw.getD ""
    ⟨[.limitNotNumeric text], .error (.limitInvalid text)⟩

def readWindow (policy : LimitPolicy) (page limit : Option String) : Logged Rejection Window := do
  let limit ← readLimit policy limit
  .ofExcept (Window.ofPage (readPage page) limit)

end ListQuery.Request
