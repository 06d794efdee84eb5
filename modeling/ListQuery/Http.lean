import ListQuery.Codec.Request
import ListQuery.Failure
import ListQuery.Log.Logged
import ListQuery.Query.Form

/-! Answers over HTTP. -/
namespace ListQuery.Http

open Log

/-- The body of an answer that reports an error. -/
structure ErrorBody where
  error : String
  code : Option String
  status : UInt16
  deriving DecidableEq, Repr

/-- An error without a code leaves the code out. -/
instance : Codec ErrorBody where
  encode body := .table (
    body.code.toList.map (fun code => ("code", encode code)) ++
      [("error", encode body.error), ("status", encode body.status)])
  decode surplus document :=
    (Members.ofDocument surplus ["error", "code", "status"] document).andThen fun members =>
      ErrorBody.mk <$> members.required "error"
        <*> members.withDefault "code" none
        <*> members.required "status"

structure Response where
  status : UInt16
  contentType : String
  body : Document

namespace Response

def json (status : UInt16) (body : Document) : Response :=
  ⟨status, "application/json", body⟩

def ofError (body : ErrorBody) : Response := json body.status (encode body)

def ofRejection (rejection : Rejection) : Response :=
  ofError ⟨rejection.message, some rejection.code, 400⟩

/-- What is wrong with the service itself is not told. -/
def ofFailure : Failure → Response
  | .rejected rejection => ofRejection rejection
  | .malformedQuery description => ofError ⟨description, some "MALFORMED_QUERY", 400⟩
  | .notFound subject => ofError ⟨subject, some "NOT_FOUND", 404⟩
  | .settings _ _ => ofError ⟨"Configuration error", some "CONFIG_ERROR", 500⟩
  | .inputOutput _ => ofError ⟨"I/O operation failed", some "IO_ERROR", 500⟩
  | .internal _ => ofError ⟨"Internal server error", none, 500⟩

def ofEnvelope {α : Type} [Codec α] (envelope : Envelope α) : Response :=
  json 200 (encode envelope)

end Response

/-- Answers a request for a list with one page of results. -/
def list {α : Type} [Codec α] (policy : Policy) (names : ParameterNames) (results : List α)
    (total : UInt64) (uri : String) : List Event × Response :=
  let directives := Directives.ofSource (Query.Source.ofPairs (Query.Pairs.ofUri uri)) policy names
  (directives.events,
    match directives.result with
    | .ok directives => .ofEnvelope (.ofWindow results total directives.window)
    | .error rejection => .ofRejection rejection)

end ListQuery.Http
