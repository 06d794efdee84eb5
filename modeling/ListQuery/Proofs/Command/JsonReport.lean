import ListQuery.Command.Report
import ListQuery.Proofs.Codec.Lossless
import ListQuery.Proofs.Codec.Printing
import ListQuery.Proofs.Json.Grammar

/-!
# Reports in JSON: one line that says what was decided

Whatever texts and numbers a request has brought, the report on it is one line of JSON, from which
the directives are read back, or the code and the message of the rejection (`json_report_faithful`).
-/
namespace ListQuery.Command

theorem accepted_json_line (color : Bool) (directives : Directives) :
    Json.Line (accepted .json color directives)
      (.table [("accepted", .bool true), ("directives", encode directives)]) := by
  refine Json.line_compact (.table 126 _ fun entry member => ?_)
  simp only [List.mem_cons, List.not_mem_nil, or_false] at member
  rcases member with rfl | rfl
  · exact .bool 126 true
  · exact printable_encode (by decide) directives

theorem rejected_json_line (color : Bool) (rejection : Rejection) :
    Json.Line (rejected .json color rejection)
      (.table [("accepted", .bool false), ("code", .text rejection.code),
        ("error", .text rejection.message)]) := by
  refine Json.line_compact (.table 126 _ fun entry member => ?_)
  simp only [List.mem_cons, List.not_mem_nil, or_false] at member
  rcases member with rfl | rfl | rfl
  · exact .bool 126 false
  · exact .text 126 rejection.code
  · exact .text 126 rejection.message

/--
A report in JSON is a single line. That on accepted directives has the keys `accepted` and
`directives` and no others, and the directives are read back from it as they were; that on a
rejection has the keys `accepted`, `code` and `error`, with the code and the message as they are.
-/
theorem json_report_faithful (color : Bool) :
    (∀ directives : Directives, ∃ document,
      Json.Line (accepted .json color directives)
        (.table [("accepted", .bool true), ("directives", document)]) ∧
      ∀ surplus, decode surplus document = .ok directives) ∧
    ∀ rejection : Rejection,
      Json.Line (rejected .json color rejection)
        (.table [("accepted", .bool false), ("code", .text rejection.code),
          ("error", .text rejection.message)]) := by
  constructor
  · intro directives
    exact ⟨encode directives, accepted_json_line color directives,
      fun surplus => decode_encode surplus directives⟩
  · exact rejected_json_line color

end ListQuery.Command
