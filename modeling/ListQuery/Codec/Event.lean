import ListQuery.Codec.Basic
import ListQuery.Log.Event

/-! Events as trees, the way a log writes them. -/
namespace ListQuery.Log

def FieldValue.document : FieldValue → Document
  | text value => .text value
  | number value => .int value.toInt

def Event.document (event : Event) : Document :=
  .table [
    ("fields", .table (event.fields.map fun field => (field.1, field.2.document))),
    ("level", .text event.level.name),
    ("target", .text event.target)]

end ListQuery.Log
