import ListQuery.Codec.Request
import ListQuery.Document.Entries

/-! The settings of a service: how much it logs, the names of its parameters and its endpoints. -/
namespace ListQuery

/-- Policies by endpoint name, in the order of the names. -/
structure Endpoints where
  entries : List (String × Policy)
  ordered : Ordered entries
  deriving DecidableEq, Repr

namespace Endpoints

def empty : Endpoints := ⟨[], List.Pairwise.nil⟩

def find? (endpoints : Endpoints) (name : String) : Option Policy :=
  endpoints.entries.lookup name

def insert (endpoints : Endpoints) (name : String) (policy : Policy) : Endpoints :=
  ⟨setEntry name policy endpoints.entries, endpoints.ordered.setEntry⟩

/-- Of policies under one name the last one counts. -/
def ofList (entries : List (String × Policy)) : Endpoints :=
  entries.foldl (fun endpoints entry => endpoints.insert entry.1 entry.2) empty

end Endpoints

structure Settings where
  logLevel : String := "info"
  parameters : ParameterNames := {}
  endpoints : Endpoints := .empty
  deriving DecidableEq, Repr

def decodeEntries {α : Type} (decodeValue : Document → Decoded α) :
    List (String × Document) → Decoded (List (String × α))
  | [] => .ok []
  | (key, value) :: rest =>
    (fun value rest => (key, value) :: rest) <$> (decodeValue value).within (.key key) <*>
      decodeEntries decodeValue rest

instance : Codec Endpoints where
  encode endpoints := .table (endpoints.entries.map fun entry => (entry.1, encode entry.2))
  decode surplus
    | .table entries => Endpoints.ofList <$> decodeEntries (decode surplus) entries
    | _ => .fault []

instance : Codec Settings where
  encode settings := .table [
    ("endpoints", encode settings.endpoints),
    ("log_level", encode settings.logLevel),
    ("parameters", encode settings.parameters)]
  decode surplus document :=
    (Members.ofDocument surplus ["log_level", "parameters", "endpoints"] document).andThen
      fun members =>
        Settings.mk <$> members.withDefault "log_level" "info"
          <*> members.withDefault "parameters" {}
          <*> members.withDefault "endpoints" Endpoints.empty

end ListQuery
