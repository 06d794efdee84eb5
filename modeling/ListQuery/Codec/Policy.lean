import ListQuery.Codec.Basic
import ListQuery.Policy

/-! Policies as trees. Every field of a policy has a default. -/
namespace ListQuery

/-- A rule is written by name, and read by name or token. -/
def Rule.ofName? (text : String) : Option Rule :=
  all.find? fun rule => rule.name == text || rule.token == text

instance : Codec Rule where
  encode rule := .text rule.name
  decode _ := decodeName Rule.ofName?

def Direction.ofName? (text : String) : Option Direction :=
  all.find? fun direction => direction.name == text || direction.token == text

instance : Codec Direction where
  encode direction := .text direction.name
  decode _ := decodeName Direction.ofName?

instance {α : Type} [Codec α] : Codec (AllowList α) where
  encode list := encode list.entries
  decode surplus document := AllowList.mk <$> decode surplus document

instance : Codec FilterPolicy where
  encode policy := .table [
    ("allowed_fields", encode policy.fields),
    ("allowed_rules", encode policy.rules)]
  decode surplus document :=
    (Members.ofDocument surplus ["allowed_fields", "allowed_rules"] document).andThen fun members =>
      FilterPolicy.mk <$> members.withDefault "allowed_fields" {}
        <*> members.withDefault "allowed_rules" {}

instance : Codec SortDefault where
  encode value := .table [
    ("direction", encode value.direction),
    ("property", encode value.property)]
  decode surplus document :=
    (Members.ofDocument surplus ["property", "direction"] document).andThen fun members =>
      SortDefault.mk <$> members.withDefault "property" none
        <*> members.withDefault "direction" none

instance : Codec SortPolicy where
  encode policy := .table [
    ("allowed_fields", encode policy.fields),
    ("default", encode policy.fallback)]
  decode surplus document :=
    (Members.ofDocument surplus ["allowed_fields", "default"] document).andThen fun members =>
      SortPolicy.mk <$> members.withDefault "allowed_fields" {}
        <*> members.withDefault "default" none

instance : Codec LimitPolicy where
  encode policy := .table [
    ("default", encode policy.fallback),
    ("max", encode policy.maximum),
    ("min", encode policy.minimum)]
  decode surplus document :=
    (Members.ofDocument surplus ["min", "max", "default"] document).andThen fun members =>
      LimitPolicy.mk <$> members.withDefault "min" none
        <*> members.withDefault "max" none
        <*> members.withDefault "default" none

instance : Codec Policy where
  encode policy := .table [
    ("filters", encode policy.filters),
    ("limit", encode policy.limit),
    ("sort", encode policy.sort)]
  decode surplus document :=
    (Members.ofDocument surplus ["filters", "sort", "limit"] document).andThen fun members =>
      Policy.mk <$> members.withDefault "filters" {}
        <*> members.withDefault "sort" {}
        <*> members.withDefault "limit" {}

end ListQuery
