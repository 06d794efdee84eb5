import ListQuery.Http
import ListQuery.Proofs.Json.RoundTrip
import ListQuery.Settings.Basic

/-!
# Printing: values can be written as text

What a value is written as has a fixed number of levels and no number past the machine words, so
that it can be read back from its text (`Printed.printable`).
-/
namespace ListQuery

/-- Values are written as trees of at most so many levels, which can be read from their text. -/
class Printed (α : Type) [Codec α] where
  levels : Nat
  printable (value : α) : Json.Printable levels (encode value)

theorem printable_encode {α : Type} [Codec α] [Printed α] {depth : Nat}
    (le : Printed.levels α ≤ depth) (value : α) : Json.Printable depth (encode value) :=
  (Printed.printable value).mono le

instance : Printed String where
  levels := 0
  printable value := .text 0 value

instance : Printed UInt64 where
  levels := 0
  printable value := by
    have fits := value.toNat_lt_size
    have smallest : Int64.minValue.toInt = -9223372036854775808 := rfl
    exact .int 0 _ (by omega) (by omega)

instance : Printed UInt16 where
  levels := 0
  printable value := by
    have fits := value.toNat_lt_size
    have smallest : Int64.minValue.toInt = -9223372036854775808 := rfl
    have largest : UInt64.size = 18446744073709551616 := rfl
    have largest' : UInt16.size = 65536 := rfl
    exact .int 0 _ (by omega) (by omega)

instance : Printed Int64 where
  levels := 0
  printable value := by
    have high := value.toInt_lt
    exact .int 0 _ value.le_toInt (by simp only [UInt64.size]; omega)

instance : Printed Rule where
  levels := 0
  printable rule := .text 0 rule.name

instance : Printed Direction where
  levels := 0
  printable direction := .text 0 direction.name

instance {α : Type} [Codec α] [Printed α] : Printed (Option α) where
  levels := Printed.levels α
  printable value := by
    cases value with
    | none => exact .null _
    | some value => exact Printed.printable value

instance {α : Type} [Codec α] [Printed α] : Printed (List α) where
  levels := Printed.levels α + 1
  printable values := by
    refine .list _ _ fun item member => ?_
    obtain ⟨value, _, rfl⟩ := List.mem_map.mp member
    exact Printed.printable value

instance {α : Type} [Codec α] [Printed α] : Printed (AllowList α) where
  levels := Printed.levels (List α)
  printable list := Printed.printable list.entries

instance : Printed FilterPolicy where
  levels := 2
  printable policy := .table 1 _ (by simp [printable_encode, Printed.levels])

instance : Printed SortDefault where
  levels := 1
  printable value := .table 0 _ (by simp [printable_encode, Printed.levels])

instance : Printed SortPolicy where
  levels := 2
  printable policy := .table 1 _ (by simp [printable_encode, Printed.levels])

instance : Printed LimitPolicy where
  levels := 1
  printable policy := .table 0 _ (by simp [printable_encode, Printed.levels])

instance : Printed Policy where
  levels := 3
  printable policy := .table 2 _ (by simp [printable_encode, Printed.levels])

instance : Printed Criterion where
  levels := 1
  printable criterion := by
    obtain ⟨property, rule, value⟩ := criterion
    cases value with
    | none => exact .table 0 _ (by simp [printable_encode, Printed.levels])
    | some value => exact .table 0 _ (by simp [printable_encode, Printed.levels])

instance : Printed SortKey where
  levels := 1
  printable key := .table 0 _ (by simp [printable_encode, Printed.levels])

instance : Printed Window where
  levels := 1
  printable window := .table 0 _ (by simp [printable_encode, Printed.levels])

instance : Printed ParameterNames where
  levels := 1
  printable names := .table 0 _ (by simp [printable_encode, Printed.levels])

instance : Printed Directives where
  levels := 3
  printable directives := .table 2 _ (by simp [printable_encode, Printed.levels])

instance : Printed PageSummary where
  levels := 1
  printable summary := .table 0 _ (by simp [printable_encode, Printed.levels])

instance {α : Type} [Codec α] [Printed α] : Printed (Envelope α) where
  levels := Printed.levels α + 2
  printable envelope := .table (Printed.levels α + 1) _ (by simp [printable_encode, Printed.levels])

instance : Printed Http.ErrorBody where
  levels := 1
  printable body := by
    obtain ⟨error, code, status⟩ := body
    cases code with
    | none => exact .table 0 _ (by simp [printable_encode, Printed.levels])
    | some code => exact .table 0 _ (by simp [printable_encode, Printed.levels])

instance : Printed Endpoints where
  levels := Printed.levels Policy + 1
  printable endpoints := by
    refine .table _ _ fun entry member => ?_
    obtain ⟨⟨name, policy⟩, _, rfl⟩ := List.mem_map.mp member
    exact Printed.printable policy

instance : Printed Settings where
  levels := 5
  printable settings := .table 4 _ (by simp [printable_encode, Printed.levels])

end ListQuery
