import ListQuery.Log.Event

/-! A computation that may fail and reports events on its way, before a failure as well. -/
namespace ListQuery.Log

structure Logged (ε α : Type) where
  events : List Event
  result : Except ε α

namespace Logged

variable {ε ε' α β : Type}

def succeed (value : α) : Logged ε α := ⟨[], .ok value⟩

def fail (error : ε) : Logged ε α := ⟨[], .error error⟩

def emit (event : Event) : Logged ε Unit := ⟨[event], .ok ()⟩

def ofExcept (result : Except ε α) : Logged ε α := ⟨[], result⟩

/-- A failure ends the computation; what was reported stays. -/
def andThen (first : Logged ε α) (next : α → Logged ε β) : Logged ε β :=
  match first.result with
  | .error error => ⟨first.events, .error error⟩
  | .ok value => ⟨first.events ++ (next value).events, (next value).result⟩

instance : Monad (Logged ε) where
  pure := succeed
  bind := andThen

def mapError (f : ε → ε') (computation : Logged ε α) : Logged ε' α :=
  ⟨computation.events, computation.result.mapError f⟩

@[simp] theorem pure_eq (value : α) : (pure value : Logged ε α) = ⟨[], .ok value⟩ := rfl

@[simp] theorem bind_ok (events : List Event) (value : α) (next : α → Logged ε β) :
    (⟨events, .ok value⟩ : Logged ε α) >>= next =
      ⟨events ++ (next value).events, (next value).result⟩ := rfl

@[simp] theorem bind_error (events : List Event) (error : ε) (next : α → Logged ε β) :
    (⟨events, .error error⟩ : Logged ε α) >>= next = ⟨events, .error error⟩ := rfl

theorem bind_succeed (computation : Logged ε α) : computation >>= pure = computation := by
  obtain ⟨events, result⟩ := computation
  cases result with
  | error error => rfl
  | ok value => simp

theorem bind_bind {γ : Type} (first : Logged ε α) (next : α → Logged ε β)
    (last : β → Logged ε γ) :
    first >>= next >>= last = first >>= fun value => next value >>= last := by
  obtain ⟨events, result⟩ := first
  cases result with
  | error error => rfl
  | ok value =>
    simp only [bind_ok]
    generalize next value = second
    obtain ⟨later, result⟩ := second
    cases result with
    | error error => rfl
    | ok value => simp

instance : LawfulMonad (Logged ε) :=
  .mk' (Logged ε) bind_succeed (fun _ _ => rfl) bind_bind

theorem result_bind (first : Logged ε α) (next : α → Logged ε β) :
    (first >>= next).result = first.result >>= fun value => (next value).result := by
  obtain ⟨events, result⟩ := first
  cases result with
  | error error => rfl
  | ok value => rfl

theorem result_bind_ok {first : Logged ε α} {next : α → Logged ε β} {value : β} :
    (first >>= next).result = .ok value ↔
      ∃ middle, first.result = .ok middle ∧ (next middle).result = .ok value := by
  obtain ⟨events, result⟩ := first
  cases result <;> simp

theorem result_bind_error {first : Logged ε α} {next : α → Logged ε β} {error : ε} :
    (first >>= next).result = .error error ↔
      first.result = .error error ∨
        ∃ middle, first.result = .ok middle ∧ (next middle).result = .error error := by
  obtain ⟨events, result⟩ := first
  cases result <;> simp

end Logged

end ListQuery.Log
