import MemeEvents.Decode.Error

/-! How a chain of steps that may fail ends. -/

namespace MemeEvents

namespace Except

variable {ε α β : Type}

theorem bind_eq_ok {first : Except ε α} {rest : α → Except ε β} {result : β}
    (returned : first >>= rest = .ok result) :
    ∃ value, first = .ok value ∧ rest value = .ok result := by
  cases first with
  | error fault => cases returned
  | ok value => exact ⟨value, rfl, returned⟩

theorem bind_eq_error {first : Except ε α} {rest : α → Except ε β} {fault : ε}
    (failed : first >>= rest = .error fault) :
    first = .error fault ∨ ∃ value, first = .ok value ∧ rest value = .error fault := by
  cases first with
  | error cause =>
    cases failed
    exact .inl rfl
  | ok value => exact .inr ⟨value, rfl, failed⟩

@[simp] theorem error_bind (fault : ε) (rest : α → Except ε β) :
    (Except.error fault >>= rest) = .error fault := rfl

@[simp] theorem ok_bind (value : α) (rest : α → Except ε β) :
    (Except.ok value >>= rest) = rest value := rfl

theorem bind_pure_eq_error_iff {first : Except ε α} {transform : α → β} {fault : ε} :
    (first >>= fun value => pure (transform value)) = .error fault ↔ first = .error fault := by
  cases first with
  | error cause =>
    simp only [error_bind, Except.error.injEq]
  | ok value => exact ⟨nofun, nofun⟩

theorem map_eq_error_iff {first : Except ε α} {transform : α → β} {fault : ε} :
    transform <$> first = .error fault ↔ first = .error fault := by
  cases first with
  | error cause => simp only [Functor.map, Except.map, Except.error.injEq]
  | ok value => exact ⟨nofun, nofun⟩

theorem eq_ok_of_toOption {result : Except ε α} {value : α} (returned : result.toOption = some value) :
    result = .ok value := by
  cases result with
  | error fault => cases returned
  | ok found => cases returned; rfl

end Except

end MemeEvents
