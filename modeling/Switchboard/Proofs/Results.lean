/-!
# Results of steps that may fail

A computation whose steps may fail gives a result only if all of its steps do, and fails with the first
step that fails. Proofs about what comes of a computation take it apart with these lemmas, one step
after another. Where it does not matter why a step fails, what comes of it is an option.
-/

namespace Switchboard

variable {ε ε' α β : Type} {x : Except ε α} {a : α} {b : β}

/-- A result of two computations comes from a result of the first one. -/
theorem exists_of_bind_eq_ok {f : α → Except ε β} (h : (x >>= f) = .ok b) :
    ∃ a, x = .ok a ∧ f a = .ok b := by
  cases x with
  | error fault => exact absurd h (by simp [bind, Except.bind])
  | ok a => exact ⟨a, rfl, h⟩

/-- A fault of two computations is a fault of one of them. -/
theorem eq_error_of_bind_eq_error {f : α → Except ε β} {fault : ε}
    (h : (x >>= f) = .error fault) : x = .error fault ∨ ∃ a, x = .ok a ∧ f a = .error fault := by
  cases x with
  | error fault' => exact .inl (congrArg Except.error (Except.error.inj h))
  | ok a => exact .inr ⟨a, rfl, h⟩

/-- A result that was mapped comes from a result. -/
theorem exists_of_map_eq_ok {f : α → β} (h : x.map f = .ok b) : ∃ a, x = .ok a ∧ f a = b := by
  cases x with
  | error fault => exact absurd h (by simp [Except.map])
  | ok a => exact ⟨a, rfl, Except.ok.inj h⟩

/-- Changing faults changes no result. -/
theorem eq_ok_of_mapError_eq_ok {f : ε → ε'} (h : x.mapError f = .ok a) : x = .ok a := by
  cases x with
  | error fault => exact absurd (show Except.error (f fault) = .ok a from h) (by simp)
  | ok a' => rw [Except.ok.inj h]

/-! ### Without the reasons -/

/-- Without its faults, a computation has the same results. -/
theorem toOption_eq_some_iff : x.toOption = some a ↔ x = .ok a := by
  cases x <;> simp [Except.toOption]

/-- Faults may be dropped before two computations are put together or behind. -/
theorem toOption_bind (f : α → Except ε β) :
    (x >>= f).toOption = x.toOption.bind fun a => (f a).toOption := by cases x <;> rfl

/-- Faults may be dropped before a result is mapped or behind. -/
theorem toOption_map (f : α → β) : (x.map f).toOption = x.toOption.map f := by cases x <;> rfl

end Switchboard
