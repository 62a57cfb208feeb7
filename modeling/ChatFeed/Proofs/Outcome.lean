/-!
# Outcomes

What can fail gives an outcome: a result or an error. Changing the result does
not change whether there is one, nor does rewording the error.
-/

namespace ChatFeed

variable {ε ε' α β : Type} {outcome : Except ε α}

@[simp] theorem map_eq_ok_iff {f : α → β} {b : β} :
    outcome.map f = .ok b ↔ ∃ a, outcome = .ok a ∧ f a = b := by
  cases outcome <;> simp [Except.map]

@[simp] theorem map_eq_error_iff {f : α → β} {e : ε} :
    outcome.map f = .error e ↔ outcome = .error e := by
  cases outcome <;> simp [Except.map]

@[simp] theorem mapError_eq_ok_iff {f : ε → ε'} {a : α} :
    outcome.mapError f = .ok a ↔ outcome = .ok a := by
  cases outcome with
  | ok b =>
    change Except.ok b = Except.ok a ↔ _
    simp
  | error cause =>
    change Except.error (f cause) = Except.ok a ↔ Except.error cause = Except.ok a
    simp

/-- A result can be changed before or after an error is reworded. -/
theorem map_mapError {f : α → β} {g : ε → ε'} :
    (outcome.mapError g).map f = (outcome.map f).mapError g := by
  cases outcome <;> rfl

theorem exists_of_isSome_toOption (given : outcome.toOption.isSome) : ∃ a, outcome = .ok a := by
  cases outcome with
  | error e => contradiction
  | ok a => exact ⟨a, rfl⟩

end ChatFeed
