/-!
# Steps that may end in an error

What is known of the parts when a computation that may end in an error is mapped or continued. Every
proof that takes such a computation apart goes through these lemmas.
-/

set_option autoImplicit false

namespace CiClient

variable {ε α β γ : Type}

/-- A mapped result is a result that was there before, mapped. -/
theorem map_eq_ok_iff {x : Except ε α} {f : α → β} {b : β} :
    x.map f = .ok b ↔ ∃ a, x = .ok a ∧ f a = b := by
  cases x <;> simp [Except.map]

/-- Mapping a result leaves an error as it is. -/
theorem map_eq_error_iff {x : Except ε α} {f : α → β} {e : ε} :
    x.map f = .error e ↔ x = .error e := by
  cases x <;> simp [Except.map]

/-- A continued computation has a result exactly when both parts have. -/
theorem bind_eq_ok_iff {x : Except ε α} {f : α → Except ε β} {b : β} :
    x.bind f = .ok b ↔ ∃ a, x = .ok a ∧ f a = .ok b := by
  cases x <;> simp [Except.bind]

/-- The same of a continuation in `do` notation. -/
theorem do_bind_eq_ok_iff {x : Except ε α} {f : α → Except ε β} {b : β} :
    (x >>= f) = .ok b ↔ ∃ a, x = .ok a ∧ f a = .ok b :=
  bind_eq_ok_iff

/-- Two steps of which neither needs the other may change places, unless both end in an error. -/
theorem bind_map_comm {x : Except ε α} {y : Except ε β} (f : α → β → γ)
    (h : (∃ a, x = .ok a) ∨ ∃ b, y = .ok b) :
    (x.bind fun a => y.map (f a)) = y.bind fun b => x.map (f · b) := by
  rcases h with ⟨a, rfl⟩ | ⟨b, rfl⟩
  · cases y <;> rfl
  · cases x <;> rfl

end CiClient
