/-!
# Results that may be errors

How a computation in two parts comes to a result, and that what comes to no result comes to an
error.
-/

namespace Criteria

variable {ε α β : Type}

theorem bind_eq_ok_iff {found : Except ε α} {f : α → Except ε β} {y : β} :
    (found >>= f) = .ok y ↔ ∃ x, found = .ok x ∧ f x = .ok y := by
  cases found <;> simp [bind, Except.bind]

theorem map_eq_ok_iff {found : Except ε α} {f : α → β} {y : β} :
    found.map f = .ok y ↔ ∃ x, found = .ok x ∧ f x = y := by
  cases found <;> simp [Except.map]

theorem mapError_eq_ok_iff {ε' : Type} {found : Except ε α} {f : ε → ε'} {x : α} :
    found.mapError f = .ok x ↔ found = .ok x := by
  cases found with
  | ok y =>
    have hok : (Except.ok y : Except ε α).mapError f = .ok y := rfl
    rw [hok, Except.ok.injEq, Except.ok.injEq]
  | error e =>
    have herror : (Except.error e : Except ε α).mapError f = .error (f e) := rfl
    simp [herror]

theorem toOption_eq_some_iff {found : Except ε α} {x : α} :
    found.toOption = some x ↔ found = .ok x := by
  cases found <;> simp [Except.toOption]

theorem exists_eq_ok_of_toBool {found : Except ε α} (h : found.toBool = true) :
    ∃ x, found = .ok x := by
  cases found with
  | ok x => exact ⟨x, rfl⟩
  | error e => cases h

theorem eq_error_of_ne_ok {result : Except ε α} (h : ∀ x, result ≠ .ok x) :
    ∃ e, result = .error e := by
  cases result with
  | ok x => exact absurd rfl (h x)
  | error e => exact ⟨e, rfl⟩

theorem exists_error_iff {result : Except ε α} :
    (∃ e, result = .error e) ↔ ¬ ∃ x, result = .ok x := by
  cases result <;> simp

theorem exists_map_error_iff {found : Except ε α} {f : α → β} :
    (∃ e, found.map f = .error e) ↔ ¬ ∃ x, found = .ok x := by
  cases found <;> simp [Except.map]

end Criteria
