import Mathlib.Tactic.SplitIfs

/-!
# Sequences of checks

A function that performs one check after the other and returns at the first that fails is a
sequence in `Except`. The rules of this file say when such a sequence succeeds: when every check
does.

## Main definitions

* `Foundation.require`, `Foundation.okOr`: a check of a condition and of an optional value.

## Main results

* `Foundation.bind_eq_ok_iff`, `Foundation.require_eq_ok_iff`, `Foundation.okOr_eq_ok_iff`.
* `Foundation.ite_error_eq_ok_iff`: the same for checks that are nested conditionals.
-/

namespace Foundation

universe u v

variable {ε ε' : Type u} {α β : Type v}

/-- Return the error unless the condition holds. -/
def require (p : Prop) [Decidable p] (error : ε) : Except ε Unit :=
  if p then .ok () else .error error

/-- `Option::ok_or`. -/
def okOr (error : ε) : Option α → Except ε α
  | some value => .ok value
  | none => .error error

/-- A sequence of two steps succeeds when the first does, and the second does on its value. -/
theorem bind_eq_ok_iff {x : Except ε α} {f : α → Except ε β} {b : β} :
    x >>= f = .ok b ↔ ∃ a, x = .ok a ∧ f a = .ok b := by
  cases x with
  | error e => simp [bind, Except.bind]
  | ok a => simp [bind, Except.bind]

theorem require_eq_ok_iff {p : Prop} [Decidable p] {error : ε} {u : Unit} :
    require p error = .ok u ↔ p := by
  rw [require]
  split_ifs with h <;> simp [h]

/-- A check that returns its error, and the rest of the function behind it. -/
theorem ite_error_eq_ok_iff {p : Prop} [Decidable p] {error : ε} {x : Except ε α} {a : α} :
    (if p then .error error else x) = .ok a ↔ ¬p ∧ x = .ok a := by
  split_ifs with h <;> simp [h]

theorem okOr_eq_ok_iff {value : Option α} {error : ε} {a : α} :
    okOr error value = .ok a ↔ value = some a := by
  cases value <;> simp [okOr]

theorem map_okOr {f : α → β} {value : Option α} {error : ε} :
    (okOr error value).map f = okOr error (value.map f) := by
  cases value <;> rfl

theorem mapError_eq_ok_iff {x : Except ε α} {f : ε → ε'} {a : α} :
    x.mapError f = .ok a ↔ x = .ok a := by
  cases x <;> simp [Except.mapError]

theorem toOption_mapError {x : Except ε α} {f : ε → ε'} : (x.mapError f).toOption = x.toOption := by
  cases x <;> rfl

theorem toOption_eq_some_iff {x : Except ε α} {a : α} : x.toOption = some a ↔ x = .ok a := by
  cases x <;> simp [Except.toOption]

end Foundation
