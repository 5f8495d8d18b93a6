import Mathlib.Data.List.Pairwise
import Mathlib.Data.List.Perm.Basic

/-!
# Independent operations

An operation reads and writes a state and gives an answer. Two operations are independent when
neither sees whether the other went before: each gives the same answer, and both orders lead to the
same state. Of a batch of operations that are pairwise independent, each is answered as if it were
the only one, and the batch may be performed in any order.

## Main definitions

* `Foundation.Independent`: independence of two operations.
* `Foundation.performAll`: a batch, performed from the left.

## Main results

* `Foundation.Independent.bind_left`: an operation that continues with another.
* `Foundation.answers_performAll`, `Foundation.state_performAll_perm`: the answers of a batch, and
  the state after it.
-/

namespace Foundation

variable {σ α β γ δ : Type*}

/-- Neither operation sees whether the other went before. -/
structure Independent (f : σ → β × σ) (g : σ → γ × σ) : Prop where
  answer_left : ∀ s, (f (g s).2).1 = (f s).1
  answer_right : ∀ s, (g (f s).2).1 = (g s).1
  state_eq : ∀ s, (g (f s).2).2 = (f (g s).2).2

namespace Independent

variable {f : σ → β × σ} {g : σ → γ × σ}

theorem symm (h : Independent f g) : Independent g f where
  answer_left := h.answer_right
  answer_right := h.answer_left
  state_eq s := (h.state_eq s).symm

/-- An answer that leaves the state alone is independent of everything. -/
theorem const_left (b : β) : Independent (fun s => (b, s)) g :=
  ⟨fun _ => rfl, fun _ => rfl, fun _ => rfl⟩

/-- An operation that goes on with another, which depends on the answer of the first. -/
theorem bind_left {k : β → σ → δ × σ} (h : Independent f g) (hk : ∀ b, Independent (k b) g) :
    Independent (fun s => k (f s).1 (f s).2) g where
  answer_left s := by
    simp only [h.answer_left, ← h.state_eq, (hk _).answer_left]
  answer_right s := by
    simp only [(hk _).answer_right, h.answer_right]
  state_eq s := by
    simp only [(hk _).state_eq, h.state_eq, h.answer_left]

/-- The answer may be turned into another one. -/
theorem map_left (h : Independent f g) (φ : β → δ) :
    Independent (fun s => (φ (f s).1, (f s).2)) g :=
  h.bind_left fun b => const_left (φ b)

end Independent

/-! ### Batches -/

/-- Perform a batch from the left. The answers are listed with the operations that they answer. -/
def performAll (perform : α → σ → β × σ) : List α → σ → List (α × β) × σ
  | [], s => ([], s)
  | a :: as, s =>
    let rest := performAll perform as (perform a s).2
    ((a, (perform a s).1) :: rest.1, rest.2)

variable {perform : α → σ → β × σ} {as as' : List α}

/-- **Each operation of a batch is answered as if it were the only one.** -/
theorem answers_performAll (h : as.Pairwise fun a a' => Independent (perform a) (perform a'))
    (s : σ) : (performAll perform as s).1 = as.map fun a => (a, (perform a s).1) := by
  induction as generalizing s with
  | nil => rfl
  | cons a as ih =>
    obtain ⟨ha, has⟩ := List.pairwise_cons.mp h
    rw [performAll, ih has, List.map_cons]
    refine congrArg _ (List.map_congr_left fun a' ha' => ?_)
    rw [(ha a' ha').answer_right]

theorem state_performAll (perform : α → σ → β × σ) (as : List α) (s : σ) :
    (performAll perform as s).2 = as.foldl (fun s a => (perform a s).2) s := by
  induction as generalizing s with
  | nil => rfl
  | cons a as ih => rw [performAll, ih, List.foldl_cons]

/-- **The order of a batch does not matter.** -/
theorem state_performAll_perm (hperm : as.Perm as')
    (h : as.Pairwise fun a a' => Independent (perform a) (perform a')) (s : σ) :
    (performAll perform as s).2 = (performAll perform as' s).2 := by
  rw [state_performAll, state_performAll]
  have hswap : as.Pairwise fun a a' => ∀ s,
      (perform a' (perform a s).2).2 = (perform a (perform a' s).2).2 := h.imp fun h => h.state_eq
  have hsymm : Std.Symm fun a a' => ∀ s : σ,
      (perform a' (perform a s).2).2 = (perform a (perform a' s).2).2 :=
    ⟨fun _ _ h s => (h s).symm⟩
  exact hperm.foldl_eq' (fun a ha a' ha' => hswap.forall_of_forall (fun _ _ _ => rfl) ha ha') s

end Foundation
