import Mathlib.Data.Set.Basic

/-!
# Labelled transition systems and their runs

A labelled transition system says which labels lead from a state to which states. A *run* is a
finite sequence of steps; it is data, so that a statement can speak of every step and of every
state of one run. The rules of this file turn a fact about one step into a fact about every run:
an invariant, a reflexive and transitive relation between earlier and later states, and a property
that the steps keep exactly under a condition.

## Main definitions

* `Foundation.LTS`, `Foundation.LTS.ofFun`, `Foundation.LTS.restrict`.
* `Foundation.LTS.Run`, `Foundation.LTS.Run.AllStates`, `Foundation.LTS.Run.AllSteps`,
  `Foundation.LTS.Run.SomeStep`, `Foundation.LTS.Run.count`.

## Main results

* `Foundation.LTS.Run.invariant`, `Foundation.LTS.Run.allStates`,
  `Foundation.LTS.Run.allStates_while`, `Foundation.LTS.Run.allStates_of_allSteps`,
  `Foundation.LTS.Run.allStates_of_last`.
* `Foundation.LTS.Run.rel`: a preorder respected by every step relates both ends of a run.
* `Foundation.LTS.Run.allStates_iff_allSteps`: a property of states that a step keeps exactly
  when it meets a condition holds along a run exactly when all its steps meet the condition.
* `Foundation.LTS.Run.someStep_of_lost`, `Foundation.LTS.Run.count_eq`,
  `Foundation.LTS.Run.count_balance`: the step that takes a property away, and measures that count
  steps.
-/

namespace Foundation

/-- A labelled transition system: `step s a t` when the label `a` leads from `s` to `t`. -/
structure LTS (σ α : Type*) where
  step : σ → α → σ → Prop

namespace LTS

variable {σ α : Type*}

/-- The deterministic system of a function: every label leads to one state. -/
def ofFun (f : σ → α → σ) : LTS σ α where
  step s a t := t = f s a

/-- The steps of a system that meet a condition on the state before and on the label. -/
def restrict (T : LTS σ α) (P : σ → α → Prop) : LTS σ α where
  step s a t := P s a ∧ T.step s a t

/-- The runs of a system from one state to another, the last step outermost. -/
inductive Run (T : LTS σ α) (s : σ) : σ → Type _
  | nil : Run T s s
  | snoc {t u : σ} (run : Run T s t) (a : α) (h : T.step t a u) : Run T s u

namespace Run

variable {T : LTS σ α} {s t u : σ}

/-- A property of every state of a run, its ends included. -/
def AllStates (P : σ → Prop) {t : σ} : T.Run s t → Prop
  | nil => P s
  | snoc (u := u) run _ _ => run.AllStates P ∧ P u

/-- A property of every step of a run: of the state before it and its label. -/
def AllSteps (P : σ → α → Prop) {t : σ} : T.Run s t → Prop
  | nil => True
  | snoc (t := t) run a _ => run.AllSteps P ∧ P t a

theorem AllStates.last {P : σ → Prop} : {t : σ} → {run : T.Run s t} → run.AllStates P → P t
  | _, nil, h => h
  | _, snoc _ _ _, h => h.2

theorem AllStates.mono {P Q : σ → Prop} (hPQ : ∀ u, P u → Q u) :
    {t : σ} → {run : T.Run s t} → run.AllStates P → run.AllStates Q
  | _, nil, h => hPQ _ h
  | _, snoc _ _ _, h => ⟨h.1.mono hPQ, hPQ _ h.2⟩

theorem AllSteps.mono {P Q : σ → α → Prop} (hPQ : ∀ u a, P u a → Q u a) :
    {t : σ} → {run : T.Run s t} → run.AllSteps P → run.AllSteps Q
  | _, nil, _ => trivial
  | _, snoc _ _ _, h => ⟨h.1.mono hPQ, hPQ _ _ h.2⟩

theorem allSteps_and {P Q : σ → α → Prop} : {t : σ} → (run : T.Run s t) →
    (run.AllSteps (fun u a => P u a ∧ Q u a) ↔ run.AllSteps P ∧ run.AllSteps Q)
  | _, nil => ⟨fun _ => ⟨trivial, trivial⟩, fun _ => trivial⟩
  | _, snoc run a h => by
      rw [AllSteps, allSteps_and run]
      exact and_and_and_comm

/-! ### Invariants -/

/-- What the first state of a run satisfies and every step keeps, its last state satisfies. -/
theorem invariant {I : σ → Prop} (hstep : ∀ u a v, I u → T.step u a v → I v) (hs : I s) :
    {t : σ} → T.Run s t → I t
  | _, nil => hs
  | _, snoc run a h => hstep _ a _ (invariant hstep hs run) h

/-- What the first state of a run satisfies and every step keeps, all its states satisfy. -/
theorem allStates {I : σ → Prop} (hstep : ∀ u a v, I u → T.step u a v → I v) (hs : I s) :
    {t : σ} → (run : T.Run s t) → run.AllStates I
  | _, nil => hs
  | _, snoc run a h =>
      have ih := allStates hstep hs run
      ⟨ih, hstep _ a _ ih.last h⟩

/-- What the first state of a run satisfies and every step into a state with a property keeps,
all states of a run satisfy while they have the property. -/
theorem allStates_while {I Q : σ → Prop} (hstep : ∀ u a v, I u → T.step u a v → Q v → I v)
    (hs : I s) : {t : σ} → (run : T.Run s t) → run.AllStates Q → run.AllStates I
  | _, nil, _ => hs
  | _, snoc run a h, hQ =>
      have ih := allStates_while hstep hs run hQ.1
      ⟨ih, hstep _ a _ ih.last h hQ.2⟩

/-- What the first state of a run satisfies and every step that meets a condition keeps, all
states of a run satisfy whose steps meet the condition. -/
theorem allStates_of_allSteps {I : σ → Prop} {P : σ → α → Prop}
    (hstep : ∀ u a v, I u → P u a → T.step u a v → I v) (hs : I s) :
    {t : σ} → (run : T.Run s t) → run.AllSteps P → run.AllStates I
  | _, nil, _ => hs
  | _, snoc run a h, hP =>
      have ih := allStates_of_allSteps hstep hs run hP.1
      ⟨ih, hstep _ a _ ih.last hP.2 h⟩

/-- What the last state of a run satisfies and no step brings about, all its states satisfy. -/
theorem allStates_of_last {I : σ → Prop} (hstep : ∀ u a v, T.step u a v → I v → I u) :
    {t : σ} → (run : T.Run s t) → I t → run.AllStates I
  | _, nil, ht => ht
  | _, snoc run a h, ht => ⟨allStates_of_last hstep run (hstep _ a _ h ht), ht⟩

/-- Steps from states with a property that meet one condition meet another. -/
theorem AllSteps.of_allStates {I : σ → Prop} {P Q : σ → α → Prop}
    (hPQ : ∀ u a v, I u → P u a → T.step u a v → Q u a) :
    {t : σ} → {run : T.Run s t} → run.AllSteps P → run.AllStates I → run.AllSteps Q
  | _, nil, _, _ => trivial
  | _, snoc _ _ h, hP, hI =>
      ⟨AllSteps.of_allStates hPQ hP.1 hI.1, hPQ _ _ _ hI.1.last hP.2 h⟩

/-- A reflexive and transitive relation that every step respects relates the first state of a
run to its last, when it does so from states that satisfy an invariant. -/
theorem rel {I : σ → Prop} {R : σ → σ → Prop} (hrefl : ∀ u, R u u)
    (htrans : ∀ u v w, R u v → R v w → R u w) (hI : ∀ u a v, I u → T.step u a v → I v)
    (hR : ∀ u a v, I u → T.step u a v → R u v) (hs : I s) : {t : σ} → T.Run s t → R s t
  | _, nil => hrefl s
  | _, snoc run a h =>
      htrans _ _ _ (rel hrefl htrans hI hR hs run) (hR _ a _ (invariant hI hs run) h)

/-- A reflexive and transitive relation that every step into a state with a property respects
relates the first state of a run to its last, when all its states have the property. -/
theorem rel_while {Q : σ → Prop} {R : σ → σ → Prop} (hrefl : ∀ u, R u u)
    (htrans : ∀ u v w, R u v → R v w → R u w)
    (hR : ∀ u a v, Q v → T.step u a v → R u v) : {t : σ} → (run : T.Run s t) →
    run.AllStates Q → R s t
  | _, nil, _ => hrefl s
  | _, snoc run a h, hQ =>
      htrans _ _ _ (rel_while hrefl htrans hR run hQ.1) (hR _ a _ hQ.2 h)

/-- If, from the states that satisfy an invariant and a property, a step keeps the property
exactly when it meets a condition, then a run keeps the property throughout exactly when all its
steps meet the condition. -/
theorem allStates_iff_allSteps {I G : σ → Prop} {P : σ → α → Prop}
    (hI : ∀ u a v, I u → T.step u a v → I v)
    (hG : ∀ u a v, I u → G u → T.step u a v → (G v ↔ P u a)) (hs : I s) (hGs : G s) :
    {t : σ} → (run : T.Run s t) → (run.AllStates G ↔ run.AllSteps P)
  | _, nil => iff_of_true hGs trivial
  | _, snoc run a h => by
      have ih := allStates_iff_allSteps hI hG hs hGs run
      refine ⟨fun hall => ⟨ih.mp hall.1, ?_⟩, fun hall => ⟨ih.mpr hall.1, ?_⟩⟩
      · exact (hG _ a _ (invariant hI hs run) hall.1.last h).mp hall.2
      · exact (hG _ a _ (invariant hI hs run) (ih.mpr hall.1).last h).mpr hall.2

/-! ### Single steps of a run -/

/-- Some step of a run has a property: of the state before it and its label. -/
def SomeStep (P : σ → α → Prop) {t : σ} : T.Run s t → Prop
  | nil => False
  | snoc (t := t) run a _ => run.SomeStep P ∨ P t a

/-- A step that has one property has another when it leads to a state with a third. -/
theorem SomeStep.of_allStates {I : σ → Prop} {P Q : σ → α → Prop}
    (hPQ : ∀ u a v, P u a → T.step u a v → I v → Q u a) :
    {t : σ} → {run : T.Run s t} → run.SomeStep P → run.AllStates I → run.SomeStep Q
  | _, snoc _ a hstep, h, hI =>
      h.imp (fun h => SomeStep.of_allStates hPQ h hI.1) fun h => hPQ _ a _ h hstep hI.2

/-- What the first state of a run has and its last has not, some step takes away. -/
theorem someStep_of_lost {I : σ → Prop} {P : σ → α → Prop}
    (hstep : ∀ u a v, I u → ¬ I v → T.step u a v → P u a) (hs : I s) :
    {t : σ} → (run : T.Run s t) → ¬ I t → run.SomeStep P
  | _, nil, ht => absurd hs ht
  | _, snoc (t := u) run a h, ht => by
      by_cases hu : I u
      · exact Or.inr (hstep u a _ hu ht h)
      · exact Or.inl (someStep_of_lost hstep hs run hu)

open Classical in
/-- The number of the steps of a run that have a property. -/
noncomputable def count (P : σ → α → Prop) {t : σ} : T.Run s t → ℕ
  | nil => 0
  | snoc (t := t) run a _ => run.count P + if P t a then 1 else 0

open Classical in
/-- A measure that grows by one in exactly the steps with a property counts them. -/
theorem count_eq {m : σ → ℕ} {P Q : σ → α → Prop}
    (hstep : ∀ u a v, Q u a → T.step u a v → m v = m u + if P u a then 1 else 0) :
    {t : σ} → (run : T.Run s t) → run.AllSteps Q → m t = m s + run.count P
  | _, nil, _ => rfl
  | _, snoc run a h, hQ => by
      rw [hstep _ a _ hQ.2 h, count_eq hstep run hQ.1, count, Nat.add_assoc]

/-- A measure that grows by one in the steps with one property, and shrinks by one in those with
another, counts the first against the second. -/
theorem count_balance {I : σ → Prop} {m : σ → ℕ} {P Q : σ → α → Prop}
    [∀ u a, Decidable (P u a)] [∀ u a, Decidable (Q u a)]
    (hI : ∀ u a v, I u → T.step u a v → I v)
    (hstep : ∀ u a v, I u → T.step u a v →
      (m v + if Q u a then 1 else 0) = m u + if P u a then 1 else 0) (hs : I s) :
    {t : σ} → (run : T.Run s t) → m t + run.count Q = m s + run.count P
  | _, nil => rfl
  | _, snoc (t := u) run a h => by
      have ih := count_balance hI hstep hs run
      have hlast := hstep _ a _ (invariant hI hs run) h
      rw [count, count]
      by_cases hP : P u a <;> by_cases hQ : Q u a <;>
        simp only [hP, hQ, if_true, if_false] at hlast ⊢ <;> omega

/-! ### Restriction -/

/-- A run of a restricted system, read as a run of the system. -/
def ofRestrict {P : σ → α → Prop} : {t : σ} → (T.restrict P).Run s t → T.Run s t
  | _, nil => nil
  | _, snoc run a h => snoc run.ofRestrict a h.2

theorem allSteps_ofRestrict {P : σ → α → Prop} :
    {t : σ} → (run : (T.restrict P).Run s t) → run.ofRestrict.AllSteps P
  | _, nil => trivial
  | _, snoc run _ h => ⟨allSteps_ofRestrict run, h.1⟩

end Run

end LTS

end Foundation
