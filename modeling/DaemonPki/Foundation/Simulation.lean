import DaemonPki.Foundation.Transition
import Mathlib.Data.List.Forall2
import Mathlib.Logic.Relation

/-!
# Simulations of transition systems

A system with much inner life is explained by a simpler one when every step of it either cannot be
seen from outside, or is a step of the simpler system with a label that looks the same. What is
seen of a run of the first is then what is seen of a run of the second.

## Main definitions

* `Foundation.LTS.Run.labels`, `Foundation.LTS.Simulates`.

## Main results

* `Foundation.LTS.Simulates.exists_run`: runs are explained by runs.
* `Foundation.LTS.Simulates.comp`: explanations compose.
-/

namespace Foundation

namespace LTS

variable {σ τ υ α β γ : Type*}

/-- The labels of a run in the order of the steps. -/
def Run.labels {T : LTS σ α} {s : σ} : {t : σ} → T.Run s t → List α
  | _, nil => []
  | _, snoc run a _ => run.labels ++ [a]

/-- A label of a run is one of a step. -/
theorem Run.exists_step_of_mem_labels {T : LTS σ α} {s : σ} {a : α} :
    {t : σ} → (run : T.Run s t) → a ∈ run.labels → ∃ u v, T.step u a v
  | _, snoc run b h, ha => by
    rcases List.mem_append.mp ha with ha | ha
    · exact run.exists_step_of_mem_labels ha
    · exact ⟨_, _, List.mem_singleton.mp ha ▸ h⟩

/-- The steps of `C` with a label that is visible are matched by steps of `A`, and the others leave
the relation of the states alone. -/
structure Simulates (C : LTS σ α) (A : LTS τ β) (Related : σ → τ → Prop) (visible : α → Bool)
    (Shows : α → β → Prop) : Prop where
  visible_step : ∀ {s a s' t}, Related s t → C.step s a s' → visible a = true →
    ∃ b t', Shows a b ∧ A.step t b t' ∧ Related s' t'
  silent_step : ∀ {s a s' t}, Related s t → C.step s a s' → visible a = false → Related s' t

/-- **Runs are explained by runs**: with the same visible labels, and related states at the end. -/
theorem Simulates.exists_run {C : LTS σ α} {A : LTS τ β} {Related : σ → τ → Prop}
    {visible : α → Bool} {Shows : α → β → Prop} (h : Simulates C A Related visible Shows) {s : σ}
    {t : τ} (hrelated : Related s t) : {s' : σ} → (run : C.Run s s') →
      ∃ t', ∃ run' : A.Run t t', Related s' t' ∧
        List.Forall₂ Shows (run.labels.filter visible) run'.labels
  | _, .nil => ⟨t, .nil, hrelated, .nil⟩
  | _, .snoc run a hstep => by
    obtain ⟨t', run', hrelated', hshows⟩ := h.exists_run hrelated run
    rw [Run.labels, List.filter_append]
    cases hvisible : visible a with
    | false =>
      refine ⟨t', run', h.silent_step hrelated' hstep hvisible, ?_⟩
      rwa [List.filter_cons_of_neg (by simpa using hvisible), List.filter_nil, List.append_nil]
    | true =>
      obtain ⟨b, t'', hshow, hstep', hrelated''⟩ := h.visible_step hrelated' hstep hvisible
      refine ⟨t'', run'.snoc b hstep', hrelated'', ?_⟩
      rw [List.filter_cons_of_pos hvisible, List.filter_nil]
      exact List.rel_append hshows (.cons hshow .nil)

/-- **Explanations compose**, when it shows in the middle what is visible at the end. -/
theorem Simulates.comp {C : LTS σ α} {B : LTS τ β} {A : LTS υ γ} {Related : σ → τ → Prop}
    {Related' : τ → υ → Prop} {visible visible'' : α → Bool} {visible' : β → Bool}
    {Shows : α → β → Prop} {Shows' : β → γ → Prop} (h : Simulates C B Related visible Shows)
    (h' : Simulates B A Related' visible' Shows')
    (hsilent : ∀ a, visible a = false → visible'' a = false)
    (hshows : ∀ a b, Shows a b → visible'' a = visible' b) :
    Simulates C A (Relation.Comp Related Related') visible'' (Relation.Comp Shows Shows') where
  visible_step := by
    rintro s a s' t ⟨m, hrelated, hrelated'⟩ hstep hvisible
    cases hmiddle : visible a with
    | false => exact absurd (hsilent a hmiddle) (by simp [hvisible])
    | true =>
      obtain ⟨b, m', hshow, hstep', hrelated⟩ := h.visible_step hrelated hstep hmiddle
      obtain ⟨c, t', hshow', hstep'', hrelated'⟩ :=
        h'.visible_step hrelated' hstep' (hshows a b hshow ▸ hvisible)
      exact ⟨c, t', ⟨b, hshow, hshow'⟩, hstep'', m', hrelated, hrelated'⟩
  silent_step := by
    rintro s a s' t ⟨m, hrelated, hrelated'⟩ hstep hvisible
    cases hmiddle : visible a with
    | false => exact ⟨m, h.silent_step hrelated hstep hmiddle, hrelated'⟩
    | true =>
      obtain ⟨b, m', hshow, hstep', hrelated⟩ := h.visible_step hrelated hstep hmiddle
      exact ⟨m', hrelated, h'.silent_step hrelated' hstep' (hshows a b hshow ▸ hvisible)⟩

end LTS

end Foundation
