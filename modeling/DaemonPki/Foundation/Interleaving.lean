import DaemonPki.Foundation.Transition
import Mathlib.Logic.Function.Basic

/-!
# Interleavings of threads over a shared state

Threads indexed by `ι` have a local state each and share one state. The steps of one thread are
given by a relation between the shared state and its own local state before and after; a step of
the whole is a step of one thread, the other local states unchanged, and any thread may move
next. No bound is put on the number of threads.

An invariant of the whole is proved from two facts about one step: the moving thread keeps the
shared invariant and its own assertion, and it does not interfere with the assertion of another
thread (`Foundation.interleave_holds`).

## Main definitions

* `Foundation.Threads`, `Foundation.interleave`, `Foundation.Threads.Holds`.

## Main results

* `Foundation.interleave_holds`: the invariant rule by absence of interference.
-/

namespace Foundation

/-- The state of a system of threads: the shared state and one local state for each thread. -/
structure Threads (ι σ ℓ : Type*) where
  shared : σ
  locals : ι → ℓ

variable {ι σ ℓ α : Type*}

namespace Threads

/-- The shared state satisfies `G`, and every thread its assertion `L`. -/
def Holds (G : σ → Prop) (L : ι → σ → ℓ → Prop) (c : Threads ι σ ℓ) : Prop :=
  G c.shared ∧ ∀ i, L i c.shared (c.locals i)

variable [DecidableEq ι]

/-- The system after one thread moved. -/
def move (c : Threads ι σ ℓ) (i : ι) (s : σ) (l : ℓ) : Threads ι σ ℓ where
  shared := s
  locals := Function.update c.locals i l

@[simp] theorem move_shared (c : Threads ι σ ℓ) (i : ι) (s : σ) (l : ℓ) :
    (c.move i s l).shared = s := rfl

@[simp] theorem move_locals_self (c : Threads ι σ ℓ) (i : ι) (s : σ) (l : ℓ) :
    (c.move i s l).locals i = l := Function.update_self ..

theorem move_locals_of_ne {c : Threads ι σ ℓ} {i j : ι} {s : σ} {l : ℓ} (h : j ≠ i) :
    (c.move i s l).locals j = c.locals j := Function.update_of_ne h ..

@[simp] theorem move_move (c : Threads ι σ ℓ) (i : ι) (s s' : σ) (l l' : ℓ) :
    (c.move i s l).move i s' l' = c.move i s' l' := by
  simp only [move, Function.update_idem]

/-- What a move leaves unchanged of one local state, it leaves unchanged of all. -/
theorem apply_move_locals {β : Type*} (f : ℓ → β) {c : Threads ι σ ℓ} {i : ι} {s : σ} {l : ℓ}
    (h : f l = f (c.locals i)) (j : ι) : f ((c.move i s l).locals j) = f (c.locals j) := by
  by_cases hj : j = i
  · rw [hj, move_locals_self, h]
  · rw [move_locals_of_ne hj]

/-- When the threads that did not move keep their assertions, all is as the move leaves it. -/
theorem holds_move_iff {G : σ → Prop} {L : ι → σ → ℓ → Prop} {c : Threads ι σ ℓ} {i : ι} {s : σ}
    {l : ℓ} (h : ∀ j, j ≠ i → L j s (c.locals j)) :
    (c.move i s l).Holds G L ↔ G s ∧ L i s l := by
  refine and_congr_right fun _ => ⟨fun hL => ?_, fun hl j => ?_⟩
  · have hi := hL i
    rwa [move_locals_self] at hi
  · by_cases hj : j = i
    · subst hj
      rwa [move_locals_self]
    · rw [move_locals_of_ne hj]
      exact h j hj

end Threads

variable [DecidableEq ι]

/-- The interleavings of the threads whose own steps are given by `thread`. A label names the
thread that moves and what it does. -/
def interleave (thread : ι → σ → ℓ → α → σ → ℓ → Prop) : LTS (Threads ι σ ℓ) (ι × α) where
  step c a c' := ∃ s l, thread a.1 c.shared (c.locals a.1) a.2 s l ∧ c' = c.move a.1 s l

variable {thread : ι → σ → ℓ → α → σ → ℓ → Prop} {G : σ → Prop} {L : ι → σ → ℓ → Prop}

/-- **Absence of interference.** If a step of a thread keeps the shared invariant and its own
assertion, and keeps the assertion of every other thread, then a step of the whole keeps the
shared invariant and all assertions. -/
theorem interleave_holds
    (hown : ∀ i s l a s' l', G s → L i s l → thread i s l a s' l' → G s' ∧ L i s' l')
    (hother : ∀ i j s l lj a s' l', j ≠ i → G s → L i s l → L j s lj →
      thread i s l a s' l' → L j s' lj)
    (c : Threads ι σ ℓ) (a : ι × α) (c' : Threads ι σ ℓ) (hc : c.Holds G L)
    (hstep : (interleave thread).step c a c') : c'.Holds G L := by
  obtain ⟨s, l, hthread, rfl⟩ := hstep
  refine (Threads.holds_move_iff fun j hj => ?_).mpr (hown a.1 _ _ _ _ _ hc.1 (hc.2 a.1) hthread)
  exact hother a.1 j _ _ _ _ _ _ hj hc.1 (hc.2 a.1) (hc.2 j) hthread

/-! ### One thread moves -/

theorem interleave_step {c : Threads ι σ ℓ} {i : ι} {s' : σ} {l l' : ℓ} {a : α}
    (hi : c.locals i = l) (h : thread i c.shared l a s' l') :
    (interleave thread).step c (i, a) (c.move i s' l') :=
  ⟨s', l', hi ▸ h, rfl⟩

/-- The thread that has moved moves again. -/
theorem interleave_move_step {c : Threads ι σ ℓ} {i : ι} {s s' : σ} {l l' : ℓ} {a : α}
    (h : thread i s l a s' l') :
    (interleave thread).step (c.move i s l) (i, a) (c.move i s' l') := by
  have hstep := interleave_step (Threads.move_locals_self c i s l) h
  rwa [Threads.move_move] at hstep

/-! ### Two threads -/

/-- Two threads and what they share. -/
def Threads.pair (s : σ) (first second : ℓ) : Threads Bool σ ℓ :=
  ⟨s, fun i => bif i then second else first⟩

section Pair

variable {thread : Bool → σ → ℓ → α → σ → ℓ → Prop} {s s' : σ} {l l' first second : ℓ} {a : α}

theorem interleave_first (h : thread false s l a s' l') :
    (interleave thread).step (Threads.pair s l second) (false, a) (Threads.pair s' l' second) := by
  refine ⟨s', l', h, ?_⟩
  rw [Threads.pair, Threads.move]
  congr 1
  funext i
  cases i <;> rfl

theorem interleave_second (h : thread true s l a s' l') :
    (interleave thread).step (Threads.pair s first l) (true, a) (Threads.pair s' first l') := by
  refine ⟨s', l', h, ?_⟩
  rw [Threads.pair, Threads.move]
  congr 1
  funext i
  cases i <;> rfl

end Pair

end Foundation
