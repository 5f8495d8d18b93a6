import Mathlib.Data.List.Basic
import Mathlib.Logic.Function.Basic

/-!
# Files, their names and their handles

A name leads to a file, and a handle is a file whatever name leads to it. Whoever opens a file
and writes to it by the handle writes to the same file after it was renamed, and opening a name
for writing empties the file that another one may be writing. A name that is replaced loses its
file, which stays for those who hold it.

## Main definitions

* `Foundation.FileSystem`, `Foundation.FileSystem.read`.
* `Foundation.FileSystem.openTruncate`, `Foundation.FileSystem.write`,
  `Foundation.FileSystem.rename`.

## Main results

* `Foundation.FileSystem.read_openTruncate`, `Foundation.FileSystem.read_write`,
  `Foundation.FileSystem.read_rename`: what the names read after each operation.
-/

namespace Foundation

/-- The contents of the files in the order of their creation, and the file to which each name
leads. A file has one name at most. -/
structure FileSystem (π κ : Type*) where
  files : List κ
  entry : π → Option ℕ
  entry_lt : ∀ {p n}, entry p = some n → n < files.length
  entry_inj : ∀ {p q n}, entry p = some n → entry q = some n → p = q

namespace FileSystem

/-- No files. -/
def empty {π κ : Type*} : FileSystem π κ where
  files := []
  entry _ := none
  entry_lt := by
    intro p n h
    cases h
  entry_inj := by
    intro p q n h
    cases h

variable {π κ : Type*} [DecidableEq π] {fs fs' : FileSystem π κ} {p q r : π}

/-- The contents of the file to which a name leads. -/
def read (fs : FileSystem π κ) (p : π) : Option κ :=
  (fs.entry p).bind fun n => fs.files[n]?

/-- Opens a name for writing: the file is emptied, or created when there is none. The handle is
returned. -/
def openTruncate (fs : FileSystem π κ) (p : π) (empty : κ) : FileSystem π κ × ℕ :=
  match h : fs.entry p with
  | some n =>
    ({ files := fs.files.set n empty
       entry := fs.entry
       entry_lt := by
         intro q m hq
         rw [List.length_set]
         exact fs.entry_lt hq
       entry_inj := fs.entry_inj }, n)
  | none =>
    ({ files := fs.files ++ [empty]
       entry := Function.update fs.entry p (some fs.files.length)
       entry_lt := by
         intro q m hq
         rw [List.length_append, List.length_singleton]
         by_cases hqp : q = p
         · rw [hqp, Function.update_self, Option.some.injEq] at hq
           omega
         · rw [Function.update_of_ne hqp] at hq
           exact Nat.lt_succ_of_lt (fs.entry_lt hq)
       entry_inj := by
         intro q r m hq hr
         by_cases hqp : q = p <;> by_cases hrp : r = p
         · rw [hqp, hrp]
         · rw [hqp, Function.update_self, Option.some.injEq] at hq
           rw [Function.update_of_ne hrp, ← hq] at hr
           exact absurd (fs.entry_lt hr) (Nat.lt_irrefl _)
         · rw [hrp, Function.update_self, Option.some.injEq] at hr
           rw [Function.update_of_ne hqp, ← hr] at hq
           exact absurd (fs.entry_lt hq) (Nat.lt_irrefl _)
         · rw [Function.update_of_ne hqp] at hq
           rw [Function.update_of_ne hrp] at hr
           exact fs.entry_inj hq hr }, fs.files.length)

/-- Writes to the file of a handle, whatever name leads to it. -/
def write (fs : FileSystem π κ) (n : ℕ) (contents : κ) : FileSystem π κ where
  files := fs.files.set n contents
  entry := fs.entry
  entry_lt := by
    intro q m hq
    rw [List.length_set]
    exact fs.entry_lt hq
  entry_inj := fs.entry_inj

/-- Renames `p` to `q`, whose file is replaced; `none` when there is no file of the name `p`. -/
def rename (fs : FileSystem π κ) (p q : π) : Option (FileSystem π κ) :=
  if (fs.entry p).isSome then
    some
      { files := fs.files
        entry := fun r => if r = q then fs.entry p else if r = p then none else fs.entry r
        entry_lt := by
          intro r m hr
          split_ifs at hr
          · exact fs.entry_lt hr
          · exact fs.entry_lt hr
        entry_inj := by
          intro r r' m hr hr'
          split_ifs at hr with hq hp <;> split_ifs at hr' with hq' hp'
          · rw [hq, hq']
          · exact absurd (fs.entry_inj hr' hr) hp'
          · exact absurd (fs.entry_inj hr hr') hp
          · exact fs.entry_inj hr hr' }
  else none

/-! ### What the names read -/

omit [DecidableEq π] in
theorem read_eq_none : fs.read p = none ↔ fs.entry p = none := by
  cases h : fs.entry p with
  | none => simp [read, h]
  | some n => simp [read, h, fs.entry_lt h]

theorem read_openTruncate (empty : κ) :
    (fs.openTruncate p empty).1.read q = if q = p then some empty else fs.read q := by
  rw [openTruncate]
  split
  next n h =>
    split_ifs with hqp
    · simp [read, hqp, h, fs.entry_lt h]
    · have hne : fs.entry q ≠ some n := fun hq => hqp (fs.entry_inj hq h)
      cases hq : fs.entry q with
      | none => simp [read, hq]
      | some m =>
        have hmn : n ≠ m := fun hnm => hne (by rw [hq, hnm])
        simp [read, hq, List.getElem?_set_ne hmn]
  next h =>
    split_ifs with hqp
    · simp [read, hqp]
    · cases hq : fs.entry q with
      | none => simp [read, Function.update_of_ne hqp, hq]
      | some m =>
        simp [read, Function.update_of_ne hqp, hq, List.getElem?_append_left, fs.entry_lt hq]

/-- The handle is the file to which the name leads from then on. -/
theorem entry_openTruncate (empty : κ) :
    (fs.openTruncate p empty).1.entry p = some (fs.openTruncate p empty).2 := by
  rw [openTruncate]
  split
  next n h => exact h
  next h => exact Function.update_self ..

omit [DecidableEq π] in
theorem read_write (n : ℕ) (contents : κ) :
    (fs.write n contents).read p =
      if fs.entry p = some n then some contents else fs.read p := by
  split_ifs with h
  · simp [read, write, h, fs.entry_lt h]
  · cases hp : fs.entry p with
    | none => simp [read, write, hp]
    | some m =>
      have hmn : n ≠ m := fun hnm => h (by rw [hp, hnm])
      simp [read, write, hp, List.getElem?_set_ne hmn]

omit [DecidableEq π] in
/-- Writing by the handle of one name changes what no other name reads. -/
theorem read_write_of_ne {n : ℕ} (h : fs.entry p = some n) (hqp : q ≠ p) (contents : κ) :
    (fs.write n contents).read q = fs.read q := by
  rw [read_write, if_neg fun hq => hqp (fs.entry_inj hq h)]

/-- There is nothing to rename exactly when the name reads nothing. -/
theorem rename_eq_none : fs.rename p q = none ↔ fs.read p = none := by
  rw [read_eq_none, rename]
  split_ifs with h
  · exact iff_of_false (fun hsome => by cases hsome) (Option.isSome_iff_ne_none.mp h)
  · exact iff_of_true rfl (Option.not_isSome_iff_eq_none.mp h)

theorem read_rename (h : fs.rename p q = some fs') :
    fs'.read r = if r = q then fs.read p else if r = p then none else fs.read r := by
  rw [rename] at h
  split_ifs at h with hsome
  obtain rfl := Option.some.inj h
  simp only [read]
  split_ifs <;> rfl

end FileSystem

end Foundation
