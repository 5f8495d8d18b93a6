import DaemonPki.Foundation.Text

/-!
# Texts with separators

A text that lists several values, with a character between them and white space around them. It is
split at every separator, and what is left of a piece without the white space is a field, unless
nothing is left.

## Main definitions

* `Foundation.Text.IsBlank`, `Foundation.Text.fields`.

## Main results

* `Foundation.Text.mem_splitOn_iff`: the pieces of a text are its stretches between separators.
* `Foundation.Text.trim_blank_append`: white space around a text does not matter.
* `Foundation.Text.mem_fields_intercalate_iff`: the fields of joined texts.
-/

namespace Foundation

namespace Text

/-- Nothing but white space. -/
def IsBlank (text : List Char) : Prop := ∀ c ∈ text, isWhitespace c = true

/-- The fields of a text: `split`, `trim`, and those that are not empty. -/
def fields (separator : Char) (text : List Char) : List (List Char) :=
  ((text.splitOn separator).map trim).filter fun field => !field.isEmpty

/-! ### Pieces -/

/-- A stretch of a text ends where the text does or at a separator. -/
def Bounded {α : Type*} (separator : α) (rest : List α) : Prop :=
  rest = [] ∨ ∃ further, rest = separator :: further

section Pieces

variable {α : Type*} [BEq α] [LawfulBEq α] {separator : α} {piece text : List α}

/-- A piece has no separator in it. -/
theorem not_mem_of_mem_splitOn (h : piece ∈ text.splitOn separator) : separator ∉ piece := by
  induction text generalizing piece with
  | nil =>
    rw [List.splitOn_nil, List.mem_singleton] at h
    rw [h]
    exact List.not_mem_nil
  | cons c text ih =>
    rw [List.splitOn_cons_eq_if_modifyHead] at h
    obtain ⟨first, others, hsplit⟩ := List.exists_cons_of_ne_nil
      (List.splitOn_ne_nil separator text)
    rw [hsplit] at h ih
    split at h
    · rcases List.mem_cons.mp h with rfl | h
      · exact List.not_mem_nil
      · exact ih h
    next hc =>
      rw [List.modifyHead_cons] at h
      rcases List.mem_cons.mp h with rfl | h
      · refine List.not_mem_cons_of_ne_of_not_mem (fun heq => hc ?_) (ih List.mem_cons_self)
        rw [heq]
        exact beq_self_eq_true c
      · exact ih (List.mem_cons_of_mem first h)

variable (separator) in
omit [BEq α] [LawfulBEq α] in
/-- Joined pieces have what stands before and after one of them, up to a separator. -/
theorem exists_of_mem_intercalate {pieces : List (List α)} (h : piece ∈ pieces) :
    ∃ before after, [separator].intercalate pieces = before.reverse ++ piece ++ after ∧
      Bounded separator before ∧ Bounded separator after := by
  induction pieces with
  | nil => cases h
  | cons first pieces ih =>
    by_cases hnil : pieces = []
    · rw [hnil, List.mem_singleton] at h
      exact ⟨[], [], by simp [hnil, h], Or.inl rfl, Or.inl rfl⟩
    rw [List.intercalate_cons_of_ne_nil hnil]
    rcases List.mem_cons.mp h with rfl | h
    · exact ⟨[], separator :: [separator].intercalate pieces, by simp, Or.inl rfl,
        Or.inr ⟨_, rfl⟩⟩
    · obtain ⟨before, after, hjoined, hbefore, hafter⟩ := ih h
      refine ⟨before ++ separator :: first.reverse, after, by simp [hjoined], ?_, hafter⟩
      rcases hbefore with rfl | ⟨further, rfl⟩
      · exact Or.inr ⟨first.reverse, rfl⟩
      · exact Or.inr ⟨further ++ separator :: first.reverse, rfl⟩

/-- **The pieces of a text** are its stretches without a separator that end, on both sides, at a
separator or with the text. -/
theorem mem_splitOn_iff : piece ∈ text.splitOn separator ↔ separator ∉ piece ∧
    ∃ before after, text = before.reverse ++ piece ++ after ∧ Bounded separator before ∧
      Bounded separator after := by
  constructor
  · intro h
    obtain ⟨before, after, hjoined, hbounded⟩ := exists_of_mem_intercalate separator h
    rw [List.intercalate_splitOn] at hjoined
    exact ⟨not_mem_of_mem_splitOn h, before, after, hjoined, hbounded⟩
  · rintro ⟨hpiece, before, after, rfl, hbefore, hafter⟩
    have hrest : piece ∈ (piece ++ after).splitOn separator := by
      rcases hafter with rfl | ⟨further, rfl⟩
      · rw [List.append_nil, List.splitOn_eq_singleton hpiece]
        exact List.mem_singleton_self piece
      · rw [List.splitOn_append_cons_self_of_not_mem hpiece]
        exact List.mem_cons_self
    rcases hbefore with rfl | ⟨further, rfl⟩
    · exact hrest
    · rw [List.reverse_cons, List.append_assoc, List.append_assoc, List.singleton_append,
        List.splitOn_append_cons_self]
      exact List.mem_append_right _ hrest

end Pieces

/-! ### White space -/

theorem dropWhile_blank_append {blank : List Char} (h : IsBlank blank) (text : List Char) :
    (blank ++ text).dropWhile isWhitespace = text.dropWhile isWhitespace :=
  List.dropWhile_append_of_pos h

/-- **White space around a text does not matter.** -/
theorem trim_blank_append {before after : List Char} (hbefore : IsBlank before)
    (hafter : IsBlank after) (text : List Char) : trim (before ++ text ++ after) = trim text := by
  have hreverse : IsBlank after.reverse := fun c hc => hafter c (List.mem_reverse.mp hc)
  rw [trim, trim, List.append_assoc, dropWhile_blank_append hbefore, List.dropWhile_append]
  split
  next hempty =>
    have hnil : after.dropWhile isWhitespace = [] := by
      have hdrop := dropWhile_blank_append hafter []
      rwa [List.append_nil] at hdrop
    rw [hnil, List.isEmpty_iff.mp hempty]
  next => rw [List.reverse_append, dropWhile_blank_append hreverse]

/-! ### Fields -/

/-- **The fields of a text**: what is left of its pieces. -/
theorem mem_fields_iff {separator : Char} {text field : List Char} :
    field ∈ fields separator text ↔
      field ≠ [] ∧ ∃ piece ∈ text.splitOn separator, trim piece = field := by
  rw [fields, List.mem_filter, List.mem_map, Bool.not_eq_true', List.isEmpty_eq_false_iff]
  exact and_comm

/-- **The fields of joined texts**: what is left of them. -/
theorem mem_fields_intercalate_iff {separator : Char} {pieces : List (List Char)}
    (hpieces : ∀ piece ∈ pieces, separator ∉ piece) {field : List Char} :
    field ∈ fields separator ([separator].intercalate pieces) ↔
      field ≠ [] ∧ ∃ piece ∈ pieces, trim piece = field := by
  rw [mem_fields_iff]
  by_cases hnil : pieces = []
  · subst hnil
    have htrim : trim [] = [] := rfl
    rw [List.intercalate_nil, List.splitOn_nil]
    simp only [List.mem_singleton, exists_eq_left, htrim]
    exact ⟨fun h => absurd h.2.symm h.1, fun h => by simp at h⟩
  · rw [List.splitOn_intercalate separator hpieces hnil]

end Text

end Foundation
