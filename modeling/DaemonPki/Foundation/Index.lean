import DaemonPki.Foundation.FiniteMap

/-!
# Secondary indexes of a finite map

A table `m` is keyed by `K`; its values may carry an attribute. A second finite map from
attributes to keys is a *sound index* of the table when each of its entries names a key whose
value carries the attribute, and an *index* when in addition every carried attribute has its
entry. An index exists only when no two keys carry the same attribute
(`Foundation.IsIndex.key_unique`), so keeping one is keeping the attribute unique.

## Main definitions

* `Foundation.IsSoundIndex`, `Foundation.IsIndex`.
* `Foundation.resolve`: the value that an attribute leads to.

## Main results

* `Foundation.IsSoundIndex.insert_some`, `Foundation.IsIndex.insert_some` and their variants:
  the effect of adding, replacing and removing one binding of the table.
* `Foundation.IsIndex.replace_iff`: when a value may be replaced and the index left alone.
* `Foundation.IsSoundIndex.resolve_insert_some`, `Foundation.resolve_replace`: what the attributes
  lead to after an update.
* `Foundation.IsIndex.len_eq`: an index of an attribute that every value carries has as many
  entries as the table.
-/

namespace Foundation

open HashMap

variable {K V A : Type*} [DecidableEq K] [DecidableEq A]

/-- Every entry of `idx` names a key of `m` whose value carries the attribute. -/
def IsSoundIndex (idx : HashMap A K) (m : HashMap K V) (attr : V → Option A) : Prop :=
  ∀ a k, idx.lookup a = some k → ∃ v, m.lookup k = some v ∧ attr v = some a

/-- The entries of `idx` are exactly the attributes carried in `m`, with the keys carrying
them. -/
def IsIndex (idx : HashMap A K) (m : HashMap K V) (attr : V → Option A) : Prop :=
  ∀ a k, idx.lookup a = some k ↔ ∃ v, m.lookup k = some v ∧ attr v = some a

variable {idx : HashMap A K} {m : HashMap K V} {attr : V → Option A} {k : K} {v : V} {a : A}

theorem IsIndex.isSoundIndex (h : IsIndex idx m attr) : IsSoundIndex idx m attr :=
  fun a k => (h a k).mp

theorem isIndex_empty : IsIndex (∅ : HashMap A K) (∅ : HashMap K V) attr := by
  intro a k
  simp

/-- Two keys that carry the same attribute of an indexed table are equal. -/
theorem IsIndex.key_unique (h : IsIndex idx m attr) {k' : K} {v' : V}
    (hk : m.lookup k = some v) (hk' : m.lookup k' = some v') (ha : attr v = some a)
    (ha' : attr v' = some a) : k = k' := by
  have e : idx.lookup a = some k := (h a k).mpr ⟨v, hk, ha⟩
  have e' : idx.lookup a = some k' := (h a k').mpr ⟨v', hk', ha'⟩
  exact Option.some.inj (e.symm.trans e')

theorem IsIndex.lookup_eq_none (h : IsIndex idx m attr) :
    idx.lookup a = none ↔ ∀ k v, m.lookup k = some v → attr v ≠ some a := by
  rw [Option.eq_none_iff_forall_ne_some]
  refine ⟨fun hn k v hk ha => hn k ((h a k).mpr ⟨v, hk, ha⟩), fun hn k hk => ?_⟩
  obtain ⟨v, hv, ha⟩ := (h a k).mp hk
  exact hn k v hv ha

/-! ### Adding a binding -/

/-- A new binding with its attribute entered under its key, replacing an older entry for the
same attribute. -/
theorem IsSoundIndex.insert_some (h : IsSoundIndex idx m attr) (hk : m.lookup k = none)
    (ha : attr v = some a) : IsSoundIndex (idx.insert a k) (m.insert k v) attr := by
  intro b k' hb
  rw [lookup_insert_eq_ite] at hb
  split_ifs at hb with hba
  · obtain rfl : k = k' := Option.some.inj hb
    exact ⟨v, Finmap.lookup_insert _, hba ▸ ha⟩
  · obtain ⟨w, hw, hwb⟩ := h b k' hb
    have hne : k' ≠ k := fun e => by rw [e, hk] at hw; cases hw
    exact ⟨w, (Finmap.lookup_insert_of_ne m hne).trans hw, hwb⟩

/-- A new binding that carries no attribute. -/
theorem IsSoundIndex.insert_none (h : IsSoundIndex idx m attr) (hk : m.lookup k = none) :
    IsSoundIndex idx (m.insert k v) attr := by
  intro b k' hb
  obtain ⟨w, hw, hwb⟩ := h b k' hb
  have hne : k' ≠ k := fun e => by rw [e, hk] at hw; cases hw
  exact ⟨w, (Finmap.lookup_insert_of_ne m hne).trans hw, hwb⟩

/-- A new binding whose attribute no other binding carries. -/
theorem IsIndex.insert_some (h : IsIndex idx m attr) (hk : m.lookup k = none)
    (ha : attr v = some a) (hfresh : ∀ k' v', m.lookup k' = some v' → attr v' ≠ some a) :
    IsIndex (idx.insert a k) (m.insert k v) attr := by
  intro b k'
  refine ⟨h.isSoundIndex.insert_some hk ha b k', fun ⟨w, hw, hwb⟩ => ?_⟩
  rw [lookup_insert_eq_ite] at hw ⊢
  split_ifs at hw with hkk
  · obtain rfl : v = w := Option.some.inj hw
    rw [if_pos (Option.some.inj (hwb.symm.trans ha)), hkk]
  · have hne : b ≠ a := fun e => hfresh k' w hw (e ▸ hwb)
    rw [if_neg hne]
    exact (h b k').mpr ⟨w, hw, hwb⟩

/-- A new binding that carries no attribute. -/
theorem IsIndex.insert_none (h : IsIndex idx m attr) (hk : m.lookup k = none)
    (ha : attr v = none) : IsIndex idx (m.insert k v) attr := by
  intro b k'
  refine ⟨h.isSoundIndex.insert_none hk b k', fun ⟨w, hw, hwb⟩ => ?_⟩
  rw [lookup_insert_eq_ite] at hw
  split_ifs at hw with hkk
  · obtain rfl : v = w := Option.some.inj hw
    rw [ha] at hwb
    cases hwb
  · exact (h b k').mpr ⟨w, hw, hwb⟩

/-! ### Replacing a value -/

omit [DecidableEq A] in
/-- The bindings of a table after a value was replaced by one with the same attribute. -/
theorem exists_lookup_replace {v' : V} (hk : m.lookup k = some v) (hattr : attr v' = attr v)
    (b : A) (k' : K) : (∃ w, (m.insert k v').lookup k' = some w ∧ attr w = some b) ↔
      ∃ w, m.lookup k' = some w ∧ attr w = some b := by
  rw [lookup_insert_eq_ite]
  split_ifs with hkk
  · subst hkk
    rw [hk]
    simp only [Option.some.injEq, exists_eq_left', hattr]
  · exact Iff.rfl

theorem IsSoundIndex.replace {v' : V} (h : IsSoundIndex idx m attr) (hk : m.lookup k = some v)
    (hattr : attr v' = attr v) : IsSoundIndex idx (m.insert k v') attr :=
  fun b k' hb => (exists_lookup_replace hk hattr b k').mpr (h b k' hb)

theorem IsIndex.replace {v' : V} (h : IsIndex idx m attr) (hk : m.lookup k = some v)
    (hattr : attr v' = attr v) : IsIndex idx (m.insert k v') attr :=
  fun b k' => (h b k').trans (exists_lookup_replace hk hattr b k').symm

/-- A value may be replaced without touching the index exactly when the attribute stays. -/
theorem IsIndex.replace_iff {v' : V} (h : IsIndex idx m attr) (hk : m.lookup k = some v) :
    IsIndex idx (m.insert k v') attr ↔ attr v' = attr v := by
  refine ⟨fun h' => Option.ext fun b => ?_, h.replace hk⟩
  calc attr v' = some b
      ↔ ∃ w, (m.insert k v').lookup k = some w ∧ attr w = some b := by
        simp only [Finmap.lookup_insert, Option.some.injEq, exists_eq_left']
    _ ↔ ∃ w, m.lookup k = some w ∧ attr w = some b := (h' b k).symm.trans (h b k)
    _ ↔ attr v = some b := by simp only [hk, Option.some.injEq, exists_eq_left']

/-! ### Removing a binding -/

/-- A removed binding whose attribute is removed from the index, whoever it named. -/
theorem IsSoundIndex.erase_some (h : IsSoundIndex idx m attr) (hk : m.lookup k = some v)
    (ha : attr v = some a) : IsSoundIndex (idx.erase a) (m.erase k) attr := by
  intro b k' hb
  rw [lookup_erase_eq_ite] at hb
  split_ifs at hb with hba
  obtain ⟨w, hw, hwb⟩ := h b k' hb
  have hne : k' ≠ k := by
    rintro rfl
    obtain rfl : v = w := Option.some.inj (hk.symm.trans hw)
    exact hba (Option.some.inj (hwb.symm.trans ha))
  exact ⟨w, (Finmap.lookup_erase_ne hne).trans hw, hwb⟩

/-- A removed binding that carried no attribute. -/
theorem IsSoundIndex.erase_none (h : IsSoundIndex idx m attr) (hk : m.lookup k = some v)
    (ha : attr v = none) : IsSoundIndex idx (m.erase k) attr := by
  intro b k' hb
  obtain ⟨w, hw, hwb⟩ := h b k' hb
  have hne : k' ≠ k := by
    rintro rfl
    obtain rfl : v = w := Option.some.inj (hk.symm.trans hw)
    rw [ha] at hwb
    cases hwb
  exact ⟨w, (Finmap.lookup_erase_ne hne).trans hw, hwb⟩

theorem IsIndex.erase_some (h : IsIndex idx m attr) (hk : m.lookup k = some v)
    (ha : attr v = some a) : IsIndex (idx.erase a) (m.erase k) attr := by
  intro b k'
  refine ⟨h.isSoundIndex.erase_some hk ha b k', fun ⟨w, hw, hwb⟩ => ?_⟩
  rw [lookup_erase_eq_ite] at hw
  split_ifs at hw with hkk
  have hne : b ≠ a := fun e => hkk (h.key_unique hw hk hwb (e ▸ ha))
  rw [Finmap.lookup_erase_ne hne]
  exact (h b k').mpr ⟨w, hw, hwb⟩

theorem IsIndex.erase_none (h : IsIndex idx m attr) (hk : m.lookup k = some v)
    (ha : attr v = none) : IsIndex idx (m.erase k) attr := by
  intro b k'
  refine ⟨h.isSoundIndex.erase_none hk ha b k', fun ⟨w, hw, hwb⟩ => ?_⟩
  rw [lookup_erase_eq_ite] at hw
  split_ifs at hw with hkk
  exact (h b k').mpr ⟨w, hw, hwb⟩

/-! ### Lookups through an index -/

/-- The value that an attribute leads to. -/
def resolve (idx : HashMap A K) (m : HashMap K V) (a : A) : Option V :=
  (idx.lookup a).bind fun k => m.lookup k

/-- A new binding is found by the attribute entered for it, and nothing else changes. -/
theorem IsSoundIndex.resolve_insert_some (h : IsSoundIndex idx m attr) (hk : m.lookup k = none)
    (b : A) : resolve (idx.insert a k) (m.insert k v) b =
      if b = a then some v else resolve idx m b := by
  rw [resolve, resolve, lookup_insert_eq_ite]
  split_ifs with hba
  · exact Finmap.lookup_insert m
  · cases hb : idx.lookup b with
    | none => rfl
    | some k' =>
      obtain ⟨w, hw, -⟩ := h b k' hb
      have hne : k' ≠ k := fun e => by rw [e, hk] at hw; cases hw
      exact Finmap.lookup_insert_of_ne m hne

/-- A new binding for which no attribute is entered changes nothing. -/
theorem IsSoundIndex.resolve_insert_none (h : IsSoundIndex idx m attr) (hk : m.lookup k = none)
    (b : A) : resolve idx (m.insert k v) b = resolve idx m b := by
  rw [resolve, resolve]
  cases hb : idx.lookup b with
  | none => rfl
  | some k' =>
    obtain ⟨w, hw, -⟩ := h b k' hb
    have hne : k' ≠ k := fun e => by rw [e, hk] at hw; cases hw
    exact Finmap.lookup_insert_of_ne m hne

/-- A value that is replaced is found where the one before was; `key` is the key of a value. -/
theorem resolve_replace {key : V → K} (hkey : ∀ k v, m.lookup k = some v → key v = k) {v' : V}
    (hk : m.lookup k = some v) (b : A) : resolve idx (m.insert k v') b =
      (resolve idx m b).map fun w => if key w = k then v' else w := by
  rw [resolve, resolve]
  cases hb : idx.lookup b with
  | none => rfl
  | some k' =>
    simp only [Option.bind_some, lookup_insert_eq_ite]
    split_ifs with hkk
    · rw [hkk, hk, Option.map_some, if_pos (hkey k v hk)]
    · cases hw : m.lookup k' with
      | none => rfl
      | some w => rw [Option.map_some, if_neg (hkey k' w hw ▸ hkk)]

/-! ### Size -/

/-- An index of an attribute that every value carries has one entry for every binding. -/
theorem IsIndex.len_eq (h : IsIndex idx m attr) (htotal : ∀ v, (attr v).isSome) :
    idx.len = m.len := by
  have hkey : ∀ a ∈ idx.keys, ∃ k, idx.lookup a = some k := fun a ha =>
    Finmap.mem_iff.mp (Finmap.mem_keys.mp ha)
  refine Finset.card_bij (fun a ha => (hkey a ha).choose) ?_ ?_ ?_
  · intro a ha
    obtain ⟨v, hv, -⟩ := (h a _).mp (hkey a ha).choose_spec
    exact Finmap.mem_keys.mpr (Finmap.mem_of_lookup_eq_some hv)
  · intro a ha b hb hab
    obtain ⟨v, hv, hva⟩ := (h a _).mp (hkey a ha).choose_spec
    obtain ⟨w, hw, hwb⟩ := (h b _).mp (hkey b hb).choose_spec
    rw [hab, hw] at hv
    obtain rfl : w = v := Option.some.inj hv
    exact Option.some.inj (hva.symm.trans hwb)
  · intro k hk
    obtain ⟨v, hv⟩ := Finmap.mem_iff.mp (Finmap.mem_keys.mp hk)
    obtain ⟨a, ha⟩ := Option.isSome_iff_exists.mp (htotal v)
    have hak : idx.lookup a = some k := (h a k).mpr ⟨v, hv, ha⟩
    have hmem : a ∈ idx.keys := Finmap.mem_keys.mpr (Finmap.mem_of_lookup_eq_some hak)
    refine ⟨a, hmem, ?_⟩
    exact Option.some.inj ((hkey a hmem).choose_spec.symm.trans hak)

end Foundation
