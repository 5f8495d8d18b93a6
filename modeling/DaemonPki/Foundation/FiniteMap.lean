import Mathlib.Data.Finmap
import Mathlib.Data.List.Perm.Basic
import Mathlib.Data.List.Sort

/-!
# Finite maps and their iteration orders

A hash map is a finite map: two hash maps with the same bindings are the same value, whatever
the order in which they were filled. The order in which its bindings are visited is not part of
the value; it is given separately, as a list of the keys without repetition. A function that
iterates over a hash map takes such an order as an argument, so that a statement about every
order covers every layout of the table.

## Main definitions

* `Foundation.HashMap`: finite maps with values of one type.
* `Foundation.HashMap.Order`: an order in which the keys of a finite map are visited, and
  `Foundation.HashMap.Order.values`, the values in that order.
* `Foundation.HashMap.Iteration`: an order for every finite map, for example
  `Foundation.HashMap.Iteration.sortedBy`.

## Main results

* `Foundation.HashMap.Order.mem_values`, `Foundation.HashMap.Order.values_perm`: the values
  visited are those of the map, in any two orders the same up to a permutation.
* `Foundation.HashMap.Order.length_values`: one value is visited for every key.
-/

namespace Foundation

/-- Finite maps from `K` to `V`. -/
abbrev HashMap (K V : Type*) := Finmap fun _ : K => V

namespace HashMap

variable {K V : Type*}

/-- The number of bindings of a finite map. -/
def len (m : HashMap K V) : ℕ := m.keys.card

/-- An order in which the keys of a finite map are visited. -/
structure Order (m : HashMap K V) where
  /-- The keys in the order of the visit. -/
  keys : List K
  nodup : keys.Nodup
  mem_keys : ∀ k, k ∈ keys ↔ k ∈ m

/-- The order in which any finite map happens to be visited. -/
def Iteration (K V : Type*) := (m : HashMap K V) → m.Order

namespace Order

variable {m : HashMap K V}

theorem keys_perm (o o' : m.Order) : o.keys.Perm o'.keys :=
  (List.perm_ext_iff_of_nodup o.nodup o'.nodup).mpr fun k => by
    rw [o.mem_keys, o'.mem_keys]

theorem coe_keys (o : m.Order) : (o.keys : Multiset K) = m.keys.val := by
  refine (Multiset.Nodup.ext (Multiset.coe_nodup.mpr o.nodup) m.keys.nodup).mpr fun k => ?_
  rw [Multiset.mem_coe, o.mem_keys, Finset.mem_val, Finmap.mem_keys]

theorem length_keys (o : m.Order) : o.keys.length = m.len := by
  rw [len, Finset.card, ← o.coe_keys, Multiset.coe_card]

/-- The keys with a property are as many in any order. -/
theorem countP_keys (o : m.Order) (p : K → Prop) [DecidablePred p] :
    o.keys.countP (fun k => decide (p k)) = (m.keys.filter p).card := by
  rw [Finset.card, Finset.filter_val, ← o.coe_keys, ← Multiset.countP_eq_card_filter,
    Multiset.coe_countP]

variable [DecidableEq K]

/-- The values of a finite map in the order of the visit. -/
def values (o : m.Order) : List V := o.keys.filterMap fun k => m.lookup k

theorem values_perm (o o' : m.Order) : o.values.Perm o'.values :=
  (o.keys_perm o').filterMap _

theorem mem_values {o : m.Order} {v : V} : v ∈ o.values ↔ ∃ k, m.lookup k = some v := by
  rw [values, List.mem_filterMap]
  refine ⟨fun ⟨k, _, h⟩ => ⟨k, h⟩, fun ⟨k, h⟩ => ⟨k, ?_, h⟩⟩
  exact (o.mem_keys k).mpr (Finmap.mem_of_lookup_eq_some h)

theorem length_values (o : m.Order) : o.values.length = m.len := by
  rw [values, List.length_filterMap_eq_countP, ← o.length_keys, List.countP_eq_length]
  intro k hk
  exact Finmap.lookup_isSome.mpr ((o.mem_keys k).mp hk)

/-- The order of the empty map. -/
def empty : (∅ : HashMap K V).Order where
  keys := []
  nodup := List.nodup_nil
  mem_keys _ := iff_of_false List.not_mem_nil Finmap.notMem_empty

/-- An order of a map after one more binding: a new key is visited first. -/
def insert (o : m.Order) (k : K) (v : V) : Order (m.insert k v) where
  keys := if k ∈ o.keys then o.keys else k :: o.keys
  nodup := by
    split_ifs with h
    · exact o.nodup
    · exact List.nodup_cons.mpr ⟨h, o.nodup⟩
  mem_keys k' := by
    rw [Finmap.mem_insert, ← o.mem_keys]
    split_ifs with h
    · exact ⟨Or.inr, fun hk => hk.elim (fun e => e ▸ h) id⟩
    · exact List.mem_cons

end Order

/-! ### Iteration by rank -/

section Sorted

variable (rank : K → ℕ) (hrank : Function.Injective rank)

include hrank in
theorem insertionSort_eq_of_perm {l l' : List K} (h : l.Perm l') :
    l.insertionSort (fun a b => rank a ≤ rank b) =
      l'.insertionSort fun a b => rank a ≤ rank b := by
  have htotal : Std.Total fun a b : K => rank a ≤ rank b := ⟨fun _ _ => Nat.le_total _ _⟩
  have htrans : IsTrans K fun a b => rank a ≤ rank b := ⟨fun _ _ _ => Nat.le_trans⟩
  refine List.Perm.eq_of_pairwise (fun a b _ _ hab hba => hrank (Nat.le_antisymm hab hba))
    (List.pairwise_insertionSort _ _) (List.pairwise_insertionSort _ _) ?_
  exact (List.perm_insertionSort _ _).trans (h.trans (List.perm_insertionSort _ _).symm)

/-- The iteration that visits the keys by increasing rank. -/
def Iteration.sortedBy : Iteration K V := fun m =>
  { keys := Quotient.liftOn m.keys.val (fun l => l.insertionSort fun a b => rank a ≤ rank b)
      fun _ _ h => insertionSort_eq_of_perm rank hrank h
    nodup := by
      have hnodup := m.keys.nodup
      revert hnodup
      refine Quotient.inductionOn m.keys.val fun l hnodup => ?_
      exact (List.perm_insertionSort _ l).nodup_iff.mpr (Multiset.coe_nodup.mp hnodup)
    mem_keys := fun k => by
      rw [← Finmap.mem_keys, ← Finset.mem_val]
      refine Quotient.inductionOn m.keys.val fun l => ?_
      exact (List.perm_insertionSort _ l).mem_iff }

end Sorted

/-! ### Lookups after an update -/

section Lookup

variable [DecidableEq K] {m : HashMap K V}

theorem lookup_insert_eq_ite (k k' : K) (v : V) :
    (m.insert k v).lookup k' = if k' = k then some v else m.lookup k' := by
  split_ifs with h
  · rw [h, Finmap.lookup_insert]
  · exact Finmap.lookup_insert_of_ne m h

theorem lookup_erase_eq_ite (k k' : K) :
    (m.erase k).lookup k' = if k' = k then none else m.lookup k' := by
  split_ifs with h
  · rw [h, Finmap.lookup_erase]
  · exact Finmap.lookup_erase_ne h

/-- Writing the value that is already there changes nothing. -/
theorem insert_lookup_self {k : K} {v : V} (h : m.lookup k = some v) : m.insert k v = m :=
  Finmap.ext_lookup fun k' => by
    rw [lookup_insert_eq_ite]
    split_ifs with hk
    · rw [hk, h]
    · rfl

/-- A new key adds one binding. -/
theorem len_insert_of_lookup_eq_none {k : K} (h : m.lookup k = none) (v : V) :
    len (m.insert k v) = m.len + 1 := by
  have hkeys : (m.insert k v).keys = insert k m.keys := by
    ext k'
    rw [Finmap.mem_keys, Finmap.mem_insert, Finset.mem_insert, Finmap.mem_keys]
  have hk : k ∉ m.keys := fun hmem => Finmap.lookup_eq_none.mp h (Finmap.mem_keys.mp hmem)
  rw [len, hkeys, Finset.card_insert_of_notMem hk, len]

/-- A key that is there keeps the number of bindings. -/
theorem len_insert_of_lookup_eq_some {k : K} {v : V} (h : m.lookup k = some v) (v' : V) :
    len (m.insert k v') = m.len := by
  have hkeys : (m.insert k v').keys = m.keys := by
    ext k'
    rw [Finmap.mem_keys, Finmap.mem_insert, Finmap.mem_keys, or_iff_right_iff_imp]
    rintro rfl
    exact Finmap.mem_of_lookup_eq_some h
  rw [len, hkeys, len]

/-- Taking out a key that is there takes one binding away. -/
theorem len_erase_of_mem {k : K} (h : k ∈ m) : len (m.erase k) + 1 = m.len := by
  rw [len, Finmap.keys_erase]
  exact Finset.card_erase_add_one (Finmap.mem_keys.mpr h)

end Lookup

end HashMap

end Foundation
