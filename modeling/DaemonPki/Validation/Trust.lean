import DaemonPki.Certificate.Metadata
import DaemonPki.Foundation.Transition
import Mathlib.Data.List.Nodup

/-!
# The trust store

The explicitly trusted roots (`daemon-pki-core/src/validation/trust.rs`): a list of anchors in
the order in which they were added, searched from its beginning. The list is not indexed by the
identifier; that no two anchors share one is what `add` keeps, and with it `remove` takes away
everything that was added under an identifier.

## Main definitions

* `DaemonPki.TrustAnchor`, `DaemonPki.TrustStore` with `add`, `remove`, `get` and `enabled`.
* `DaemonPki.TrustStore.system`, `DaemonPki.TrustStore.Registered`: the anchors added and not
  since removed.

## Main results

* `DaemonPki.TrustStore.mem_anchors_iff_registered`: the store holds exactly these anchors.
-/

namespace DaemonPki

open Foundation

/-- Source: `trust.rs`, lines 5–15. -/
structure TrustAnchor where
  id : Uuid
  name : String
  certificateDer : List UInt8
  enabled : Bool
  deriving DecidableEq, Repr

/-- A new anchor, with the identifier drawn by the call. Source: `trust.rs`, lines 18–28. -/
def TrustAnchor.new (id : Uuid) (name : String) (certificateDer : List UInt8) : TrustAnchor where
  id := id
  name := name
  certificateDer := certificateDer
  enabled := true

/-- Source: `trust.rs`, lines 37–44. -/
inductive TrustStoreError
  | notFound (id : Uuid)
  | alreadyExists (id : Uuid)
  deriving DecidableEq, Repr

/-- Source: `trust.rs`, lines 32–35. -/
structure TrustStore where
  anchors : List TrustAnchor
  deriving DecidableEq, Repr

namespace TrustStore

/-- Source: `trust.rs`, lines 47–51. -/
def new : TrustStore := ⟨[]⟩

/-- Source: `trust.rs`, lines 53–65. -/
def add (store : TrustStore) (anchor : TrustAnchor) : Except TrustStoreError Uuid × TrustStore :=
  if store.anchors.any fun item => item.id = anchor.id then
    (.error (.alreadyExists anchor.id), store)
  else (.ok anchor.id, ⟨store.anchors ++ [anchor]⟩)

/-- Source: `trust.rs`, lines 67–78. -/
def remove (store : TrustStore) (id : Uuid) : Except TrustStoreError TrustAnchor × TrustStore :=
  match store.anchors.find? fun anchor => anchor.id = id with
  | none => (.error (.notFound id), store)
  | some anchor => (.ok anchor, ⟨store.anchors.eraseP fun anchor => anchor.id = id⟩)

/-- Source: `trust.rs`, lines 80–88. -/
def get (store : TrustStore) (id : Uuid) : Except TrustStoreError TrustAnchor :=
  match store.anchors.find? fun anchor => anchor.id = id with
  | none => .error (.notFound id)
  | some anchor => .ok anchor

/-- Source: `trust.rs`, lines 90–92. -/
def enabled (store : TrustStore) : List TrustAnchor :=
  store.anchors.filter fun anchor => anchor.enabled

/-! ### Runs -/

/-- A call that changes the store. -/
inductive Call
  | add (anchor : TrustAnchor)
  | remove (id : Uuid)
  deriving DecidableEq, Repr

/-- The store that a call leaves behind, whether it succeeds or fails. -/
def after (store : TrustStore) : Call → TrustStore
  | .add anchor => (store.add anchor).2
  | .remove id => (store.remove id).2

/-- The store under these calls. -/
def system : LTS TrustStore Call := .ofFun after

/-- The anchor was added by a call of the run that succeeded, and no later call removes its
identifier. -/
def Registered (anchor : TrustAnchor) : {store : TrustStore} → system.Run new store → Prop
  | _, .nil => False
  | _, .snoc (t := store) run (.add added) _ =>
      Registered anchor run ∨ anchor = added ∧ (store.add added).1 = .ok added.id
  | _, .snoc run (.remove id) _ => Registered anchor run ∧ anchor.id ≠ id

/-- No two anchors share an identifier. -/
def UniqueIds (store : TrustStore) : Prop := store.anchors.Pairwise fun a b => a.id ≠ b.id

variable {store : TrustStore} {anchor added : TrustAnchor} {id : Uuid}

/-- The two outcomes of `add`. -/
theorem add_cases (store : TrustStore) (anchor : TrustAnchor) :
    (anchor.id ∈ store.anchors.map TrustAnchor.id ∧
        store.add anchor = (.error (.alreadyExists anchor.id), store)) ∨
      (anchor.id ∉ store.anchors.map TrustAnchor.id ∧
        store.add anchor = (.ok anchor.id, ⟨store.anchors ++ [anchor]⟩)) := by
  have hany : (store.anchors.any fun item => item.id = anchor.id) = true ↔
      anchor.id ∈ store.anchors.map TrustAnchor.id := by
    simp
  by_cases h : anchor.id ∈ store.anchors.map TrustAnchor.id
  · exact Or.inl ⟨h, if_pos (hany.mpr h)⟩
  · exact Or.inr ⟨h, if_neg (mt hany.mp h)⟩

/-- A removal takes the first anchor with the identifier away, if there is one. -/
theorem anchors_remove (store : TrustStore) (id : Uuid) :
    (store.remove id).2.anchors = store.anchors.eraseP fun anchor => anchor.id = id := by
  rw [remove]
  split
  next hnone =>
    rw [List.eraseP_of_forall_not]
    simpa using hnone
  next => rfl

/-- Where identifiers are unique, they tell the anchors apart. -/
theorem UniqueIds.eq_of_id_eq (h : store.UniqueIds) (hanchor : anchor ∈ store.anchors)
    (hadded : added ∈ store.anchors) (hid : anchor.id = added.id) : anchor = added := by
  have hnodup : (store.anchors.map TrustAnchor.id).Nodup := List.pairwise_map.mpr h
  exact List.inj_on_of_nodup_map hnodup hanchor hadded hid

theorem UniqueIds.add (h : store.UniqueIds) (anchor : TrustAnchor) :
    (store.add anchor).2.UniqueIds := by
  rcases store.add_cases anchor with ⟨-, hadd⟩ | ⟨hnew, hadd⟩ <;> rw [hadd]
  · exact h
  · refine List.pairwise_append.mpr ⟨h, List.pairwise_singleton _ _, fun a ha b hb hid => ?_⟩
    rw [List.mem_singleton.mp hb] at hid
    exact hnew (hid ▸ List.mem_map_of_mem ha)

theorem UniqueIds.remove (h : store.UniqueIds) (id : Uuid) : (store.remove id).2.UniqueIds := by
  rw [UniqueIds, anchors_remove]
  exact h.sublist List.eraseP_sublist

/-- Where identifiers are unique, removing the first anchor with one removes every anchor with
it. -/
theorem mem_eraseP_iff {anchors : List TrustAnchor}
    (h : anchors.Pairwise fun a b => a.id ≠ b.id) :
    anchor ∈ (anchors.eraseP fun anchor => anchor.id = id) ↔
      anchor ∈ anchors ∧ anchor.id ≠ id := by
  induction anchors with
  | nil => simp
  | cons first anchors ih =>
    obtain ⟨hfirst, hrest⟩ := List.pairwise_cons.mp h
    by_cases hid : first.id = id
    · rw [List.eraseP_cons_of_pos (by simpa using hid), List.mem_cons]
      refine ⟨fun hmem => ⟨Or.inr hmem, fun e => hfirst anchor hmem (hid.trans e.symm)⟩, ?_⟩
      rintro ⟨rfl | hmem, hne⟩
      · exact absurd hid hne
      · exact hmem
    · rw [List.eraseP_cons_of_neg (by simpa using hid), List.mem_cons, List.mem_cons, ih hrest]
      refine ⟨?_, fun ⟨hmem, hne⟩ => hmem.imp_right fun hmem => ⟨hmem, hne⟩⟩
      rintro (rfl | ⟨hmem, hne⟩)
      · exact ⟨Or.inl rfl, hid⟩
      · exact ⟨Or.inr hmem, hne⟩

theorem UniqueIds.mem_remove_iff (h : store.UniqueIds) :
    anchor ∈ (store.remove id).2.anchors ↔ anchor ∈ store.anchors ∧ anchor.id ≠ id := by
  rw [anchors_remove]
  exact mem_eraseP_iff h

theorem uniqueIds_of_run (run : system.Run new store) : store.UniqueIds := by
  refine run.invariant (I := UniqueIds) (fun u call v h hstep => ?_) List.Pairwise.nil
  rw [hstep]
  cases call with
  | add anchor => exact h.add anchor
  | remove id => exact h.remove id

/-- **What the store holds**: the anchors added and not since removed. -/
theorem mem_anchors_iff_registered :
    {store : TrustStore} → (run : system.Run new store) →
      (anchor ∈ store.anchors ↔ Registered anchor run)
  | _, .nil => by simp [new, Registered]
  | _, .snoc (t := before) run (.add added) hstep => by
    rw [Registered, ← mem_anchors_iff_registered run, hstep]
    rcases before.add_cases added with ⟨-, hadd⟩ | ⟨-, hadd⟩ <;> simp [after, hadd]
  | _, .snoc run (.remove id) hstep => by
    rw [Registered, ← mem_anchors_iff_registered run, hstep]
    exact (uniqueIds_of_run run).mem_remove_iff

theorem mem_enabled : anchor ∈ store.enabled ↔ anchor ∈ store.anchors ∧ anchor.enabled = true :=
  List.mem_filter

end TrustStore

end DaemonPki
