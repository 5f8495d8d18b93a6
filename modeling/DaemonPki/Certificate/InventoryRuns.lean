import DaemonPki.Certificate.Inventory
import DaemonPki.Foundation.Transition
import Mathlib.Logic.Relation

/-!
# Runs of the certificate inventory

A run is a sequence of calls on one inventory, successful and failing ones alike. Whatever a
call does, it does by elementary updates: a certificate that `register` accepts is entered, a
tracked certificate is dropped, or a tracked certificate moves along an edge of the transition
table, its other fields unchanged. An invariant of the inventory is therefore checked on these
three updates only.

The representation invariant says what the two indexes mean. The serial index is exact, because
`register` refuses a serial number that is in use. The fingerprint index is only sound:
`register` enters a fingerprint without asking whether it is in use, and the exact condition
under which the index stays complete is that no accepted certificate brings a fingerprint that a
tracked one carries.

## Main definitions

* `DaemonPki.InventoryCall`, `DaemonPki.CertificateInventory.after`,
  `DaemonPki.inventorySystem`, `DaemonPki.inventoryMethods`.
* `DaemonPki.CertificateInventory.Change`, `DaemonPki.CertificateInventory.Update`: the
  elementary updates.
* `DaemonPki.CertificateInventory.WellFormed`: the representation invariant.
* `DaemonPki.CertificateInventory.FingerprintsFindable`,
  `DaemonPki.CertificateInventory.FingerprintsIndexed`: unique and findable fingerprints.

## Main results

* `DaemonPki.CertificateInventory.updates_after`: every call is a sequence of updates.
* `DaemonPki.CertificateInventory.wellFormed_of_run`: the representation invariant holds along
  every run.
* `DaemonPki.CertificateInventory.indexes_of_run`: what it says about the lookups and counts.
* `DaemonPki.CertificateInventory.fingerprintsFindable_iff_of_run`: when the fingerprints are
  unique and findable along a run.
-/

namespace DaemonPki

open Foundation

/-- A call on an inventory, with the clock readings and the iteration order it happens to see.
The last two are the lifecycle operations applied to the reference that `get_mut` returns. -/
inductive InventoryCall
  | register (certificate : CertificateMetadata)
  | registerRenewal (now : OffsetDateTime) (previousId : Uuid)
      (replacement : CertificateMetadata)
  | remove (id : Uuid)
  | revoke (now : OffsetDateTime) (id : Uuid)
  | markRenewed (now : OffsetDateTime) (id : Uuid)
  | evaluateLifecycle (clock : Uuid → LifecycleManager.EvaluationClock)
      (iteration : HashMap.Iteration Uuid CertificateMetadata)
  | transition (now : OffsetDateTime) (id : Uuid) (next : CertificateState)
  | evaluate (clock : LifecycleManager.EvaluationClock) (id : Uuid)

/-- The call is a method of the inventory, and does not go through `get_mut`. -/
def InventoryCall.IsMethod : InventoryCall → Prop
  | .transition .. | .evaluate .. => False
  | _ => True

/-- The inventory that a call leaves behind, whether it succeeds or fails. -/
def CertificateInventory.after (inv : CertificateInventory) : InventoryCall → CertificateInventory
  | .register certificate => (inv.register certificate).2
  | .registerRenewal now previousId replacement =>
      (inv.registerRenewal now previousId replacement).2
  | .remove id => (inv.remove id).2
  | .revoke now id => (inv.revoke now id).2
  | .markRenewed now id => (inv.markRenewed now id).2
  | .evaluateLifecycle clock iteration =>
      (inv.evaluateLifecycle clock (iteration inv.certificates)).2
  | .transition now id next => (inv.transition now id next).2
  | .evaluate clock id => (inv.evaluate clock id).2

/-- The inventory under all calls. -/
def inventorySystem : LTS CertificateInventory InventoryCall := .ofFun CertificateInventory.after

/-- The inventory under the calls of its methods. -/
def inventoryMethods : LTS CertificateInventory InventoryCall :=
  inventorySystem.restrict fun _ call => call.IsMethod

namespace CertificateInventory

open Relation

/-- A run of the methods from the empty inventory, continued by one call. -/
def runAfter {inv : CertificateInventory} (run : inventoryMethods.Run new inv)
    (call : InventoryCall) (h : call.IsMethod) : inventoryMethods.Run new (inv.after call) :=
  run.snoc call ⟨h, rfl⟩

/-! ### Elementary updates -/

/-- The elementary updates that enter no certificate. -/
inductive Change : CertificateInventory → CertificateInventory → Prop
  | untrack {inv : CertificateInventory} {id : Uuid} {c : CertificateMetadata}
      (h : inv.certificates.lookup id = some c) : Change inv (inv.untrack id c)
  | put {inv : CertificateInventory} {id : Uuid} {c c' : CertificateMetadata}
      (h : inv.certificates.lookup id = some c) (hc : c.Restates c')
      (hstate : LifecycleManager.Follows c.state c'.state) : Change inv (inv.put id c')

/-- The elementary updates. -/
inductive Update : CertificateInventory → CertificateInventory → Prop
  | track {inv : CertificateInventory} {c : CertificateMetadata} (h : inv.Accepts c) :
      Update inv (inv.track c)
  | change {inv inv' : CertificateInventory} (h : Change inv inv') : Update inv inv'

variable {inv inv' : CertificateInventory} {id : Uuid} {c c' : CertificateMetadata}

theorem change_transition {now : OffsetDateTime} {next : CertificateState}
    (h : inv.certificates.lookup id = some c)
    (hc : LifecycleManager.transition now c next = .ok c') : Change inv (inv.put id c') :=
  .put h (LifecycleManager.restates_of_transition hc) (LifecycleManager.follows_of_transition hc)

theorem change_evaluate {clock : LifecycleManager.EvaluationClock}
    (h : inv.certificates.lookup id = some c)
    (hc : LifecycleManager.evaluate clock c = .ok c') : Change inv (inv.put id c') :=
  .put h (LifecycleManager.restates_of_evaluate hc) (LifecycleManager.follows_of_evaluate hc)

theorem changes_transition (inv : CertificateInventory) (now : OffsetDateTime) (id : Uuid)
    (next : CertificateState) : ReflTransGen Change inv (inv.transition now id next).2 := by
  rcases inv.modify_cases id fun c => LifecycleManager.transition now c next with
    ⟨-, h⟩ | ⟨c, e, -, -, h⟩ | ⟨c, c', hc, hc', h⟩ <;> simp only [transition, h]
  · exact .refl
  · exact .refl
  · exact .single (change_transition hc hc')

theorem changes_evaluate (inv : CertificateInventory) (clock : LifecycleManager.EvaluationClock)
    (id : Uuid) : ReflTransGen Change inv (inv.evaluate clock id).2 := by
  rcases inv.modify_cases id (LifecycleManager.evaluate clock) with
    ⟨-, h⟩ | ⟨c, e, -, -, h⟩ | ⟨c, c', hc, hc', h⟩ <;> simp only [evaluate, h]
  · exact .refl
  · exact .refl
  · exact .single (change_evaluate hc hc')

/-- The evaluation loop changes one certificate after the other, as far as it gets. -/
theorem changes_evaluateLoop (clock : Uuid → LifecycleManager.EvaluationClock) (ids : List Uuid)
    (n : ℕ) (inv : CertificateInventory) :
    ReflTransGen Change inv (evaluateLoop clock ids n inv).2 := by
  induction ids generalizing n inv with
  | nil => exact .refl
  | cons id ids ih =>
    cases hc : inv.certificates.lookup id with
    | none => simp only [evaluateLoop, hc, ReflTransGen.refl]
    | some c =>
      cases he : LifecycleManager.evaluate (clock id) c with
      | error e => simp only [evaluateLoop, hc, he, ReflTransGen.refl]
      | ok c' =>
        rw [evaluateLoop_cons_ok hc he]
        exact (ih _ _).head (change_evaluate hc he)

theorem changes_remove (inv : CertificateInventory) (id : Uuid) :
    ReflTransGen Change inv (inv.remove id).2 := by
  rw [remove]
  split
  · exact .refl
  · exact .single (.untrack ‹_›)

theorem updates_register (inv : CertificateInventory) (c : CertificateMetadata) :
    ReflTransGen Update inv (inv.register c).2 := by
  by_cases h : inv.Accepts c
  · rw [register_of_accepts h]
    exact .single (.track h)
  · obtain ⟨e, he, -⟩ := register_of_not_accepts h
    rw [he]

theorem updates_registerRenewal (inv : CertificateInventory) (now : OffsetDateTime)
    (previousId : Uuid) (replacement : CertificateMetadata) :
    ReflTransGen Update inv (inv.registerRenewal now previousId replacement).2 := by
  rcases inv.registerRenewal_cases now previousId replacement with
    ⟨e, he, -⟩ | ⟨c, c', hc, hc', h⟩
  · rw [he]
  · rw [h]
    exact (updates_register _ _).head (.change (change_transition hc hc'))

/-- **Every call is a sequence of updates**, whether it succeeds or fails. -/
theorem updates_after (inv : CertificateInventory) (call : InventoryCall) :
    ReflTransGen Update inv (inv.after call) := by
  have hlift {inv'} (h : ReflTransGen Change inv inv') : ReflTransGen Update inv inv' :=
    h.lift id fun _ _ => .change
  cases call with
  | register c => exact updates_register inv c
  | registerRenewal now id c => exact updates_registerRenewal inv now id c
  | remove id => exact hlift (changes_remove inv id)
  | revoke now id => exact hlift (changes_transition inv now id .revoked)
  | markRenewed now id => exact hlift (changes_transition inv now id .renewed)
  | evaluateLifecycle clock iteration => exact hlift (changes_evaluateLoop clock _ 0 inv)
  | transition now id next => exact hlift (changes_transition inv now id next)
  | evaluate clock id => exact hlift (changes_evaluate inv clock id)

/-- What every step of a sequence keeps, the sequence keeps. -/
theorem keeps {R : CertificateInventory → CertificateInventory → Prop}
    {I : CertificateInventory → Prop} (hI : ∀ inv inv', I inv → R inv inv' → I inv') (h : I inv)
    (hsteps : ReflTransGen R inv inv') : I inv' := by
  induction hsteps with
  | refl => exact h
  | tail _ hstep ih => exact hI _ _ ih hstep

/-! ### The representation invariant -/

/-- Certificates stand under their identifiers. -/
def IdsMatch (inv : CertificateInventory) : Prop :=
  ∀ id c, inv.certificates.lookup id = some c → c.id = id

theorem idsMatch_new : new.IdsMatch := fun id c h => by simp [new] at h

theorem IdsMatch.track (h : inv.IdsMatch) (c : CertificateMetadata) :
    (inv.track c).IdsMatch := by
  intro id d hd
  rw [lookup_track] at hd
  split_ifs at hd with hid
  · rw [← Option.some.inj hd, hid]
  · exact h id d hd

theorem IdsMatch.put (h : inv.IdsMatch) (hc : inv.certificates.lookup id = some c)
    (hid : c'.id = c.id) : (inv.put id c').IdsMatch := by
  intro k d hd
  rw [lookup_put] at hd
  split_ifs at hd with hk
  · rw [← Option.some.inj hd, hid, hk]
    exact h id c hc
  · exact h k d hd

theorem IdsMatch.change (h : inv.IdsMatch) (hchange : Change inv inv') : inv'.IdsMatch := by
  cases hchange with
  | untrack _ =>
    intro k d hd
    rw [lookup_untrack] at hd
    split_ifs at hd
    exact h k d hd
  | put hc hrestates _ => exact h.put hc hrestates.id_eq

theorem IdsMatch.update (h : inv.IdsMatch) (hupdate : Update inv inv') : inv'.IdsMatch := by
  cases hupdate with
  | track _ => exact h.track _
  | change hchange => exact h.change hchange

/-- The representation invariant: certificates stand under their identifiers, the serial index
is exact, and every entry of the fingerprint index is right. -/
structure WellFormed (inv : CertificateInventory) : Prop where
  id_eq : ∀ id c, inv.certificates.lookup id = some c → c.id = id
  serials : IsIndex inv.serialIndex inv.certificates fun c => some c.serialNumber
  fingerprints : IsSoundIndex inv.fingerprintIndex inv.certificates fun c => c.fingerprintSha256

theorem wellFormed_new : new.WellFormed where
  id_eq := idsMatch_new
  serials := isIndex_empty
  fingerprints := isIndex_empty.isSoundIndex

theorem WellFormed.track (h : inv.WellFormed) (hc : inv.Accepts c) : (inv.track c).WellFormed where
  id_eq := IdsMatch.track h.id_eq c
  serials := by
    refine h.serials.insert_some (lookup_eq_none_of_accepts hc) rfl ?_
    exact h.serials.lookup_eq_none.mp (Finmap.lookup_eq_none.mpr hc.2)
  fingerprints := by
    cases hf : c.fingerprintSha256 with
    | none =>
      simp only [CertificateInventory.track, hf]
      exact h.fingerprints.insert_none (lookup_eq_none_of_accepts hc)
    | some f =>
      simp only [CertificateInventory.track, hf]
      exact h.fingerprints.insert_some (lookup_eq_none_of_accepts hc) hf

theorem WellFormed.change (h : inv.WellFormed) (hchange : Change inv inv') : inv'.WellFormed := by
  have hids : inv'.IdsMatch := IdsMatch.change h.id_eq hchange
  cases hchange with
  | @untrack id c hc =>
    refine ⟨hids, h.serials.erase_some hc rfl, ?_⟩
    cases hf : c.fingerprintSha256 with
    | none =>
      simp only [untrack, hf]
      exact h.fingerprints.erase_none hc hf
    | some f =>
      simp only [untrack, hf]
      exact h.fingerprints.erase_some hc hf
  | put hc hrestates _ =>
    refine ⟨hids, h.serials.replace hc ?_, h.fingerprints.replace hc ?_⟩
    · rw [hrestates.serialNumber_eq]
    · exact hrestates.fingerprintSha256_eq

theorem WellFormed.update (h : inv.WellFormed) (hupdate : Update inv inv') : inv'.WellFormed := by
  cases hupdate with
  | track hc => exact h.track hc
  | change hchange => exact h.change hchange

theorem WellFormed.after (h : inv.WellFormed) (call : InventoryCall) :
    (inv.after call).WellFormed :=
  keeps (fun _ _ => WellFormed.update) h (updates_after inv call)

/-- **The representation invariant holds along every run.** -/
theorem wellFormed_of_run (run : inventorySystem.Run new inv) : inv.WellFormed :=
  run.invariant (fun _ call _ h hstep => hstep ▸ h.after call) wellFormed_new

/-! ### Lookups and counts of a well-formed inventory -/

namespace WellFormed

theorem findBySerial_eq_ok_iff (h : inv.WellFormed) {serial : String} :
    inv.findBySerial serial = .ok c ↔
      ∃ id, inv.certificates.lookup id = some c ∧ c.serialNumber = serial := by
  rw [findBySerial]
  cases hserial : inv.serialIndex.lookup serial with
  | none =>
    refine iff_of_false (by simp) fun ⟨id, hid, hs⟩ => ?_
    exact h.serials.lookup_eq_none.mp hserial id c hid (congrArg some hs)
  | some id =>
    obtain ⟨d, hd, hds⟩ := (h.serials serial id).mp hserial
    simp only [get_eq_ok_iff]
    refine ⟨fun hc => ⟨id, hc, ?_⟩, fun ⟨id', hid', hs⟩ => ?_⟩
    · obtain rfl : d = c := Option.some.inj (hd.symm.trans hc)
      exact Option.some.inj hds
    · rwa [h.serials.key_unique hd hid' hds (congrArg some hs)]

theorem findBySerial_eq_notFound (h : inv.WellFormed) {serial : String}
    (hnone : ∀ id c, inv.certificates.lookup id = some c → c.serialNumber ≠ serial) :
    inv.findBySerial serial = .error (.notFound Uuid.nil) := by
  have hserial : inv.serialIndex.lookup serial = none :=
    h.serials.lookup_eq_none.mpr fun id c hc hs => hnone id c hc (Option.some.inj hs)
  rw [findBySerial, hserial]

/-- Both lookups by fingerprint succeed on the same fingerprints, with the same certificate. -/
theorem idByFingerprint_eq_ok_iff (h : inv.WellFormed) {fingerprint : String} :
    inv.idByFingerprint fingerprint = .ok id ↔
      ∃ c, inv.findByFingerprint fingerprint = .ok c ∧ c.id = id := by
  rw [idByFingerprint, findByFingerprint]
  cases hf : inv.fingerprintIndex.lookup fingerprint with
  | none => simp
  | some k =>
    obtain ⟨c, hc, -⟩ := h.fingerprints fingerprint k hf
    simp only [Except.ok.injEq, get_eq_ok_iff, hc, Option.some.injEq, exists_eq_left',
      h.id_eq k c hc]

theorem len_serialIndex (h : inv.WellFormed) : inv.serialIndex.len = inv.len :=
  h.serials.len_eq fun _ => rfl

end WellFormed

theorem total_increment (counts : InventoryStateCounts) (state : CertificateState) :
    (counts.increment state).total = counts.total + 1 := by
  cases state <;> simp only [InventoryStateCounts.increment, InventoryStateCounts.total] <;> omega

theorem count_increment (counts : InventoryStateCounts) (s t : CertificateState) :
    (counts.increment s).count t = counts.count t + if s = t then 1 else 0 := by
  cases s <;> cases t <;> rfl

/-- The loop of `state_counts` adds one to the total for every certificate, and one to the count
of its state. -/
theorem foldl_increment (l : List CertificateMetadata) (counts : InventoryStateCounts) :
    (l.foldl (fun counts c => counts.increment c.state) counts).total =
        counts.total + l.length ∧
      ∀ state, (l.foldl (fun counts c => counts.increment c.state) counts).count state =
        counts.count state + (l.filter fun c => c.state = state).length := by
  induction l generalizing counts with
  | nil => exact ⟨rfl, fun _ => rfl⟩
  | cons c l ih =>
    obtain ⟨htotal, hcount⟩ := ih (counts.increment c.state)
    refine ⟨?_, fun state => ?_⟩
    · rw [List.foldl_cons, htotal, total_increment, List.length_cons]
      omega
    · rw [List.foldl_cons, hcount, count_increment]
      by_cases h : c.state = state
      · simp only [h, if_true, List.filter_cons, decide_true, List.length_cons]
        omega
      · simp only [h, if_false, List.filter_cons, decide_false, Bool.false_eq_true, add_zero]

theorem total_stateCounts (order : inv.certificates.Order) :
    (inv.stateCounts order).total = inv.len := by
  rw [stateCounts, (foldl_increment _ _).1, order.length_values]
  exact Nat.zero_add _

/-- The count of a state is the number of certificates in it, in whatever orders the table is
visited for the one and for the other. -/
theorem count_stateCounts (order order' : inv.certificates.Order) (state : CertificateState) :
    (inv.stateCounts order).count state = (inv.byState order' state).length := by
  have hzero : InventoryStateCounts.default.count state = 0 := by cases state <;> rfl
  rw [stateCounts, (foldl_increment _ _).2, hzero, Nat.zero_add, byState]
  exact ((order.values_perm order').filter _).length_eq

/-- **The indexes and the counts along every run.** After any sequence of calls the serial index
is exact and `find_by_serial` decides by it; every fingerprint entry is right and both lookups
by fingerprint agree; the length, the serial index and the counts have the same size. -/
theorem indexes_of_run (run : inventoryMethods.Run new inv) :
    (∀ id c, inv.certificates.lookup id = some c → c.id = id) ∧
      (∀ serial id, inv.serialIndex.lookup serial = some id ↔
        ∃ c, inv.certificates.lookup id = some c ∧ c.serialNumber = serial) ∧
      (∀ id id' c c', inv.certificates.lookup id = some c →
        inv.certificates.lookup id' = some c' → c.serialNumber = c'.serialNumber → id = id') ∧
      (∀ serial c, inv.findBySerial serial = .ok c ↔
        ∃ id, inv.certificates.lookup id = some c ∧ c.serialNumber = serial) ∧
      (∀ serial, (∀ id c, inv.certificates.lookup id = some c → c.serialNumber ≠ serial) →
        inv.findBySerial serial = .error (.notFound Uuid.nil)) ∧
      (∀ fingerprint id, inv.fingerprintIndex.lookup fingerprint = some id →
        ∃ c, inv.certificates.lookup id = some c ∧ c.fingerprintSha256 = some fingerprint) ∧
      (∀ fingerprint id, inv.idByFingerprint fingerprint = .ok id ↔
        ∃ c, inv.findByFingerprint fingerprint = .ok c ∧ c.id = id) ∧
      inv.len = inv.serialIndex.len ∧
      ∀ order : inv.certificates.Order, (inv.stateCounts order).total = inv.len ∧
        ∀ state (order' : inv.certificates.Order),
          (inv.stateCounts order).count state = (inv.byState order' state).length := by
  have h : inv.WellFormed := wellFormed_of_run run.ofRestrict
  refine ⟨h.id_eq, fun serial id => ?_, fun id id' c c' hc hc' hs => ?_, fun serial c => ?_,
    fun serial hnone => h.findBySerial_eq_notFound hnone, h.fingerprints,
    fun fingerprint id => h.idByFingerprint_eq_ok_iff, h.len_serialIndex.symm, fun order => ?_⟩
  · simpa only [Option.some.injEq] using h.serials serial id
  · exact h.serials.key_unique hc hc' rfl (congrArg some hs.symm)
  · exact h.findBySerial_eq_ok_iff
  · exact ⟨total_stateCounts order, fun state order' => count_stateCounts order order' state⟩

/-- An active certificate with a fingerprint, valid for ninety days from the epoch. -/
def sampleCertificate (id : Uuid) (serialNumber fingerprint : String) : CertificateMetadata :=
  { CertificateMetadata.new id 0 serialNumber "intermediate" "workload"
      ⟨some "workload", [], [], true, false⟩ 0 7776000000000000 with
    fingerprintSha256 := some fingerprint }

theorem indexes_of_run_register :
    (new.after (.register (sampleCertificate 1 "01" "aa"))).findBySerial "01" =
      .ok (sampleCertificate 1 "01" "aa") :=
  ((indexes_of_run (runAfter .nil (.register (sampleCertificate 1 "01" "aa"))
    trivial)).2.2.2.1 "01" _).mpr ⟨1, by decide, rfl⟩

/-! ### Fingerprints -/

/-- A tracked certificate carries the fingerprint of `certificate`. -/
def FingerprintInUse (inv : CertificateInventory) (certificate : CertificateMetadata) : Prop :=
  ∃ fingerprint id c, certificate.fingerprintSha256 = some fingerprint ∧
    inv.certificates.lookup id = some c ∧ c.fingerprintSha256 = some fingerprint

/-- The call enters a certificate whose fingerprint is in use: `register` is given one that it
accepts, or the renewal of a certificate that can be moved to `Renewed` is given such a
replacement. -/
def EntersFingerprintInUse (inv : CertificateInventory) : InventoryCall → Prop
  | .register certificate => inv.Accepts certificate ∧ inv.FingerprintInUse certificate
  | .registerRenewal _ previousId replacement =>
      (∃ previous, inv.certificates.lookup previousId = some previous ∧
        (previous.state = .renewalPending ∨ previous.state = .renewed)) ∧
      inv.Accepts replacement ∧ inv.FingerprintInUse replacement
  | _ => False

/-- No two tracked certificates carry the same fingerprint, and every tracked certificate is
found by the fingerprint that it carries. -/
def FingerprintsFindable (inv : CertificateInventory) : Prop :=
  (∀ id id' c c' fingerprint, inv.certificates.lookup id = some c →
    inv.certificates.lookup id' = some c' → c.fingerprintSha256 = some fingerprint →
    c'.fingerprintSha256 = some fingerprint → id = id') ∧
  ∀ id c fingerprint, inv.certificates.lookup id = some c →
    c.fingerprintSha256 = some fingerprint →
    inv.findByFingerprint fingerprint = .ok c ∧ inv.idByFingerprint fingerprint = .ok c.id

/-- The fingerprint index is complete. -/
abbrev FingerprintsIndexed (inv : CertificateInventory) : Prop :=
  IsIndex inv.fingerprintIndex inv.certificates fun c => c.fingerprintSha256

theorem idByFingerprint_eq_ok {fingerprint : String} :
    inv.idByFingerprint fingerprint = .ok id ↔
      inv.fingerprintIndex.lookup fingerprint = some id := by
  rw [idByFingerprint]
  cases inv.fingerprintIndex.lookup fingerprint <;> simp

theorem WellFormed.fingerprintsFindable_iff (h : inv.WellFormed) :
    inv.FingerprintsFindable ↔ inv.FingerprintsIndexed := by
  refine ⟨fun hfind fingerprint id => ⟨h.fingerprints fingerprint id, fun ⟨c, hc, hf⟩ => ?_⟩,
    fun hidx => ⟨fun id id' c c' f hc hc' hf hf' => hidx.key_unique hc hc' hf hf',
      fun id c f hc hf => ?_⟩⟩
  · have hid := (hfind.2 id c fingerprint hc hf).2
    rwa [idByFingerprint_eq_ok, h.id_eq id c hc] at hid
  · have hlookup : inv.fingerprintIndex.lookup f = some id := (hidx f id).mpr ⟨c, hc, hf⟩
    rw [findByFingerprint, hlookup, idByFingerprint_eq_ok, h.id_eq id c hc]
    exact ⟨get_eq_ok_iff.mpr hc, hlookup⟩

/-- A change that enters no certificate keeps the fingerprint index complete. -/
theorem FingerprintsIndexed.change (h : inv.FingerprintsIndexed) (hchange : Change inv inv') :
    inv'.FingerprintsIndexed := by
  cases hchange with
  | @untrack id c hc =>
    cases hf : c.fingerprintSha256 with
    | none =>
      simp only [FingerprintsIndexed, untrack, hf]
      exact h.erase_none hc hf
    | some f =>
      simp only [FingerprintsIndexed, untrack, hf]
      exact h.erase_some hc hf
  | put hc hrestates _ => exact h.replace hc hrestates.fingerprintSha256_eq

theorem FingerprintsIndexed.changes (h : inv.FingerprintsIndexed)
    (hchanges : ReflTransGen Change inv inv') : inv'.FingerprintsIndexed :=
  keeps (fun _ _ => FingerprintsIndexed.change) h hchanges

/-- A registration keeps the fingerprint index complete exactly when it does not accept a
certificate whose fingerprint is in use. -/
theorem fingerprintsIndexed_register_iff (h : inv.FingerprintsIndexed) :
    (inv.register c).2.FingerprintsIndexed ↔ ¬(inv.Accepts c ∧ inv.FingerprintInUse c) := by
  by_cases hc : inv.Accepts c
  · simp only [register_of_accepts hc, hc, true_and]
    refine ⟨fun hidx ⟨f, id, d, hf, hd, hdf⟩ => ?_, fun hfresh => ?_⟩
    · have hne : id ≠ c.id := fun e => hc.1 (e ▸ Finmap.mem_of_lookup_eq_some hd)
      have hself : (inv.track c).certificates.lookup c.id = some c := by
        rw [lookup_track, if_pos rfl]
      have hother : (inv.track c).certificates.lookup id = some d := by
        rw [lookup_track, if_neg hne, hd]
      exact hne (hidx.key_unique hother hself hdf hf)
    · cases hf : c.fingerprintSha256 with
      | none =>
        simp only [FingerprintsIndexed, track, hf]
        exact h.insert_none (lookup_eq_none_of_accepts hc) hf
      | some f =>
        simp only [FingerprintsIndexed, track, hf]
        exact h.insert_some (lookup_eq_none_of_accepts hc) hf
          fun k d hd hdf => hfresh ⟨f, k, d, hf, hd, hdf⟩
  · obtain ⟨e, he, -⟩ := register_of_not_accepts hc
    exact iff_of_true (by rwa [he]) fun hacc => hc hacc.1

theorem fingerprintInUse_put_iff (h : inv.certificates.lookup id = some c) (hc : c.Restates c')
    {d : CertificateMetadata} :
    (inv.put id c').FingerprintInUse d ↔ inv.FingerprintInUse d := by
  refine exists_congr fun f => exists_congr fun k => ?_
  simp only [exists_and_left]
  exact and_congr_right fun _ => exists_lookup_replace h hc.fingerprintSha256_eq f k

/-- **A call keeps the fingerprint index complete** exactly when it does not enter a certificate
whose fingerprint is in use. -/
theorem fingerprintsIndexed_after_iff (h : inv.FingerprintsIndexed) (call : InventoryCall) :
    (inv.after call).FingerprintsIndexed ↔ ¬inv.EntersFingerprintInUse call := by
  cases call with
  | register c => exact fingerprintsIndexed_register_iff h
  | registerRenewal now previousId replacement =>
    rcases inv.registerRenewal_cases now previousId replacement with
      ⟨e, he, herror⟩ | ⟨c, c', hc, hc', hregister⟩
    · simp only [after, he]
      refine iff_of_true h fun ⟨⟨c, hc, hstate⟩, _⟩ => ?_
      obtain ⟨e', he', -⟩ := herror c hc
      exact not_renewable_of_error he' hstate
    · have hstate := LifecycleManager.exists_transition_renewed_iff.mp ⟨c', hc'⟩
      have hprevious : ∃ previous, inv.certificates.lookup previousId = some previous ∧
          (previous.state = .renewalPending ∨ previous.state = .renewed) := ⟨c, hc, hstate⟩
      simp only [after, hregister, EntersFingerprintInUse, hprevious, true_and]
      rw [fingerprintsIndexed_register_iff (h.change (change_transition hc hc'))]
      have haccepts : (inv.put previousId c').Accepts (successor c' replacement) ↔
          inv.Accepts replacement := accepts_put_iff hc
      have hinUse : (inv.put previousId c').FingerprintInUse (successor c' replacement) ↔
          inv.FingerprintInUse replacement :=
        fingerprintInUse_put_iff hc (LifecycleManager.restates_of_transition hc')
      rw [haccepts, hinUse]
  | remove id => exact iff_of_true (h.changes (changes_remove inv id)) not_false
  | revoke now id =>
    exact iff_of_true (h.changes (changes_transition inv now id .revoked)) not_false
  | markRenewed now id =>
    exact iff_of_true (h.changes (changes_transition inv now id .renewed)) not_false
  | evaluateLifecycle clock iteration =>
    exact iff_of_true (h.changes (changes_evaluateLoop clock _ 0 inv)) not_false
  | transition now id next =>
    exact iff_of_true (h.changes (changes_transition inv now id next)) not_false
  | evaluate clock id => exact iff_of_true (h.changes (changes_evaluate inv clock id)) not_false

/-- **When fingerprints are unique and findable.** Along a run of the methods from the empty
inventory, the fingerprints are unique and findable after every call exactly when no call enters
a certificate whose fingerprint is in use. -/
theorem fingerprintsFindable_iff_of_run (run : inventoryMethods.Run new inv) :
    run.AllStates FingerprintsFindable ↔
      run.AllSteps fun inv call => ¬inv.EntersFingerprintInUse call := by
  have hwf : ∀ u call v, WellFormed u → inventoryMethods.step u call v → v.WellFormed :=
    fun u call v h hstep => hstep.2 ▸ h.after call
  refine run.allStates_iff_allSteps hwf (fun u call v h hfind hstep => ?_) wellFormed_new
    (wellFormed_new.fingerprintsFindable_iff.mpr isIndex_empty)
  have hidx : u.FingerprintsIndexed := h.fingerprintsFindable_iff.mp hfind
  rw [(hwf u call v h hstep).fingerprintsFindable_iff, hstep.2]
  exact fingerprintsIndexed_after_iff hidx call

/-- Two certificates with one fingerprint, registered one after the other. -/
def collision : CertificateInventory :=
  (new.after (.register (sampleCertificate 1 "01" "aa"))).after
    (.register (sampleCertificate 2 "02" "aa"))

/-- The second registration is accepted, and the first certificate is no longer found. -/
theorem not_fingerprintsFindable_collision :
    Nonempty (inventoryMethods.Run new collision) ∧
      ((new.after (.register (sampleCertificate 1 "01" "aa"))).register
        (sampleCertificate 2 "02" "aa")).1 = .ok 2 ∧
      collision.findByFingerprint "aa" = .ok (sampleCertificate 2 "02" "aa") ∧
      ¬collision.FingerprintsFindable := by
  have first := runAfter .nil (.register (sampleCertificate 1 "01" "aa")) trivial
  have second := runAfter first (.register (sampleCertificate 2 "02" "aa")) trivial
  refine ⟨⟨second⟩, by decide, by decide, fun h => ?_⟩
  have hid : (1 : Uuid) = 2 := h.1 1 2 (sampleCertificate 1 "01" "aa")
    (sampleCertificate 2 "02" "aa") "aa" (by decide) (by decide) rfl rfl
  exact absurd hid (by decide)

end CertificateInventory

end DaemonPki
