import DaemonPki.Certificate.Lifecycle
import DaemonPki.Foundation.Index

/-!
# The certificate inventory

The central inventory of certificate metadata
(`daemon-pki-core/src/certificate/inventory.rs`): the table of the certificates and two indexes,
by serial number and by fingerprint, maintained by hand in every operation.

A method that takes `&mut self` and returns a `Result` is modelled as a function to the result
and the inventory it leaves behind, which after an error need not be the inventory before. A
method that iterates over the table takes the order in which the table happens to be visited.

## Main definitions

* `DaemonPki.CertificateInventory` with `register`, `registerRenewal`, `remove`, `revoke`,
  `markRenewed`, `evaluateLifecycle`, the lookups and the counts.
* `DaemonPki.CertificateInventory.Accepts`: what `register` checks.

## Main results

* `DaemonPki.CertificateInventory.register_of_accepts`,
  `DaemonPki.CertificateInventory.modify_cases`,
  `DaemonPki.CertificateInventory.registerRenewal_cases`: what each operation can do.
* `DaemonPki.CertificateInventory.evaluateLoop_lookup`: the evaluation of a list of certificates
  evaluates each of them at most once and touches no other.
* `DaemonPki.CertificateInventory.evaluateLoop_isOk_iff`: when it completes.
-/

namespace DaemonPki

open Foundation

/-- Source: `inventory.rs`, lines 8–24. -/
inductive InventoryError
  | alreadyExists (id : Uuid)
  | notFound (id : Uuid)
  | duplicateSerial (serial : String)
  | duplicateFingerprint (fingerprint : String)
  | lifecycle (error : LifecycleError)
  deriving DecidableEq, Repr

/-- The table of the tracked certificates and its two indexes. Source: `inventory.rs`,
lines 30–35. -/
structure CertificateInventory where
  certificates : HashMap Uuid CertificateMetadata
  serialIndex : HashMap String Uuid
  fingerprintIndex : HashMap String Uuid
  deriving DecidableEq

namespace CertificateInventory

/-- Source: `inventory.rs`, lines 38–44. -/
def new : CertificateInventory := ⟨∅, ∅, ∅⟩

/-! ### Registration and removal -/

/-- Enter a certificate under its identifier, its serial number and its fingerprint, replacing
whatever stands there. Source: `inventory.rs`, lines 64–68. -/
def track (inv : CertificateInventory) (certificate : CertificateMetadata) :
    CertificateInventory where
  certificates := inv.certificates.insert certificate.id certificate
  serialIndex := inv.serialIndex.insert certificate.serialNumber certificate.id
  fingerprintIndex :=
    match certificate.fingerprintSha256 with
    | some fingerprint => inv.fingerprintIndex.insert fingerprint certificate.id
    | none => inv.fingerprintIndex

/-- Register a new certificate. Source: `inventory.rs`, lines 46–71. -/
def register (inv : CertificateInventory) (certificate : CertificateMetadata) :
    Except InventoryError Uuid × CertificateInventory :=
  let id := certificate.id
  let serial := certificate.serialNumber
  if id ∈ inv.certificates then (.error (.alreadyExists id), inv)
  else if serial ∈ inv.serialIndex then (.error (.duplicateSerial serial), inv)
  else (.ok id, inv.track certificate)

/-- Drop the entry of `id` from the table, and the entries of its serial number and of its
fingerprint from the indexes. -/
def untrack (inv : CertificateInventory) (id : Uuid) (certificate : CertificateMetadata) :
    CertificateInventory where
  certificates := inv.certificates.erase id
  serialIndex := inv.serialIndex.erase certificate.serialNumber
  fingerprintIndex :=
    match certificate.fingerprintSha256 with
    | some fingerprint => inv.fingerprintIndex.erase fingerprint
    | none => inv.fingerprintIndex

/-- Remove a certificate. Source: `inventory.rs`, lines 166–184. -/
def remove (inv : CertificateInventory) (id : Uuid) :
    Except InventoryError CertificateMetadata × CertificateInventory :=
  match inv.certificates.lookup id with
  | none => (.error (.notFound id), inv)
  | some certificate => (.ok certificate, inv.untrack id certificate)

/-! ### Lookups -/

/-- Source: `inventory.rs`, lines 103–111. -/
def get (inv : CertificateInventory) (id : Uuid) : Except InventoryError CertificateMetadata :=
  match inv.certificates.lookup id with
  | some certificate => .ok certificate
  | none => .error (.notFound id)

/-- Source: `inventory.rs`, lines 124–139. -/
def findBySerial (inv : CertificateInventory) (serial : String) :
    Except InventoryError CertificateMetadata :=
  match inv.serialIndex.lookup serial with
  | some id => inv.get id
  | none => .error (.notFound Uuid.nil)

/-- Source: `inventory.rs`, lines 142–153. -/
def findByFingerprint (inv : CertificateInventory) (fingerprint : String) :
    Except InventoryError CertificateMetadata :=
  match inv.fingerprintIndex.lookup fingerprint with
  | some id => inv.get id
  | none => .error (.notFound Uuid.nil)

/-- Source: `inventory.rs`, lines 156–164. -/
def idByFingerprint (inv : CertificateInventory) (fingerprint : String) :
    Except InventoryError Uuid :=
  match inv.fingerprintIndex.lookup fingerprint with
  | some id => .ok id
  | none => .error (.notFound Uuid.nil)

/-! ### Writing through `get_mut` -/

/-- Write `certificate` at the entry of `id`. -/
def put (inv : CertificateInventory) (id : Uuid) (certificate : CertificateMetadata) :
    CertificateInventory :=
  { inv with certificates := inv.certificates.insert id certificate }

/-- Call a lifecycle operation on the reference that `get_mut` returns. -/
def modify (inv : CertificateInventory) (id : Uuid)
    (f : CertificateMetadata → Except LifecycleError CertificateMetadata) :
    Except InventoryError CertificateMetadata × CertificateInventory :=
  match inv.get id with
  | .error e => (.error e, inv)
  | .ok certificate =>
    match f certificate with
    | .error e => (.error (.lifecycle e), inv)
    | .ok certificate' => (.ok certificate', inv.put id certificate')

/-- `LifecycleManager::transition` on the reference that `get_mut` returns. -/
def transition (inv : CertificateInventory) (now : OffsetDateTime) (id : Uuid)
    (next : CertificateState) : Except InventoryError Unit × CertificateInventory :=
  let (result, inv') := inv.modify id fun c => LifecycleManager.transition now c next
  (result.map fun _ => (), inv')

/-- `LifecycleManager::evaluate` on the reference that `get_mut` returns. -/
def evaluate (inv : CertificateInventory) (clock : LifecycleManager.EvaluationClock) (id : Uuid) :
    Except InventoryError CertificateState × CertificateInventory :=
  let (result, inv') := inv.modify id (LifecycleManager.evaluate clock)
  (result.map fun certificate => certificate.state, inv')

/-- Mark a certificate as revoked. Source: `inventory.rs`, lines 249–261. -/
def revoke (inv : CertificateInventory) (now : OffsetDateTime) (id : Uuid) :
    Except InventoryError Unit × CertificateInventory :=
  inv.transition now id .revoked

/-- Mark a certificate as renewed. Source: `inventory.rs`, lines 264–276. -/
def markRenewed (inv : CertificateInventory) (now : OffsetDateTime) (id : Uuid) :
    Except InventoryError Unit × CertificateInventory :=
  inv.transition now id .renewed

/-- The replacement as it is registered: active, with the associations of its predecessor.
Source: `inventory.rs`, lines 94–98. -/
def successor (previous replacement : CertificateMetadata) : CertificateMetadata :=
  { replacement with
    state := .active
    workloadId := previous.workloadId
    deviceId := previous.deviceId
    serviceId := previous.serviceId
    tags := previous.tags }

/-- Replace a certificate by its renewed successor: the predecessor moves to `Renewed`, then the
successor is registered. Source: `inventory.rs`, lines 74–101. -/
def registerRenewal (inv : CertificateInventory) (now : OffsetDateTime) (previousId : Uuid)
    (replacement : CertificateMetadata) : Except InventoryError Uuid × CertificateInventory :=
  match inv.modify previousId fun c => LifecycleManager.transition now c .renewed with
  | (.error e, inv') => (.error e, inv')
  | (.ok previous, inv') => inv'.register (successor previous replacement)

/-! ### Evaluation of the whole inventory -/

/-- The loop of `evaluate_lifecycle` over the identifiers not yet visited. -/
def evaluateLoop (clock : Uuid → LifecycleManager.EvaluationClock) :
    List Uuid → ℕ → CertificateInventory → Except InventoryError ℕ × CertificateInventory
  | [], changed, inv => (.ok changed, inv)
  | id :: ids, changed, inv =>
    match inv.certificates.lookup id with
    | none => (.error (.notFound id), inv)
    | some certificate =>
      match LifecycleManager.evaluate (clock id) certificate with
      | .error e => (.error (.lifecycle e), inv)
      | .ok certificate' =>
        evaluateLoop clock ids
          (if certificate.state ≠ certificate'.state then changed + 1 else changed)
          (inv.put id certificate')

/-- Evaluate the lifecycle state of every certificate, in the order in which the table happens
to be visited; `clock id` are the clock readings of the evaluation of `id`. Source:
`inventory.rs`, lines 220–246. -/
def evaluateLifecycle (inv : CertificateInventory)
    (clock : Uuid → LifecycleManager.EvaluationClock) (order : inv.certificates.Order) :
    Except InventoryError ℕ × CertificateInventory :=
  evaluateLoop clock order.keys 0 inv

/-! ### Listing and counting -/

/-- Source: `inventory.rs`, lines 187–189. -/
def len (inv : CertificateInventory) : ℕ := inv.certificates.len

/-- Source: `inventory.rs`, lines 202–210. -/
def byState (inv : CertificateInventory) (order : inv.certificates.Order)
    (state : CertificateState) : List CertificateMetadata :=
  order.values.filter fun certificate => certificate.state = state

/-- Source: `inventory.rs`, lines 213–218. The reading of the clock for a certificate is
`clock` at its identifier. -/
def renewalCandidates (inv : CertificateInventory) (clock : Uuid → OffsetDateTime)
    (order : inv.certificates.Order) : List CertificateMetadata :=
  order.values.filter fun certificate => certificate.renewalDue (clock certificate.id)

end CertificateInventory

/-- Source: `inventory.rs`, lines 299–307. -/
structure InventoryStateCounts where
  active : ℕ
  expiring : ℕ
  renewalPending : ℕ
  renewed : ℕ
  revoked : ℕ
  expired : ℕ
  deriving DecidableEq, Repr

namespace InventoryStateCounts

/-- Source: `inventory.rs`, lines 299–300, the derived `Default`. -/
def default : InventoryStateCounts := ⟨0, 0, 0, 0, 0, 0⟩

/-- Source: `inventory.rs`, lines 309–318. -/
def total (counts : InventoryStateCounts) : ℕ :=
  counts.active + counts.expiring + counts.renewalPending + counts.renewed + counts.revoked +
    counts.expired

/-- One turn of the loop of `state_counts`. Source: `inventory.rs`, lines 283–292. -/
def increment (counts : InventoryStateCounts) : CertificateState → InventoryStateCounts
  | .active => { counts with active := counts.active + 1 }
  | .expiring => { counts with expiring := counts.expiring + 1 }
  | .renewalPending => { counts with renewalPending := counts.renewalPending + 1 }
  | .renewed => { counts with renewed := counts.renewed + 1 }
  | .revoked => { counts with revoked := counts.revoked + 1 }
  | .expired => { counts with expired := counts.expired + 1 }

/-- The count of one state. -/
def count (counts : InventoryStateCounts) : CertificateState → ℕ
  | .active => counts.active
  | .expiring => counts.expiring
  | .renewalPending => counts.renewalPending
  | .renewed => counts.renewed
  | .revoked => counts.revoked
  | .expired => counts.expired

end InventoryStateCounts

/-- Source: `inventory.rs`, lines 279–297. -/
def CertificateInventory.stateCounts (inv : CertificateInventory)
    (order : inv.certificates.Order) : InventoryStateCounts :=
  order.values.foldl (fun counts certificate => counts.increment certificate.state)
    InventoryStateCounts.default

namespace CertificateInventory

variable {inv : CertificateInventory} {id : Uuid} {c c' : CertificateMetadata}

/-! ### What the operations can do -/

/-- What `register` checks: neither the identifier nor the serial number is in use. -/
def Accepts (inv : CertificateInventory) (certificate : CertificateMetadata) : Prop :=
  certificate.id ∉ inv.certificates ∧ certificate.serialNumber ∉ inv.serialIndex

instance : Decidable (inv.Accepts c) := inferInstanceAs (Decidable (_ ∧ _))

theorem register_of_accepts (h : inv.Accepts c) : inv.register c = (.ok c.id, inv.track c) := by
  rw [register, if_neg h.1, if_neg h.2]

/-- A registration fails with an error of its own, which is none of the lifecycle. -/
theorem register_of_not_accepts (h : ¬inv.Accepts c) :
    ∃ e, inv.register c = (.error e, inv) ∧ ∀ e', e ≠ .lifecycle e' := by
  rw [register]
  by_cases hid : c.id ∈ inv.certificates
  · exact ⟨_, if_pos hid, fun _ => by rintro ⟨⟩⟩
  · have hserial : c.serialNumber ∈ inv.serialIndex := not_not.mp fun hs => h ⟨hid, hs⟩
    exact ⟨_, (if_neg hid).trans (if_pos hserial), fun _ => by rintro ⟨⟩⟩

theorem get_eq_ok_iff : inv.get id = .ok c ↔ inv.certificates.lookup id = some c := by
  rw [get]
  cases inv.certificates.lookup id <;> simp

/-- The three outcomes of a lifecycle operation through `get_mut`. -/
theorem modify_cases (inv : CertificateInventory) (id : Uuid)
    (f : CertificateMetadata → Except LifecycleError CertificateMetadata) :
    (inv.certificates.lookup id = none ∧ inv.modify id f = (.error (.notFound id), inv)) ∨
      (∃ c e, inv.certificates.lookup id = some c ∧ f c = .error e ∧
        inv.modify id f = (.error (.lifecycle e), inv)) ∨
      ∃ c c', inv.certificates.lookup id = some c ∧ f c = .ok c' ∧
        inv.modify id f = (.ok c', inv.put id c') := by
  rw [modify, get]
  cases hc : inv.certificates.lookup id with
  | none => exact Or.inl ⟨rfl, rfl⟩
  | some c =>
    cases hf : f c with
    | error e => exact Or.inr (Or.inl ⟨c, e, rfl, hf, by simp only [hf]⟩)
    | ok c' => exact Or.inr (Or.inr ⟨c, c', rfl, hf, by simp only [hf]⟩)

/-- A renewal fails in its transition and changes nothing, or moves the predecessor to `Renewed`
and goes on to the registration of the successor. -/
theorem registerRenewal_cases (inv : CertificateInventory) (now : OffsetDateTime)
    (previousId : Uuid) (replacement : CertificateMetadata) :
    (∃ e, inv.registerRenewal now previousId replacement = (.error e, inv) ∧
      ∀ c, inv.certificates.lookup previousId = some c → ∃ e',
        LifecycleManager.transition now c .renewed = .error e' ∧ e = .lifecycle e') ∨
      ∃ c c', inv.certificates.lookup previousId = some c ∧
        LifecycleManager.transition now c .renewed = .ok c' ∧
        inv.registerRenewal now previousId replacement =
          (inv.put previousId c').register (successor c' replacement) := by
  rw [registerRenewal]
  rcases inv.modify_cases previousId fun c => LifecycleManager.transition now c .renewed with
    ⟨hnone, h⟩ | ⟨c, e, hc, he, h⟩ | ⟨c, c', hc, hc', h⟩
  · refine Or.inl ⟨_, by rw [h], fun c hc => ?_⟩
    rw [hnone] at hc
    cases hc
  · refine Or.inl ⟨_, by rw [h], fun c₁ hc₁ => ⟨e, ?_, rfl⟩⟩
    obtain rfl : c = c₁ := Option.some.inj (hc.symm.trans hc₁)
    exact he
  · exact Or.inr ⟨c, c', hc, hc', by rw [h]⟩

/-- A certificate whose transition to `Renewed` fails is in no state that can be renewed. -/
theorem not_renewable_of_error {now : OffsetDateTime} {e : LifecycleError}
    (h : LifecycleManager.transition now c .renewed = .error e) :
    ¬(c.state = .renewalPending ∨ c.state = .renewed) := by
  intro hstate
  obtain ⟨c', hc'⟩ := LifecycleManager.exists_transition_renewed_iff.mpr hstate
  cases h.symm.trans hc'

/-! ### Lookups after an update -/

theorem lookup_put (inv : CertificateInventory) (id k : Uuid) (c : CertificateMetadata) :
    (inv.put id c).certificates.lookup k =
      if k = id then some c else inv.certificates.lookup k :=
  HashMap.lookup_insert_eq_ite id k c

theorem lookup_track (inv : CertificateInventory) (c : CertificateMetadata) (k : Uuid) :
    (inv.track c).certificates.lookup k =
      if k = c.id then some c else inv.certificates.lookup k :=
  HashMap.lookup_insert_eq_ite c.id k c

theorem lookup_untrack (inv : CertificateInventory) (id k : Uuid) (c : CertificateMetadata) :
    (inv.untrack id c).certificates.lookup k =
      if k = id then none else inv.certificates.lookup k :=
  HashMap.lookup_erase_eq_ite id k

theorem lookup_eq_none_of_accepts (h : inv.Accepts c) : inv.certificates.lookup c.id = none :=
  Finmap.lookup_eq_none.mpr h.1

/-- Writing back the certificate that is there changes nothing. -/
theorem put_lookup_self (h : inv.certificates.lookup id = some c) : inv.put id c = inv := by
  rw [put, HashMap.insert_lookup_self h]

/-- Whether a certificate is accepted does not depend on the state of the tracked ones. -/
theorem accepts_put_iff (h : inv.certificates.lookup id = some c) {d : CertificateMetadata} :
    (inv.put id c').Accepts d ↔ inv.Accepts d := by
  have hid : id ∈ inv.certificates := Finmap.mem_of_lookup_eq_some h
  simp only [Accepts, put, Finmap.mem_insert, not_or]
  refine ⟨fun hd => ⟨hd.1.2, hd.2⟩, fun hd => ⟨⟨?_, hd.1⟩, hd.2⟩⟩
  rintro rfl
  exact hd.1 hid

/-- The successor is registered exactly when the replacement could be before its predecessor was
moved. -/
theorem register_successor_cases (hc : inv.certificates.lookup id = some c)
    (c' replacement : CertificateMetadata) :
    (inv.Accepts replacement ∧ (inv.put id c').register (successor c' replacement) =
        (.ok replacement.id, (inv.put id c').track (successor c' replacement))) ∨
      (¬inv.Accepts replacement ∧
        ∃ e, (inv.put id c').register (successor c' replacement) = (.error e, inv.put id c') ∧
          ∀ e', e ≠ .lifecycle e') := by
  have haccepts : (inv.put id c').Accepts (successor c' replacement) ↔ inv.Accepts replacement :=
    accepts_put_iff hc
  rw [← haccepts]
  by_cases hacc : (inv.put id c').Accepts (successor c' replacement)
  · exact Or.inl ⟨hacc, register_of_accepts hacc⟩
  · exact Or.inr ⟨hacc, register_of_not_accepts hacc⟩

/-! ### The evaluation loop -/

section Loop

variable {clock : Uuid → LifecycleManager.EvaluationClock}

theorem evaluateLoop_cons_ok {ids : List Uuid} {n : ℕ}
    (hc : inv.certificates.lookup id = some c)
    (he : LifecycleManager.evaluate (clock id) c = .ok c') :
    evaluateLoop clock (id :: ids) n inv =
      evaluateLoop clock ids (if c.state ≠ c'.state then n + 1 else n) (inv.put id c') := by
  simp only [evaluateLoop, hc, he]

/-- The loop evaluates the certificates of its list at most once each, and touches no other
certificate and no index. -/
theorem evaluateLoop_lookup (clock : Uuid → LifecycleManager.EvaluationClock) {ids : List Uuid}
    (hnodup : ids.Nodup) (n : ℕ) (inv : CertificateInventory) :
    (evaluateLoop clock ids n inv).2.serialIndex = inv.serialIndex ∧
      (evaluateLoop clock ids n inv).2.fingerprintIndex = inv.fingerprintIndex ∧
      ∀ k, (evaluateLoop clock ids n inv).2.certificates.lookup k = inv.certificates.lookup k ∨
        k ∈ ids ∧ ∃ c c', inv.certificates.lookup k = some c ∧
          LifecycleManager.evaluate (clock k) c = .ok c' ∧
          (evaluateLoop clock ids n inv).2.certificates.lookup k = some c' := by
  induction ids generalizing n inv with
  | nil => exact ⟨rfl, rfl, fun k => Or.inl rfl⟩
  | cons id ids ih =>
    obtain ⟨hid, hnodup⟩ := List.nodup_cons.mp hnodup
    cases hc : inv.certificates.lookup id with
    | none => simp only [evaluateLoop, hc, true_or, implies_true, and_self]
    | some c =>
      cases he : LifecycleManager.evaluate (clock id) c with
      | error e => simp only [evaluateLoop, hc, he, true_or, implies_true, and_self]
      | ok c' =>
        rw [evaluateLoop_cons_ok hc he]
        obtain ⟨hserial, hfingerprint, hlookup⟩ :=
          ih hnodup (if c.state ≠ c'.state then n + 1 else n) (inv.put id c')
        refine ⟨hserial, hfingerprint, fun k => ?_⟩
        by_cases hk : k = id
        · subst hk
          have hself : (inv.put k c').certificates.lookup k = some c' := by
            rw [lookup_put, if_pos rfl]
          have hkeep := (hlookup k).resolve_right fun h => hid h.1
          exact Or.inr ⟨List.mem_cons_self, c, c', hc, he, hkeep.trans hself⟩
        · have hput : (inv.put id c').certificates.lookup k = inv.certificates.lookup k := by
            rw [lookup_put, if_neg hk]
          have hlook := hlookup k
          rw [hput] at hlook
          exact hlook.imp_right fun ⟨hmem, h⟩ => ⟨List.mem_cons_of_mem _ hmem, h⟩

/-- The certificates that are not on the list stay as they are. -/
theorem evaluateLoop_lookup_of_notMem (clock : Uuid → LifecycleManager.EvaluationClock)
    {ids : List Uuid} (hnodup : ids.Nodup) (n : ℕ) (inv : CertificateInventory) (hid : id ∉ ids) :
    (evaluateLoop clock ids n inv).2.certificates.lookup id = inv.certificates.lookup id :=
  ((evaluateLoop_lookup clock hnodup n inv).2.2 id).resolve_right fun h => hid h.1

/-- What was written back before the loop is there after it. -/
theorem evaluateLoop_put_lookup (clock : Uuid → LifecycleManager.EvaluationClock)
    {ids : List Uuid} (hnodup : ids.Nodup) (n : ℕ) (inv : CertificateInventory) (hid : id ∉ ids)
    (c : CertificateMetadata) :
    (evaluateLoop clock ids n (inv.put id c)).2.certificates.lookup id = some c := by
  rw [evaluateLoop_lookup_of_notMem clock hnodup n _ hid, lookup_put, if_pos rfl]

/-- When the certificates of the list are tracked, the loop completes exactly when each of them
can be evaluated. -/
theorem evaluateLoop_isOk_iff {ids : List Uuid} (hnodup : ids.Nodup) (n : ℕ)
    (inv : CertificateInventory) (htracked : ∀ k ∈ ids, k ∈ inv.certificates) :
    (∃ m, (evaluateLoop clock ids n inv).1 = .ok m) ↔
      ∀ k ∈ ids, ∀ c, inv.certificates.lookup k = some c →
        ∃ c', LifecycleManager.evaluate (clock k) c = .ok c' := by
  induction ids generalizing n inv with
  | nil => simp [evaluateLoop]
  | cons id ids ih =>
    obtain ⟨hid, hnodup⟩ := List.nodup_cons.mp hnodup
    obtain ⟨c, hc⟩ := Finmap.mem_iff.mp (htracked id List.mem_cons_self)
    cases he : LifecycleManager.evaluate (clock id) c with
    | error e =>
      refine iff_of_false ?_ fun h => ?_
      · simp [evaluateLoop, hc, he]
      · obtain ⟨c', hc'⟩ := h id List.mem_cons_self c hc
        rw [he] at hc'
        cases hc'
    | ok c' =>
      rw [evaluateLoop_cons_ok hc he, ih hnodup]
      · have hput : ∀ k ∈ ids, (inv.put id c').certificates.lookup k =
            inv.certificates.lookup k := fun k hk => by
          rw [lookup_put, if_neg (ne_of_mem_of_not_mem hk hid)]
        refine ⟨fun h k hk d hd => ?_, fun h k hk d hd => ?_⟩
        · rcases List.mem_cons.mp hk with rfl | hk
          · obtain rfl : c = d := Option.some.inj (hc.symm.trans hd)
            exact ⟨c', he⟩
          · exact h k hk d ((hput k hk).trans hd)
        · exact h k (List.mem_cons_of_mem _ hk) d ((hput k hk).symm.trans hd)
      · intro k hk
        exact Finmap.mem_insert.mpr (Or.inr (htracked k (List.mem_cons_of_mem _ hk)))

/-- A completed loop has evaluated every certificate of its list. -/
theorem evaluate_of_evaluateLoop_ok {ids : List Uuid} (hnodup : ids.Nodup) {n m : ℕ}
    {inv : CertificateInventory} (hok : (evaluateLoop clock ids n inv).1 = .ok m) {k : Uuid}
    (hk : k ∈ ids) :
    ∃ c c', inv.certificates.lookup k = some c ∧
      LifecycleManager.evaluate (clock k) c = .ok c' ∧
      (evaluateLoop clock ids n inv).2.certificates.lookup k = some c' := by
  induction ids generalizing n inv with
  | nil => cases hk
  | cons id ids ih =>
    obtain ⟨hid, hnodup'⟩ := List.nodup_cons.mp hnodup
    cases hc : inv.certificates.lookup id with
    | none => simp [evaluateLoop, hc] at hok
    | some c =>
      cases he : LifecycleManager.evaluate (clock id) c with
      | error e => simp [evaluateLoop, hc, he] at hok
      | ok c' =>
        rw [evaluateLoop_cons_ok hc he] at hok ⊢
        by_cases hkid : k = id
        · subst hkid
          exact ⟨c, c', hc, he, evaluateLoop_put_lookup clock hnodup' _ inv hid c'⟩
        · have hmem : k ∈ ids := (List.mem_cons.mp hk).resolve_left hkid
          obtain ⟨d, d', hd, hd', hlookup⟩ := ih hnodup' hok hmem
          rw [lookup_put, if_neg hkid] at hd
          exact ⟨d, d', hd, hd', hlookup⟩

end Loop

end CertificateInventory

end DaemonPki
