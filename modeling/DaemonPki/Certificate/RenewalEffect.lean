import DaemonPki.Certificate.RenewalRuns

/-!
# What a renewal changes

A renewal that succeeds writes two certificates and two indexes
(`daemon-pki-core/src/certificate/inventory.rs`, `register_renewal`): the predecessor moves to
`Renewed`, and the replacement is entered with the associations of the predecessor. The theorems of
this file say what is there afterwards and that nothing else has changed, also when the
certificates are looked up by their serial numbers and fingerprints.

The replacement comes from the caller of the executor
(`daemon-pki-core/src/certificate/lifecycle.rs`, `renew_into_inventory`). The work item records the
identity of the predecessor, and nothing compares it to that of the replacement.

## Main definitions

* `DaemonPki.CertificateInventory.RenewalEffect`: what a renewal does.

## Main results

* `DaemonPki.CertificateInventory.renewalEffect_of_registerRenewal`.
* `DaemonPki.RenewalExecutor.renewIntoInventory_identity`: whose identity the replacement has.
-/

namespace DaemonPki

open Foundation CertificateInventory

variable {inv inv' : CertificateInventory} {now : OffsetDateTime} {id previousId : Uuid}
  {replacement previous previous' : CertificateMetadata}

namespace CertificateInventory

/-! ### A renewal that succeeds -/

/-- What a renewal that succeeds does to the inventory. -/
theorem registerRenewal_eq_ok
    (h : inv.registerRenewal now previousId replacement = (.ok id, inv')) :
    ∃ previous previous', inv.certificates.lookup previousId = some previous ∧
      LifecycleManager.transition now previous .renewed = .ok previous' ∧
      inv.Accepts replacement ∧ id = replacement.id ∧
      inv' = (inv.put previousId previous').track (successor previous replacement) := by
  rcases inv.registerRenewal_cases now previousId replacement with
    ⟨e, he, -⟩ | ⟨c, c', hc, hc', hregister⟩
  · cases he.symm.trans h
  · have hsuccessor : successor c' replacement = successor c replacement := by
      rw [LifecycleManager.restates_of_transition hc']
      rfl
    rw [hregister] at h
    rcases register_successor_cases hc c' replacement with ⟨hacc, hok⟩ | ⟨-, e, he, -⟩
    · rw [hok, hsuccessor] at h
      cases h
      exact ⟨c, c', hc, hc', hacc, rfl, rfl⟩
    · cases he.symm.trans h

/-! ### Lookups by serial number and by fingerprint -/

theorem findBySerial_eq_resolve (h : inv.WellFormed) (serial : String) :
    inv.findBySerial serial =
      okOr (.notFound Uuid.nil) (resolve inv.serialIndex inv.certificates serial) := by
  rw [findBySerial, resolve]
  cases hserial : inv.serialIndex.lookup serial with
  | none => rfl
  | some k =>
    obtain ⟨c, hc, -⟩ := (h.serials serial k).mp hserial
    rw [Option.bind_some, hc]
    exact get_eq_ok_iff.mpr hc

theorem findByFingerprint_eq_resolve (h : inv.WellFormed) (fingerprint : String) :
    inv.findByFingerprint fingerprint =
      okOr (.notFound Uuid.nil) (resolve inv.fingerprintIndex inv.certificates fingerprint) := by
  rw [findByFingerprint, resolve]
  cases hfingerprint : inv.fingerprintIndex.lookup fingerprint with
  | none => rfl
  | some k =>
    obtain ⟨c, hc, -⟩ := h.fingerprints fingerprint k hfingerprint
    rw [Option.bind_some, hc]
    exact get_eq_ok_iff.mpr hc

/-- What a lookup finds after a certificate was written back. -/
def substitute (id : Uuid) (c' c : CertificateMetadata) : CertificateMetadata :=
  if c.id = id then c' else c

section Put

variable {c c' : CertificateMetadata} (h : inv.WellFormed) (hput : (inv.put id c').WellFormed)
  (hc : inv.certificates.lookup id = some c)

include h hput hc

/-- The lookups after a certificate was written back. -/
theorem findBySerial_put (serial : String) : (inv.put id c').findBySerial serial =
    (inv.findBySerial serial).map (substitute id c') := by
  rw [findBySerial_eq_resolve hput, findBySerial_eq_resolve h, map_okOr]
  exact congrArg _ (resolve_replace h.id_eq hc serial)

theorem findByFingerprint_put (fingerprint : String) :
    (inv.put id c').findByFingerprint fingerprint =
      (inv.findByFingerprint fingerprint).map (substitute id c') := by
  rw [findByFingerprint_eq_resolve hput, findByFingerprint_eq_resolve h, map_okOr]
  exact congrArg _ (resolve_replace h.id_eq hc fingerprint)

end Put

section Track

variable {c : CertificateMetadata} (h : inv.WellFormed) (hc : inv.Accepts c)

include h hc

/-- The lookups after a certificate was entered. -/
theorem findBySerial_track (serial : String) : (inv.track c).findBySerial serial =
    if serial = c.serialNumber then .ok c else inv.findBySerial serial := by
  rw [findBySerial_eq_resolve (h.track hc), findBySerial_eq_resolve h, track,
    h.serials.isSoundIndex.resolve_insert_some (lookup_eq_none_of_accepts hc)]
  split_ifs <;> rfl

theorem findByFingerprint_track (fingerprint : String) :
    (inv.track c).findByFingerprint fingerprint =
      if c.fingerprintSha256 = some fingerprint then .ok c
      else inv.findByFingerprint fingerprint := by
  rw [findByFingerprint_eq_resolve (h.track hc), findByFingerprint_eq_resolve h, track]
  have hnone := lookup_eq_none_of_accepts hc
  cases hf : c.fingerprintSha256 with
  | none =>
    rw [if_neg (by simp)]
    exact congrArg _ (h.fingerprints.resolve_insert_none hnone fingerprint)
  | some f =>
    simp only [h.fingerprints.resolve_insert_some hnone, Option.some.injEq, eq_comm (a := f)]
    split_ifs <;> rfl

end Track

theorem idByFingerprint_track (inv : CertificateInventory) (c : CertificateMetadata)
    (fingerprint : String) : (inv.track c).idByFingerprint fingerprint =
      if c.fingerprintSha256 = some fingerprint then .ok c.id
      else inv.idByFingerprint fingerprint := by
  rw [idByFingerprint, idByFingerprint, track]
  cases hf : c.fingerprintSha256 with
  | none => rw [if_neg (by simp)]
  | some f =>
    simp only [HashMap.lookup_insert_eq_ite, Option.some.injEq, eq_comm (a := f)]
    split_ifs <;> rfl

/-! ### What a renewal changes -/

/-- What a renewal that returns `id` does: `previous` is the predecessor before and `previous'`
after. -/
structure RenewalEffect (inv : CertificateInventory) (previousId : Uuid)
    (replacement : CertificateMetadata) (id : Uuid) (inv' : CertificateInventory)
    (previous previous' : CertificateMetadata) : Prop where
  id_eq : id = replacement.id
  fresh : inv.certificates.lookup id = none
  lookup_previous : inv.certificates.lookup previousId = some previous
  /-- The predecessor is renewed, and otherwise changes in the time of its update only. -/
  lookup_previous' : inv'.certificates.lookup previousId = some previous'
  renewed : previous'.state = .renewed
  restates : previous.Restates previous'
  /-- The replacement is active and has the associations of the predecessor. -/
  lookup_replacement : inv'.certificates.lookup id = some
    { replacement with
      state := .active
      workloadId := previous.workloadId
      deviceId := previous.deviceId
      serviceId := previous.serviceId
      tags := previous.tags }
  lookup_other : ∀ k, k ≠ previousId → k ≠ id →
    inv'.certificates.lookup k = inv.certificates.lookup k
  len : inv'.len = inv.len + 1
  /-- The lookups answer as before, the predecessor as it is now, but for the replacement. -/
  findBySerial : ∀ serial, inv'.findBySerial serial =
    if serial = replacement.serialNumber then .ok (successor previous replacement)
    else (inv.findBySerial serial).map (substitute previousId previous')
  findByFingerprint : ∀ fingerprint, inv'.findByFingerprint fingerprint =
    if replacement.fingerprintSha256 = some fingerprint then
      .ok (successor previous replacement)
    else (inv.findByFingerprint fingerprint).map (substitute previousId previous')
  idByFingerprint : ∀ fingerprint, inv'.idByFingerprint fingerprint =
    if replacement.fingerprintSha256 = some fingerprint then .ok id
    else inv.idByFingerprint fingerprint

/-- **What a renewal changes**, and that it changes nothing else. -/
theorem renewalEffect_of_registerRenewal (h : inv.WellFormed)
    (hok : inv.registerRenewal now previousId replacement = (.ok id, inv')) :
    ∃ previous previous',
      inv.RenewalEffect previousId replacement id inv' previous previous' := by
  obtain ⟨previous, previous', hprevious, htransition, haccepts, rfl, rfl⟩ :=
    registerRenewal_eq_ok hok
  have hput := h.change (change_transition hprevious htransition)
  have hacc : (inv.put previousId previous').Accepts (successor previous replacement) :=
    (accepts_put_iff hprevious).mpr haccepts
  have hfresh := lookup_eq_none_of_accepts haccepts
  have hne : previousId ≠ replacement.id := fun e => by
    rw [← e, hprevious] at hfresh
    cases hfresh
  have hlookup (k : Uuid) : ((inv.put previousId previous').track
      (successor previous replacement)).certificates.lookup k =
        if k = replacement.id then some (successor previous replacement)
        else (inv.put previousId previous').certificates.lookup k :=
    lookup_track _ _ k
  refine ⟨previous, previous', rfl, hfresh, hprevious, ?_,
    LifecycleManager.state_eq_of_transition htransition,
    LifecycleManager.restates_of_transition htransition, ?_, fun k hk hk' => ?_, ?_,
    fun serial => ?_, fun fingerprint => ?_, fun fingerprint => ?_⟩
  · rw [hlookup, if_neg hne, lookup_put, if_pos rfl]
  · rw [hlookup, if_pos rfl]
    rfl
  · rw [hlookup, if_neg hk', lookup_put, if_neg hk]
  · exact (HashMap.len_insert_of_lookup_eq_none (lookup_eq_none_of_accepts hacc) _).trans
      (congrArg (· + 1) (HashMap.len_insert_of_lookup_eq_some hprevious _))
  · rw [findBySerial_track hput hacc, findBySerial_put h hput hprevious]
    rfl
  · rw [findByFingerprint_track hput hacc, findByFingerprint_put h hput hprevious]
    rfl
  · rw [idByFingerprint_track]
    rfl

/-- The renewal of a pending certificate. -/
theorem renewalEffect_of_registerRenewal_pendingInventory : ∃ previous previous',
    pendingInventory.RenewalEffect 1 (sampleCertificate 2 "02" "bb") 2
      (pendingInventory.registerRenewal 5 1 (sampleCertificate 2 "02" "bb")).2
      previous previous' :=
  renewalEffect_of_registerRenewal (wellFormed_new.track (by decide)) (Prod.ext (by decide) rfl)

end CertificateInventory

namespace RenewalExecutor

/-! ### Whose identity the replacement has -/

theorem renewIntoInventory_eq_ok {workItem : RenewalWorkItem}
    (h : renewIntoInventory inv now replacement workItem = (.ok id, inv')) :
    inv.registerRenewal now workItem.certificateId replacement = (.ok id, inv') := by
  rw [renewIntoInventory] at h
  split_ifs at h
  · cases h
  · obtain ⟨hresult, hafter⟩ := Prod.mk.inj h
    exact Prod.ext (mapError_eq_ok_iff.mp hresult) hafter

/-- What `register` returns depends on the identifier and the serial number only. -/
theorem register_congr {c d : CertificateMetadata} (hid : c.id = d.id)
    (hserial : c.serialNumber = d.serialNumber) : (inv.register c).1 = (inv.register d).1 := by
  rw [register, register, hid, hserial]
  by_cases hmem : d.id ∈ inv.certificates
  · rw [if_pos hmem, if_pos hmem]
  · rw [if_neg hmem, if_neg hmem]
    by_cases hindexed : d.serialNumber ∈ inv.serialIndex
    · rw [if_pos hindexed, if_pos hindexed]
    · rw [if_neg hindexed, if_neg hindexed]

/-- The identity of the replacement does not decide whether a renewal succeeds. -/
theorem registerRenewal_identity (inv : CertificateInventory) (now : OffsetDateTime)
    (previousId : Uuid) (replacement : CertificateMetadata) (identity : CertificateIdentity) :
    (inv.registerRenewal now previousId { replacement with identity := identity }).1 =
      (inv.registerRenewal now previousId replacement).1 := by
  rw [registerRenewal, registerRenewal]
  split
  · rfl
  · exact register_congr rfl rfl

/-- **The replacement keeps the identity with which it comes**, whatever the work item records, and
takes the associations of the predecessor. The identity does not decide whether it is accepted. -/
theorem renewIntoInventory_identity (inv : CertificateInventory) (now : OffsetDateTime)
    (replacement : CertificateMetadata) (workItem : RenewalWorkItem) :
    (∀ id inv', renewIntoInventory inv now replacement workItem = (.ok id, inv') →
      ∃ previous tracked, inv.certificates.lookup workItem.certificateId = some previous ∧
        inv'.certificates.lookup id = some tracked ∧
        tracked.identity = replacement.identity ∧
        tracked.workloadId = previous.workloadId ∧ tracked.deviceId = previous.deviceId ∧
        tracked.serviceId = previous.serviceId) ∧
    ∀ identity,
      (renewIntoInventory inv now { replacement with identity := identity } workItem).1 =
        (renewIntoInventory inv now replacement workItem).1 := by
  refine ⟨fun id inv' h => ?_, fun identity => ?_⟩
  · obtain ⟨previous, previous', hprevious, -, -, rfl, rfl⟩ :=
      registerRenewal_eq_ok (renewIntoInventory_eq_ok h)
    exact ⟨previous, successor previous replacement, hprevious,
      (lookup_track _ _ _).trans (if_pos rfl), rfl, rfl, rfl, rfl⟩
  · rw [renewIntoInventory, renewIntoInventory]
    split_ifs
    · rfl
    · simp only [registerRenewal_identity]

/-- The work item of the certificate that is pending. -/
def pendingWorkItem : RenewalWorkItem := ⟨1, .renew, 0, 0, pendingCertificate.identity⟩

/-- A replacement with another common name, for the server instead of the client. -/
def foreignReplacement : CertificateMetadata :=
  { sampleCertificate 2 "02" "bb" with identity := ⟨some "other", [], [], false, true⟩ }

/-- A work item made from a tracked certificate is completed with a replacement that has another
identity than the one it records. -/
theorem renewIntoInventory_foreignReplacement :
    pendingInventory.certificates.lookup 1 = some pendingCertificate ∧
      RenewalWorkItem.new (.constant 0) pendingCertificate = some pendingWorkItem ∧
      (renewIntoInventory pendingInventory 5 foreignReplacement pendingWorkItem).1 = .ok 2 ∧
      ∃ tracked, (renewIntoInventory pendingInventory 5 foreignReplacement
          pendingWorkItem).2.certificates.lookup 2 = some tracked ∧
        tracked.identity ≠ pendingWorkItem.identity := by
  refine ⟨by decide, by decide, by decide, _, rfl, by decide⟩

end RenewalExecutor

end DaemonPki
