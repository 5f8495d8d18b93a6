import DaemonPki.Certificate.LifecycleRuns

/-!
# Fingerprints set after the registration

`register` enters the fingerprint of a certificate in the fingerprint index, and `remove` takes out
the fingerprint that the certificate then carries (`daemon-pki-core/src/certificate/inventory.rs`).
The metadata of a new certificate carry no fingerprint; `mark_fingerprint` sets one, also through
the reference that `get_mut` hands out, which knows nothing of the index
(`daemon-pki-core/src/certificate/metadata.rs`). This file says after which calls the lookups by
fingerprint answer for the fingerprints that the certificates carry.

## Main definitions

* `DaemonPki.FingerprintCall`, `DaemonPki.fingerprintSystem`: the calls and their runs.
* `DaemonPki.CertificateInventory.FingerprintsCurrent`: the lookups are right.

## Main results

* `DaemonPki.CertificateInventory.fingerprintsIndexed_markFingerprint_iff`: what one late
  fingerprint does.
* `DaemonPki.CertificateInventory.fingerprintsCurrent_iff_of_run`: when the lookups are right
  throughout a run.
-/

namespace DaemonPki

open Foundation

/-- `mark_fingerprint` on the reference that `get_mut` returns. -/
def CertificateInventory.markFingerprint (inv : CertificateInventory) (now : OffsetDateTime)
    (id : Uuid) (fingerprint : String) :
    Except InventoryError CertificateMetadata × CertificateInventory :=
  inv.modify id fun c => .ok (c.markFingerprint now fingerprint)

/-- The calls that enter a certificate, take it out, revoke it or set its fingerprint. -/
inductive FingerprintCall
  | register (certificate : CertificateMetadata)
  | remove (id : Uuid)
  | revoke (now : OffsetDateTime) (id : Uuid)
  | markFingerprint (now : OffsetDateTime) (id : Uuid) (fingerprint : String)

namespace FingerprintCall

/-- The inventory after a call. -/
def after (inv : CertificateInventory) : FingerprintCall → CertificateInventory
  | register certificate => (inv.register certificate).2
  | remove id => (inv.remove id).2
  | revoke now id => (inv.revoke now id).2
  | markFingerprint now id fingerprint => (inv.markFingerprint now id fingerprint).2

/-- The call gives the fingerprint to the certificate: it enters a certificate that carries it, or
sets it on a tracked one. -/
def Gives (id : Uuid) (fingerprint : String) (inv : CertificateInventory) :
    FingerprintCall → Prop
  | register certificate => inv.Accepts certificate ∧ certificate.id = id ∧
      certificate.fingerprintSha256 = some fingerprint
  | markFingerprint _ id' fingerprint' =>
      id' ∈ inv.certificates ∧ id' = id ∧ fingerprint' = fingerprint
  | _ => False

/-- The call does not set the fingerprint of a tracked certificate to one that it does not already
carry. -/
def KeepsFingerprint (inv : CertificateInventory) : FingerprintCall → Prop
  | markFingerprint _ id fingerprint => ∀ c, inv.certificates.lookup id = some c →
      c.fingerprintSha256 = some fingerprint
  | _ => True

/-- The call does not enter a certificate whose fingerprint another one carries. -/
def IsFresh (inv : CertificateInventory) : FingerprintCall → Prop
  | register certificate => ¬(inv.Accepts certificate ∧ inv.FingerprintInUse certificate)
  | _ => True

end FingerprintCall

/-- The runs of the calls. -/
def fingerprintSystem : LTS CertificateInventory FingerprintCall := .ofFun FingerprintCall.after

namespace CertificateInventory

open FingerprintCall

variable {inv inv' : CertificateInventory} {now : OffsetDateTime} {id : Uuid}
  {c : CertificateMetadata} {f : String}

/-- A lookup by fingerprint finds exactly the tracked certificates that carry the fingerprint. -/
def FingerprintsCurrent (inv : CertificateInventory) : Prop :=
  (∀ fingerprint c, inv.findByFingerprint fingerprint = .ok c ↔
    ∃ id, inv.certificates.lookup id = some c ∧ c.fingerprintSha256 = some fingerprint) ∧
  ∀ fingerprint id, inv.idByFingerprint fingerprint = .ok id ↔
    ∃ k c, inv.certificates.lookup k = some c ∧ c.fingerprintSha256 = some fingerprint ∧
      c.id = id

theorem fingerprintsCurrent_iff (h : inv.IdsMatch) :
    inv.FingerprintsCurrent ↔ inv.FingerprintsIndexed := by
  have hcarrier (f : String) (id : Uuid) :
      (∃ k c, inv.certificates.lookup k = some c ∧ c.fingerprintSha256 = some f ∧ c.id = id) ↔
        ∃ c, inv.certificates.lookup id = some c ∧ c.fingerprintSha256 = some f := by
    constructor
    · rintro ⟨k, c, hc, hf, rfl⟩
      exact ⟨c, by rwa [h k c hc], hf⟩
    · rintro ⟨c, hc, hf⟩
      exact ⟨id, c, hc, hf, h id c hc⟩
  refine ⟨fun hcurrent f id => ?_, fun hidx => ⟨fun f c => ?_, fun f id => ?_⟩⟩
  · rw [← idByFingerprint_eq_ok, hcurrent.2, hcarrier]
  · rw [findByFingerprint]
    cases hf : inv.fingerprintIndex.lookup f with
    | none =>
      refine iff_of_false (by simp) ?_
      rintro ⟨id, hc, hcf⟩
      exact hidx.lookup_eq_none.mp hf id c hc hcf
    | some k =>
      obtain ⟨d, hd, hdf⟩ := (hidx f k).mp hf
      refine get_eq_ok_iff.trans ⟨fun hc => ⟨k, hc, ?_⟩, ?_⟩
      · obtain rfl : d = c := Option.some.inj (hd.symm.trans hc)
        exact hdf
      · rintro ⟨id, hc, hcf⟩
        rwa [hidx.key_unique hd hc hdf hcf]
  · rw [idByFingerprint_eq_ok, hcarrier]
    exact hidx f id

/-! ### One call -/

theorem markFingerprint_cases (inv : CertificateInventory) (now : OffsetDateTime) (id : Uuid)
    (f : String) :
    (inv.certificates.lookup id = none ∧ (inv.markFingerprint now id f).2 = inv) ∨
      ∃ c, inv.certificates.lookup id = some c ∧
        (inv.markFingerprint now id f).2 = inv.put id (c.markFingerprint now f) := by
  rcases inv.modify_cases id fun c => .ok (c.markFingerprint now f) with
    ⟨hnone, h⟩ | ⟨c, e, -, he, -⟩ | ⟨c, c', hc, hc', h⟩
  · exact Or.inl ⟨hnone, congrArg Prod.snd h⟩
  · cases he
  · cases hc'
    exact Or.inr ⟨c, hc, congrArg Prod.snd h⟩

/-- **A late fingerprint** leaves the fingerprint index right exactly when the certificate already
carries it, or is not tracked. -/
theorem fingerprintsIndexed_markFingerprint_iff (h : inv.FingerprintsIndexed) :
    (inv.markFingerprint now id f).2.FingerprintsIndexed ↔
      ∀ c, inv.certificates.lookup id = some c → c.fingerprintSha256 = some f := by
  rcases inv.markFingerprint_cases now id f with ⟨hnone, hafter⟩ | ⟨c, hc, hafter⟩
  · rw [hafter, hnone]
    exact iff_of_true h fun c hc => nomatch hc
  · have hset : (c.markFingerprint now f).fingerprintSha256 = some f := rfl
    rw [hafter, hc]
    refine (h.replace_iff hc).trans ?_
    rw [hset]
    exact ⟨fun hf d hd => Option.some.inj hd ▸ hf.symm, fun hf => (hf c rfl).symm⟩

/-- A call keeps the fingerprint index right exactly when it neither enters a fingerprint that is in
use nor sets another one. -/
theorem fingerprintsIndexed_fingerprintCall_iff (h : inv.FingerprintsIndexed)
    (call : FingerprintCall) : (call.after inv).FingerprintsIndexed ↔
      call.IsFresh inv ∧ call.KeepsFingerprint inv := by
  cases call with
  | register c => exact (fingerprintsIndexed_register_iff h).trans (and_iff_left trivial).symm
  | remove id =>
    exact iff_of_true (FingerprintsIndexed.changes h (changes_remove inv id)) ⟨trivial, trivial⟩
  | revoke now id =>
    exact iff_of_true (FingerprintsIndexed.changes h (changes_transition inv now id .revoked))
      ⟨trivial, trivial⟩
  | markFingerprint now id f =>
    exact (fingerprintsIndexed_markFingerprint_iff h).trans (and_iff_right trivial).symm

theorem IdsMatch.fingerprintCall (h : inv.IdsMatch) (call : FingerprintCall) :
    (call.after inv).IdsMatch := by
  cases call with
  | register c => exact keeps (fun _ _ => IdsMatch.update) h (updates_register inv c)
  | remove id => exact keeps (fun _ _ => IdsMatch.change) h (changes_remove inv id)
  | revoke now id =>
    exact keeps (fun _ _ => IdsMatch.change) h (changes_transition inv now id .revoked)
  | markFingerprint now id f =>
    rcases inv.markFingerprint_cases now id f with ⟨-, hafter⟩ | ⟨c, hc, hafter⟩
    · rwa [FingerprintCall.after, hafter]
    · rw [FingerprintCall.after, hafter]
      exact h.put hc rfl

/-! ### Which certificates a run gives a fingerprint -/

/-- The tracked certificate `id` carries the fingerprint. -/
def Carries (id : Uuid) (f : String) (inv : CertificateInventory) : Prop :=
  ∃ c, inv.certificates.lookup id = some c ∧ c.fingerprintSha256 = some f

/-- A change gives no certificate a fingerprint. -/
theorem not_carries_of_change (h : ¬Carries id f inv) (hchange : Change inv inv') :
    ¬Carries id f inv' := by
  rintro ⟨d, hd, hf⟩
  cases hchange with
  | @untrack k c hc =>
    rw [lookup_untrack] at hd
    split_ifs at hd
    exact h ⟨d, hd, hf⟩
  | @put k c c' hc hrestates _ =>
    rw [lookup_put] at hd
    split_ifs at hd with hid
    · obtain rfl : c' = d := Option.some.inj hd
      exact h ⟨c, hid ▸ hc, hrestates.fingerprintSha256_eq.symm.trans hf⟩
    · exact h ⟨d, hd, hf⟩

/-- A certificate that carries a fingerprint after a call and not before was given it by the
call. -/
theorem gives_of_carries (call : FingerprintCall) (h : ¬Carries id f inv)
    (hafter : Carries id f (call.after inv)) : call.Gives id f inv := by
  have hchanges {inv'} (hsteps : Relation.ReflTransGen Change inv inv') : ¬Carries id f inv' :=
    keeps (I := fun inv => ¬Carries id f inv) (fun _ _ => not_carries_of_change) h hsteps
  cases call with
  | register c =>
    by_cases hacc : inv.Accepts c
    · rw [FingerprintCall.after, register_of_accepts hacc] at hafter
      obtain ⟨d, hd, hf⟩ := hafter
      rw [lookup_track] at hd
      split_ifs at hd with hid
      · obtain rfl : c = d := Option.some.inj hd
        exact ⟨hacc, hid.symm, hf⟩
      · exact absurd ⟨d, hd, hf⟩ h
    · obtain ⟨e, he, -⟩ := register_of_not_accepts hacc
      rw [FingerprintCall.after, he] at hafter
      exact absurd hafter h
  | remove k => exact absurd hafter (hchanges (changes_remove inv k))
  | revoke now k => exact absurd hafter (hchanges (changes_transition inv now k .revoked))
  | markFingerprint now k g =>
    rcases inv.markFingerprint_cases now k g with ⟨-, hmark⟩ | ⟨c, hc, hmark⟩
    · rw [FingerprintCall.after, hmark] at hafter
      exact absurd hafter h
    · rw [FingerprintCall.after, hmark] at hafter
      obtain ⟨d, hd, hf⟩ := hafter
      rw [lookup_put] at hd
      split_ifs at hd with hid
      · obtain rfl : c.markFingerprint now g = d := Option.some.inj hd
        exact ⟨Finmap.mem_of_lookup_eq_some hc, hid.symm, Option.some.inj hf⟩
      · exact absurd ⟨d, hd, hf⟩ h

/-- Every fingerprint that a tracked certificate carries was given to it in the run. -/
theorem someStep_gives (run : fingerprintSystem.Run new inv) (h : Carries id f inv) :
    run.SomeStep fun inv call => call.Gives id f inv := by
  have hempty : ¬Carries id f new := fun ⟨c, hc, _⟩ => by simp [new] at hc
  refine LTS.Run.someStep_of_lost (I := fun inv => ¬Carries id f inv)
    (fun u call v hu hv hstep => ?_) hempty run (not_not.mpr h)
  obtain rfl : v = call.after u := hstep
  exact gives_of_carries call hu (not_not.mp hv)

/-- No two certificates are given the same fingerprint in the run. -/
def GivesDistinct (run : fingerprintSystem.Run new inv) : Prop :=
  ∀ f id id', (run.SomeStep fun inv call => call.Gives id f inv) →
    (run.SomeStep fun inv call => call.Gives id' f inv) → id = id'

/-- A run that gives no two certificates the same fingerprint enters none that is in use. -/
theorem allSteps_isFresh : {inv : CertificateInventory} → (run : fingerprintSystem.Run new inv) →
    GivesDistinct run → run.AllSteps fun inv call => call.IsFresh inv
  | _, .nil, _ => trivial
  | _, .snoc run call hstep, hdistinct => by
    refine ⟨allSteps_isFresh run fun f id id' h h' => hdistinct f id id' (Or.inl h) (Or.inl h'), ?_⟩
    cases call with
    | register c =>
      rintro ⟨hacc, f, id, d, hcf, hd, hdf⟩
      have hid : id = c.id := hdistinct f id c.id (Or.inl (someStep_gives run ⟨d, hd, hdf⟩))
        (Or.inr ⟨hacc, rfl, hcf⟩)
      exact hacc.1 (hid ▸ Finmap.mem_of_lookup_eq_some hd)
    | _ => trivial

/-! ### Runs -/

/-- **When the lookups by fingerprint are right.** In a run that gives no two certificates the same
fingerprint, the lookups find exactly the tracked certificates that carry the fingerprint, after
every call, exactly when no call sets the fingerprint of a tracked certificate to another one. -/
theorem fingerprintsCurrent_iff_of_run (run : fingerprintSystem.Run new inv)
    (hdistinct : GivesDistinct run) :
    run.AllStates FingerprintsCurrent ↔
      run.AllSteps fun inv call => call.KeepsFingerprint inv := by
  have hids : ∀ u call v, IdsMatch u → fingerprintSystem.step u call v → v.IdsMatch :=
    fun u call v h hstep => hstep ▸ h.fingerprintCall call
  have hboth : run.AllStates FingerprintsCurrent ↔ run.AllSteps fun inv call =>
      call.IsFresh inv ∧ call.KeepsFingerprint inv := by
    refine run.allStates_iff_allSteps hids (fun u call v h hcurrent hstep => ?_) idsMatch_new
      ((fingerprintsCurrent_iff idsMatch_new).mpr isIndex_empty)
    rw [fingerprintsCurrent_iff (hids u call v h hstep), hstep]
    exact fingerprintsIndexed_fingerprintCall_iff ((fingerprintsCurrent_iff h).mp hcurrent) call
  rw [hboth, LTS.Run.allSteps_and]
  exact and_iff_right (allSteps_isFresh run hdistinct)

/-- A run from the empty inventory, continued by one call. -/
def fingerprintRunAfter (run : fingerprintSystem.Run new inv) (call : FingerprintCall) :
    fingerprintSystem.Run new (call.after inv) :=
  run.snoc call rfl

theorem givesDistinct_of_eq {run : fingerprintSystem.Run new inv} (k : Uuid)
    (h : ∀ f id, (run.SomeStep fun inv call => call.Gives id f inv) → id = k) :
    GivesDistinct run :=
  fun f id id' hid hid' => (h f id hid).trans (h f id' hid').symm

/-- A certificate is registered with its fingerprint and later given the same again. -/
def remarkedRun := fingerprintRunAfter
  (fingerprintRunAfter .nil (.register (sampleCertificate 1 "01" "aa")))
  (.markFingerprint 5 1 "aa")

theorem fingerprintsCurrent_iff_of_run_remarked :
    remarkedRun.AllStates FingerprintsCurrent := by
  refine (fingerprintsCurrent_iff_of_run remarkedRun (givesDistinct_of_eq 1 ?_)).mpr ?_
  · rintro f id ((h | ⟨-, rfl, -⟩) | ⟨-, rfl, -⟩)
    · cases h
    · rfl
    · rfl
  · refine ⟨⟨trivial, trivial⟩, fun c hc => ?_⟩
    obtain rfl : sampleCertificate 1 "01" "aa" = c := Option.some.inj hc
    rfl

/-- The metadata of a new certificate. -/
def unmarkedCertificate : CertificateMetadata :=
  .new 1 0 "01" "intermediate" "workload" ⟨some "workload", [], [], true, false⟩ 0 7776000000000000

/-- A new certificate is registered and given a fingerprint afterwards. -/
def lateInventory : CertificateInventory :=
  FingerprintCall.after (FingerprintCall.after new (.register unmarkedCertificate))
    (.markFingerprint 5 1 "aa")

def lateRun : fingerprintSystem.Run new lateInventory :=
  fingerprintRunAfter (fingerprintRunAfter .nil (.register unmarkedCertificate))
    (.markFingerprint 5 1 "aa")

/-- A certificate is registered with a fingerprint, given another one and removed. -/
def staleInventory : CertificateInventory :=
  FingerprintCall.after (FingerprintCall.after
    (FingerprintCall.after new (.register (sampleCertificate 1 "01" "aa")))
    (.markFingerprint 5 1 "bb")) (.remove 1)

def staleRun : fingerprintSystem.Run new staleInventory :=
  fingerprintRunAfter (fingerprintRunAfter
    (fingerprintRunAfter .nil (.register (sampleCertificate 1 "01" "aa")))
    (.markFingerprint 5 1 "bb")) (.remove 1)

/-- A certificate that is given its fingerprint after its registration is not found by it, and a
removed certificate is still named by the fingerprint that it was registered with. -/
theorem not_fingerprintsCurrent_lateRun :
    (GivesDistinct lateRun ∧
      lateInventory.get 1 = .ok (unmarkedCertificate.markFingerprint 5 "aa") ∧
      lateInventory.findByFingerprint "aa" = .error (.notFound Uuid.nil) ∧
      ¬lateRun.AllStates FingerprintsCurrent) ∧
    GivesDistinct staleRun ∧ staleInventory.get 1 = .error (.notFound 1) ∧
      staleInventory.idByFingerprint "aa" = .ok 1 ∧ ¬staleRun.AllStates FingerprintsCurrent := by
  refine ⟨⟨givesDistinct_of_eq 1 ?_, by decide, by decide, fun h => ?_⟩, givesDistinct_of_eq 1 ?_,
    by decide, by decide, fun h => ?_⟩
  · rintro f id ((h | ⟨-, rfl, -⟩) | ⟨-, rfl, -⟩)
    · cases h
    · rfl
    · rfl
  · have hfound : lateInventory.findByFingerprint "aa" =
        .ok (unmarkedCertificate.markFingerprint 5 "aa") :=
      (h.last.1 "aa" _).mpr ⟨1, by decide, rfl⟩
    rw [show lateInventory.findByFingerprint "aa" = .error (.notFound Uuid.nil) by decide]
      at hfound
    cases hfound
  · rintro f id (((h | ⟨-, rfl, -⟩) | ⟨-, rfl, -⟩) | h)
    · cases h
    · rfl
    · rfl
    · cases h
  · obtain ⟨k, c, hc, -, -⟩ := (h.last.2 "aa" 1).mp (by decide)
    have hempty : staleInventory.certificates = ∅ := by decide
    rw [hempty] at hc
    cases hc

end CertificateInventory

end DaemonPki
