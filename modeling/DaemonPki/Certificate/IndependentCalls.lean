import DaemonPki.Certificate.LifecycleErrors
import DaemonPki.Certificate.RenewalRuns
import DaemonPki.Foundation.Independence

/-!
# Calls that do not see each other

A maintenance job works through a queue: it renews this certificate, registers that one, revokes a
third (`daemon-pki-core/src/certificate/inventory.rs` and `lifecycle.rs`). Most of these calls have
nothing to do with each other, and then the order of the queue should not matter, whether the
single calls succeed or fail. What they have to keep apart is what they read and write: the
identifiers of the certificates that they name and enter, and the serial numbers and fingerprints
of those that they enter.

## Main definitions

* `DaemonPki.RenewalCall.perform`: a call with its answer.
* `DaemonPki.RenewalCall.IsLocal`: the calls that concern single certificates.
* `DaemonPki.RenewalCall.Apart`: calls with nothing in common.

## Main results

* `DaemonPki.CertificateInventory.independent_modify_modify`,
  `DaemonPki.CertificateInventory.independent_modify_register`,
  `DaemonPki.CertificateInventory.independent_register_register`: the elementary operations.
* `DaemonPki.RenewalCall.performAll_of_apart`: batches of calls.
-/

namespace DaemonPki

open Foundation

/-- What a call returns. -/
inductive InventoryAnswer
  | entered (result : Except InventoryError Uuid)
  | removed (result : Except InventoryError CertificateMetadata)
  | moved (result : Except InventoryError Unit)
  | passed (result : Except InventoryError ℕ)
  | evaluated (result : Except InventoryError CertificateState)
  | renewed (result : Except LifecycleError Uuid)

namespace RenewalCall

/-- What a call returns, and the inventory that it leaves behind. -/
def perform : RenewalCall → CertificateInventory → InventoryAnswer × CertificateInventory
  | .call (.register certificate), inv => Prod.map .entered id (inv.register certificate)
  | .call (.registerRenewal now previousId replacement), inv =>
    Prod.map .entered id (inv.registerRenewal now previousId replacement)
  | .call (.remove id), inv => Prod.map .removed (fun inv => inv) (inv.remove id)
  | .call (.revoke now id), inv => Prod.map .moved (fun inv => inv) (inv.revoke now id)
  | .call (.markRenewed now id), inv => Prod.map .moved (fun inv => inv) (inv.markRenewed now id)
  | .call (.evaluateLifecycle clock iteration), inv =>
    Prod.map .passed id (inv.evaluateLifecycle clock (iteration inv.certificates))
  | .call (.transition now id next), inv =>
    Prod.map .moved (fun inv => inv) (inv.transition now id next)
  | .call (.evaluate clock id), inv =>
    Prod.map .evaluated (fun inv => inv) (inv.evaluate clock id)
  | .renewIntoInventory now replacement workItem, inv =>
    Prod.map .renewed id (RenewalExecutor.renewIntoInventory inv now replacement workItem)

theorem perform_snd (call : RenewalCall) (inv : CertificateInventory) :
    (call.perform inv).2 = inv.afterRenewal call := by
  cases call with
  | call call => cases call <;> rfl
  | renewIntoInventory now replacement workItem => rfl

/-- The call concerns single certificates: it does not evaluate the whole inventory, and it does
not remove a certificate, which would free a serial number that the call does not name. -/
def IsLocal : RenewalCall → Prop
  | .call (.remove _) | .call (.evaluateLifecycle ..) => False
  | _ => True

/-- The tracked certificate that a call names. -/
def named : RenewalCall → Option Uuid
  | .call (.registerRenewal _ previousId _) => some previousId
  | .call (.revoke _ id) | .call (.markRenewed _ id) => some id
  | .call (.transition _ id _) | .call (.evaluate _ id) => some id
  | .renewIntoInventory _ _ workItem => some workItem.certificateId
  | _ => none

/-- The certificate that a call is to enter. -/
def entering : RenewalCall → Option CertificateMetadata
  | .call (.register certificate) => some certificate
  | .call (.registerRenewal _ _ replacement) => some replacement
  | .renewIntoInventory _ replacement _ => some replacement
  | _ => none

/-- The identifiers that occur in a call. -/
def ids (call : RenewalCall) : List Uuid :=
  call.named.toList ++ call.entering.toList.map CertificateMetadata.id

end RenewalCall

/-- The certificates can be entered next to each other. -/
structure CertificateMetadata.Apart (c c' : CertificateMetadata) : Prop where
  id_ne : c.id ≠ c'.id
  serialNumber_ne : c.serialNumber ≠ c'.serialNumber
  fingerprint_ne : ∀ f, c.fingerprintSha256 = some f → c'.fingerprintSha256 ≠ some f

/-- The certificates are entered under the same keys. -/
structure CertificateMetadata.Like (c c' : CertificateMetadata) : Prop where
  id_eq : c.id = c'.id
  serialNumber_eq : c.serialNumber = c'.serialNumber
  fingerprintSha256_eq : c.fingerprintSha256 = c'.fingerprintSha256

theorem CertificateMetadata.Apart.like {c c' d d' : CertificateMetadata} (h : c.Apart c')
    (hd : d.Like c) (hd' : d'.Like c') : d.Apart d' where
  id_ne := by
    rw [hd.id_eq, hd'.id_eq]
    exact h.id_ne
  serialNumber_ne := by
    rw [hd.serialNumber_eq, hd'.serialNumber_eq]
    exact h.serialNumber_ne
  fingerprint_ne := by
    rw [hd.fingerprintSha256_eq, hd'.fingerprintSha256_eq]
    exact h.fingerprint_ne

theorem CertificateMetadata.Apart.symm {c c' : CertificateMetadata} (h : c.Apart c') :
    c'.Apart c :=
  ⟨h.id_ne.symm, h.serialNumber_ne.symm, fun f hf' hf => h.fingerprint_ne f hf hf'⟩

/-- The calls have nothing in common: no identifier occurs in both, and the certificates that they
are to enter have different serial numbers and fingerprints. -/
structure RenewalCall.Apart (call call' : RenewalCall) : Prop where
  ids : ∀ id ∈ call.ids, id ∉ call'.ids
  entering : ∀ c ∈ call.entering, ∀ c' ∈ call'.entering, c.Apart c'

namespace CertificateInventory

variable {inv : CertificateInventory} {i j : Uuid} {c d c' d' : CertificateMetadata}
  {f g : CertificateMetadata → Except LifecycleError CertificateMetadata}

/-! ### The elementary operations -/

/-- What a lifecycle operation makes of the entry that it finds. -/
def modified (id : Uuid) (f : CertificateMetadata → Except LifecycleError CertificateMetadata) :
    Option CertificateMetadata → Except InventoryError CertificateMetadata
  | none => .error (.notFound id)
  | some c => (f c).mapError .lifecycle

/-- Write back what a lifecycle operation has made of an entry. -/
def write (inv : CertificateInventory) (id : Uuid) :
    Except InventoryError CertificateMetadata → CertificateInventory
  | .error _ => inv
  | .ok c => inv.put id c

theorem modify_eq (inv : CertificateInventory) (id : Uuid)
    (f : CertificateMetadata → Except LifecycleError CertificateMetadata) :
    inv.modify id f = (modified id f (inv.certificates.lookup id),
      inv.write id (modified id f (inv.certificates.lookup id))) := by
  rcases inv.modify_cases id f with ⟨hc, h⟩ | ⟨c, e, hc, hf, h⟩ | ⟨c, c', hc, hf, h⟩
  · rw [h, hc]
    rfl
  · rw [h, hc, modified, hf]
    rfl
  · rw [h, hc, modified, hf]
    rfl

theorem lookup_write_of_ne (h : i ≠ j) (result : Except InventoryError CertificateMetadata) :
    (inv.write j result).certificates.lookup i = inv.certificates.lookup i := by
  cases result with
  | error e => rfl
  | ok c => rw [write, lookup_put, if_neg h]

theorem write_comm (h : i ≠ j) (result result' : Except InventoryError CertificateMetadata) :
    (inv.write i result).write j result' = (inv.write j result').write i result := by
  cases result with
  | error e => rfl
  | ok c =>
    cases result' with
    | error e => rfl
    | ok d => simp only [write, put, Finmap.insert_insert_of_ne _ h.symm]

/-- Lifecycle operations on two certificates. -/
theorem independent_modify_modify (h : i ≠ j) :
    Independent (fun inv : CertificateInventory => inv.modify i f) fun inv => inv.modify j g where
  answer_left inv := by
    simp only [modify_eq, lookup_write_of_ne h]
  answer_right inv := by
    simp only [modify_eq, lookup_write_of_ne h.symm]
  state_eq inv := by
    simp only [modify_eq, lookup_write_of_ne h, lookup_write_of_ne h.symm, write_comm h]

/-- What a registration answers depends on whether the identifier and the serial number are in
use. -/
theorem register_fst_congr {inv inv' : CertificateInventory}
    (hid : c.id ∈ inv.certificates ↔ c.id ∈ inv'.certificates)
    (hserial : c.serialNumber ∈ inv.serialIndex ↔ c.serialNumber ∈ inv'.serialIndex) :
    (inv.register c).1 = (inv'.register c).1 := by
  simp only [register, hid, hserial]
  split_ifs <;> rfl

theorem register_snd (inv : CertificateInventory) (c : CertificateMetadata) :
    (inv.register c).2 = if inv.Accepts c then inv.track c else inv := by
  split_ifs with h
  · rw [register_of_accepts h]
  · obtain ⟨e, he, -⟩ := register_of_not_accepts h
    rw [he]

theorem mem_modify_iff : i ∈ (inv.modify j f).2.certificates ↔ i ∈ inv.certificates := by
  rcases inv.modify_cases j f with ⟨-, h⟩ | ⟨c, e, -, -, h⟩ | ⟨c, c', hc, -, h⟩ <;> rw [h]
  rw [put, Finmap.mem_insert, or_iff_right_iff_imp]
  rintro rfl
  exact Finmap.mem_of_lookup_eq_some hc

theorem serialIndex_modify : (inv.modify j f).2.serialIndex = inv.serialIndex := by
  rcases inv.modify_cases j f with ⟨-, h⟩ | ⟨c, e, -, -, h⟩ | ⟨c, c', -, -, h⟩ <;> rw [h]
  rfl

theorem lookup_register_of_ne (h : i ≠ c.id) :
    (inv.register c).2.certificates.lookup i = inv.certificates.lookup i := by
  rw [register_snd]
  split_ifs
  · rw [lookup_track, if_neg h]
  · rfl

theorem write_track (h : i ≠ c.id) (result : Except InventoryError CertificateMetadata) :
    (inv.write i result).track c = (inv.track c).write i result := by
  cases result with
  | error e => rfl
  | ok d => simp only [write, put, track, Finmap.insert_insert_of_ne _ h.symm]

/-- A lifecycle operation on one certificate and the registration of another. -/
theorem independent_modify_register (h : i ≠ c.id) :
    Independent (fun inv : CertificateInventory => inv.modify i f) fun inv => inv.register c where
  answer_left inv := by
    simp only [modify_eq, lookup_register_of_ne h]
  answer_right inv :=
    register_fst_congr mem_modify_iff (by rw [serialIndex_modify])
  state_eq inv := by
    have haccepts : (inv.modify i f).2.Accepts c ↔ inv.Accepts c := by
      rw [Accepts, Accepts, mem_modify_iff, serialIndex_modify]
    by_cases hc : inv.Accepts c
    · rw [register_of_accepts (haccepts.mpr hc), register_of_accepts hc, modify_eq, modify_eq,
        lookup_track, if_neg h]
      exact write_track h _
    · rw [register_snd, if_neg fun hc' => hc (haccepts.mp hc'), register_snd, if_neg hc]

theorem mem_register_iff (h : i ≠ c.id) :
    i ∈ (inv.register c).2.certificates ↔ i ∈ inv.certificates := by
  rw [register_snd]
  split_ifs
  · rw [track, Finmap.mem_insert, or_iff_right h]
  · rfl

theorem mem_serialIndex_register_iff {serial : String} (h : serial ≠ c.serialNumber) :
    serial ∈ (inv.register c).2.serialIndex ↔ serial ∈ inv.serialIndex := by
  rw [register_snd]
  split_ifs
  · rw [track, Finmap.mem_insert, or_iff_right h]
  · rfl

/-- Whether a certificate is accepted does not depend on whether another one was registered. -/
theorem accepts_register_iff (h : c.Apart d) :
    (inv.register c).2.Accepts d ↔ inv.Accepts d := by
  rw [Accepts, Accepts, mem_register_iff h.id_ne.symm,
    mem_serialIndex_register_iff h.serialNumber_ne.symm]

theorem track_comm (h : c.Apart d) : (inv.track c).track d = (inv.track d).track c := by
  have hfingerprint : ((inv.track c).track d).fingerprintIndex =
      ((inv.track d).track c).fingerprintIndex := by
    cases hc : c.fingerprintSha256 with
    | none => simp only [track, hc]
    | some f =>
      cases hd : d.fingerprintSha256 with
      | none => simp only [track, hc, hd]
      | some f' =>
        have hne : f' ≠ f := fun heq => h.fingerprint_ne f hc (heq ▸ hd)
        simp only [track, hc, hd, Finmap.insert_insert_of_ne _ hne]
  refine (CertificateInventory.mk.injEq ..).mpr ⟨?_, ?_, hfingerprint⟩
  · exact Finmap.insert_insert_of_ne _ h.id_ne
  · exact Finmap.insert_insert_of_ne _ h.serialNumber_ne

/-- Registrations of two certificates. -/
theorem independent_register_register (h : c.Apart d) :
    Independent (fun inv : CertificateInventory => inv.register c) fun inv => inv.register d where
  answer_left inv :=
    register_fst_congr (mem_register_iff h.id_ne)
      (mem_serialIndex_register_iff h.serialNumber_ne)
  answer_right inv :=
    register_fst_congr (mem_register_iff h.id_ne.symm)
      (mem_serialIndex_register_iff h.serialNumber_ne.symm)
  state_eq inv := by
    rw [register_snd (inv.register c).2, register_snd (inv.register d).2,
      if_congr (accepts_register_iff h) rfl rfl, if_congr (accepts_register_iff h.symm) rfl rfl,
      register_snd inv c, register_snd inv d]
    split_ifs
    · exact track_comm h
    · rfl
    · rfl
    · rfl

end CertificateInventory

namespace RenewalCall

open CertificateInventory

/-! ### Calls -/

/-- What a renewal does after its transition. -/
def enterSuccessor (replacement : CertificateMetadata) :
    Except InventoryError CertificateMetadata → CertificateInventory →
      Except InventoryError Uuid × CertificateInventory
  | .error e, inv => (.error e, inv)
  | .ok previous, inv => inv.register (successor previous replacement)

theorem registerRenewal_eq (inv : CertificateInventory) (now : OffsetDateTime) (previousId : Uuid)
    (replacement : CertificateMetadata) :
    inv.registerRenewal now previousId replacement = enterSuccessor replacement
      (inv.modify previousId fun c => LifecycleManager.transition now c .renewed).1
      (inv.modify previousId fun c => LifecycleManager.transition now c .renewed).2 := by
  rw [registerRenewal]
  obtain ⟨result, inv'⟩ :=
    inv.modify previousId fun c => LifecycleManager.transition now c .renewed
  cases result <;> rfl

section Perform

variable {γ : Type*} {g : CertificateInventory → γ × CertificateInventory}

theorem independent_registerRenewal {now : OffsetDateTime} {previousId : Uuid}
    {replacement : CertificateMetadata}
    (hmodify : ∀ f, Independent (fun inv : CertificateInventory => inv.modify previousId f) g)
    (hregister : ∀ previous, Independent
      (fun inv : CertificateInventory => inv.register (successor previous replacement)) g) :
    Independent (fun inv => inv.registerRenewal now previousId replacement) g := by
  simp only [registerRenewal_eq]
  refine (hmodify _).bind_left fun result => ?_
  cases result with
  | error e => exact .const_left _
  | ok previous => exact hregister previous

/-- A call is independent of what the operations are independent of that it is made of. -/
theorem independent_perform {call : RenewalCall} (hlocal : call.IsLocal)
    (hmodify : ∀ id ∈ call.named, ∀ f,
      Independent (fun inv : CertificateInventory => inv.modify id f) g)
    (hregister : ∀ c ∈ call.entering, ∀ d, d.Like c →
      Independent (fun inv : CertificateInventory => inv.register d) g) :
    Independent call.perform g := by
  have hsuccessor {replacement : CertificateMetadata} (hmem : replacement ∈ call.entering)
      (previous : CertificateMetadata) : Independent
        (fun inv : CertificateInventory => inv.register (successor previous replacement)) g :=
    hregister replacement hmem _ ⟨rfl, rfl, rfl⟩
  have htransition {now : OffsetDateTime} {id : Uuid} {next : CertificateState}
      (hmem : id ∈ call.named) : Independent (fun inv => inv.transition now id next) g :=
    (hmodify id hmem _).map_left fun result => result.map fun _ => ()
  cases call with
  | call call =>
    cases call with
    | register c =>
      exact (hregister c rfl c ⟨rfl, rfl, rfl⟩).map_left InventoryAnswer.entered
    | registerRenewal now previousId replacement =>
      exact (independent_registerRenewal (hmodify previousId rfl)
        (hsuccessor rfl)).map_left InventoryAnswer.entered
    | remove id => exact hlocal.elim
    | revoke now id => exact (htransition rfl).map_left InventoryAnswer.moved
    | markRenewed now id => exact (htransition rfl).map_left InventoryAnswer.moved
    | evaluateLifecycle clock iteration => exact hlocal.elim
    | transition now id next => exact (htransition rfl).map_left InventoryAnswer.moved
    | evaluate clock id =>
      exact (hmodify id rfl _).map_left fun result =>
        InventoryAnswer.evaluated (result.map fun certificate => certificate.state)
  | renewIntoInventory now replacement workItem =>
    by_cases haction : workItem.action = .renew
    · have hperform : perform (.renewIntoInventory now replacement workItem) = fun inv =>
          Prod.map (fun result => .renewed (result.mapError RenewalExecutor.handedOn)) id
            (inv.registerRenewal now workItem.certificateId replacement) := by
        funext inv
        refine Prod.ext ?_ ?_
        · exact congrArg InventoryAnswer.renewed
            (RenewalExecutor.renewIntoInventory_eq_mapError haction)
        · exact (RenewalExecutor.renewIntoInventory_of_renew inv now replacement haction).2
      rw [hperform]
      exact (independent_registerRenewal (hmodify workItem.certificateId rfl)
        (hsuccessor rfl)).map_left fun result =>
          InventoryAnswer.renewed (result.mapError RenewalExecutor.handedOn)
    · have hperform : perform (.renewIntoInventory now replacement workItem) = fun inv =>
          (.renewed (.error (.invalidTransition .active .active)), inv) := by
        funext inv
        rw [perform, RenewalExecutor.renewIntoInventory, if_pos haction]
        rfl
      rw [hperform]
      exact .const_left _

end Perform

/-- **Calls with nothing in common are independent.** -/
theorem independent_of_apart {call call' : RenewalCall} (h : call.Apart call')
    (hlocal : call.IsLocal) (hlocal' : call'.IsLocal) :
    Independent call.perform call'.perform := by
  have hnamed {x : RenewalCall} {id : Uuid} (hid : id ∈ x.named) : id ∈ x.ids :=
    List.mem_append_left _ (Option.mem_toList.mpr hid)
  have hentering {x : RenewalCall} {c : CertificateMetadata} (hc : c ∈ x.entering) :
      c.id ∈ x.ids :=
    List.mem_append_right _ (List.mem_map_of_mem (Option.mem_toList.mpr hc))
  refine independent_perform hlocal (fun id hid f => ?_) fun c hc d hd => ?_
  · refine (independent_perform hlocal' (fun id' hid' f' => ?_) fun c' hc' d' hd' => ?_).symm
    · exact independent_modify_modify fun heq => h.ids id (hnamed hid) (heq ▸ hnamed hid')
    · refine (independent_modify_register fun heq => ?_).symm
      exact h.ids id (hnamed hid) (heq ▸ hd'.id_eq ▸ hentering hc')
  · refine (independent_perform hlocal' (fun id' hid' f' => ?_) fun c' hc' d' hd' => ?_).symm
    · refine independent_modify_register fun heq => ?_
      exact h.ids c.id (hentering hc) (hd.id_eq ▸ heq ▸ hnamed hid')
    · exact independent_register_register ((h.entering c hc c' hc').like hd hd').symm

theorem performAll_snd (calls : List RenewalCall) (inv : CertificateInventory) :
    (performAll perform calls inv).2 = calls.foldl afterRenewal inv := by
  simp only [state_performAll, perform_snd]

/-- **The order of a batch of calls does not matter.** Take any inventory and any list of
registrations, renewals and lifecycle operations that have nothing in common. Each of them is
answered as if it were the only one, with the same result or the same error, and in any other order
they lead to the same inventory, those that fail included. -/
theorem performAll_of_apart {calls : List RenewalCall} (hlocal : ∀ call ∈ calls, call.IsLocal)
    (hapart : calls.Pairwise Apart) (inv : CertificateInventory) :
    (performAll perform calls inv).1 = calls.map (fun call => (call, (call.perform inv).1)) ∧
      ∀ calls', calls.Perm calls' →
        calls'.foldl afterRenewal inv = calls.foldl afterRenewal inv := by
  have hindependent : calls.Pairwise fun call call' => Independent call.perform call'.perform :=
    hapart.imp_of_mem fun hcall hcall' h =>
      independent_of_apart h (hlocal _ hcall) (hlocal _ hcall')
  refine ⟨answers_performAll hindependent inv, fun calls' hperm => ?_⟩
  rw [← performAll_snd, ← performAll_snd, state_performAll_perm hperm hindependent]

/-- The registration of a third certificate, next to the renewal of the first by the second. -/
def thirdRegistration : RenewalCall := .call (.register (sampleCertificate 3 "03" "cc"))

theorem performAll_of_apart_queuedInventory :
    (queuedInventory.afterRenewal firstRenewal).afterRenewal thirdRegistration =
      (queuedInventory.afterRenewal thirdRegistration).afterRenewal firstRenewal := by
  have hlocal : ∀ call ∈ [thirdRegistration, firstRenewal], call.IsLocal :=
    List.forall_mem_cons.mpr ⟨trivial, List.forall_mem_singleton.mpr trivial⟩
  have hapart : thirdRegistration.Apart firstRenewal := by
    refine ⟨fun id hid hid' => ?_, fun c hc c' hc' => ?_⟩
    · rw [List.mem_singleton.mp hid] at hid'
      exact absurd hid' (by decide)
    · obtain rfl := Option.some.inj hc
      obtain rfl := Option.some.inj hc'
      exact ⟨by decide, by decide, fun f hf hf' => absurd (hf.trans hf'.symm) (by decide)⟩
  exact (performAll_of_apart hlocal (List.pairwise_pair.mpr hapart) queuedInventory).2 _
    (List.Perm.swap ..)

end RenewalCall

end DaemonPki
