import DaemonPki.Certificate.LifecycleRuns
import DaemonPki.Foundation.Checks

/-!
# Renewals along a run

The only edge of the transition table into `Renewed` starts in `RenewalPending`, so a renewal
should use up what is pending. But a transition to the state in which a certificate already is
succeeds and does nothing (`daemon-pki-core/src/certificate/lifecycle.rs`), so a certificate that
was renewed is renewed again, each time by another active successor. The theorems of this file say
what lies between two renewals of one certificate when no renewal goes that way.

## Main definitions

* `DaemonPki.RenewalCall`, `DaemonPki.renewalSystem`: the calls on an inventory, and those of the
  renewal executor.
* `DaemonPki.CertificateInventory.Renews`: a renewal that succeeds.
* `DaemonPki.CertificateInventory.SparesRenewed`: the calls that renew nothing already renewed.
* `DaemonPki.CertificateInventory.LeavesRenewed`, `DaemonPki.CertificateInventory.DropsRenewed`:
  the steps that take a certificate out of `Renewed`.

## Main results

* `DaemonPki.CertificateInventory.leavesRenewed_of_run`: between two renewals of one certificate
  it has left `Renewed`.
-/

namespace DaemonPki

open Foundation

/-- A call on an inventory, or one of the renewal executor. -/
inductive RenewalCall
  | call (call : InventoryCall)
  | renewIntoInventory (now : OffsetDateTime) (replacement : CertificateMetadata)
      (workItem : RenewalWorkItem)

/-- The certificate whose renewal a call asks for. A work item with another action than to renew
asks for none. -/
def RenewalCall.previousId : RenewalCall → Option Uuid
  | .call (.registerRenewal _ previousId _) => some previousId
  | .renewIntoInventory _ _ workItem =>
    if workItem.action = .renew then some workItem.certificateId else none
  | _ => none

namespace CertificateInventory

/-- The inventory that a call leaves behind, whether it succeeds or fails. -/
def afterRenewal (inv : CertificateInventory) : RenewalCall → CertificateInventory
  | .call call => inv.after call
  | .renewIntoInventory now replacement workItem =>
    (RenewalExecutor.renewIntoInventory inv now replacement workItem).2

end CertificateInventory

/-- The inventory under all calls, those of the renewal executor included. -/
def renewalSystem : LTS CertificateInventory RenewalCall := .ofFun CertificateInventory.afterRenewal

namespace CertificateInventory

/-- The call is a renewal that succeeds. -/
def Succeeds (inv : CertificateInventory) : RenewalCall → Prop
  | .call (.registerRenewal now previousId replacement) =>
    ∃ new, (inv.registerRenewal now previousId replacement).1 = .ok new
  | .renewIntoInventory now replacement workItem =>
    ∃ new, (RenewalExecutor.renewIntoInventory inv now replacement workItem).1 = .ok new
  | _ => False

/-- The call is a renewal of the certificate, and succeeds. -/
def Renews (inv : CertificateInventory) (previousId : Uuid) (call : RenewalCall) : Prop :=
  call.previousId = some previousId ∧ inv.Succeeds call

/-- The certificate is tracked in `Renewed`. -/
def TracksRenewed (id : Uuid) (inv : CertificateInventory) : Prop :=
  ∃ c, inv.certificates.lookup id = some c ∧ c.state = .renewed

/-- The call does not ask for the renewal of a certificate that is in `Renewed` already. -/
def SparesRenewed (inv : CertificateInventory) (call : RenewalCall) : Prop :=
  ∀ previousId, call.previousId = some previousId → ¬ inv.TracksRenewed previousId

/-- The call moves the certificate from `Renewed` along an edge of the transition table. -/
def LeavesRenewed (id : Uuid) (inv : CertificateInventory) (call : RenewalCall) : Prop :=
  inv.TracksRenewed id ∧ ∃ c', (inv.afterRenewal call).certificates.lookup id = some c' ∧
    LifecycleManager.allowed .renewed c'.state = true

/-- The call removes the certificate while it is in `Renewed`. -/
def DropsRenewed (id : Uuid) (inv : CertificateInventory) (call : RenewalCall) : Prop :=
  inv.TracksRenewed id ∧ (inv.afterRenewal call).certificates.lookup id = none

variable {inv inv' : CertificateInventory} {id previousId : Uuid} {call : RenewalCall}

/-- A renewal that succeeds is one by `register_renewal`. -/
theorem Renews.eq_registerRenewal (h : inv.Renews previousId call) : ∃ now replacement new,
    (inv.registerRenewal now previousId replacement).1 = .ok new ∧
      inv.afterRenewal call = (inv.registerRenewal now previousId replacement).2 := by
  obtain ⟨hid, hsucceeds⟩ := h
  cases call with
  | call call =>
    cases call with
    | registerRenewal now id replacement =>
      obtain rfl := Option.some.inj hid
      obtain ⟨new, hnew⟩ := hsucceeds
      exact ⟨now, replacement, new, hnew, rfl⟩
    | _ => exact hsucceeds.elim
  | renewIntoInventory now replacement workItem =>
    obtain ⟨new, hnew⟩ := hsucceeds
    rw [RenewalCall.previousId] at hid
    rw [afterRenewal]
    rw [RenewalExecutor.renewIntoInventory] at hnew ⊢
    split_ifs at hid hnew ⊢
    obtain rfl := Option.some.inj hid
    exact ⟨now, replacement, new, mapError_eq_ok_iff.mp hnew, rfl⟩

/-- A renewal that succeeds leaves what it renews in `Renewed`. -/
theorem Renews.tracksRenewed (h : inv.Renews previousId call) :
    (inv.afterRenewal call).TracksRenewed previousId := by
  obtain ⟨now, replacement, new, hnew, hafter⟩ := h.eq_registerRenewal
  rw [hafter]
  rcases inv.registerRenewal_cases now previousId replacement with
    ⟨e, he, -⟩ | ⟨c, c', hc, hc', hregister⟩
  · rw [he] at hnew
    cases hnew
  · rw [hregister]
    refine ⟨c', lookup_register ?_ _, LifecycleManager.state_eq_of_transition hc'⟩
    rw [lookup_put, if_pos rfl]

/-- The executor moves certificates only as `register_renewal` does. -/
theorem advances_afterRenewal (inv : CertificateInventory) (call : RenewalCall) :
    inv.Advances (inv.afterRenewal call) := by
  cases call with
  | call call => exact advances_after inv call
  | renewIntoInventory now replacement workItem =>
    rw [afterRenewal, RenewalExecutor.renewIntoInventory]
    split_ifs
    · exact .refl inv
    · exact advances_registerRenewal inv now workItem.certificateId replacement

/-- A step after which a renewed certificate is not tracked in `Renewed` any more has moved it
along an edge of the table, or removed it. -/
theorem leavesRenewed_or_dropsRenewed (h : inv.TracksRenewed id)
    (hafter : ¬ (inv.afterRenewal call).TracksRenewed id) :
    inv.LeavesRenewed id call ∨ inv.DropsRenewed id call := by
  obtain ⟨c, hc, hstate⟩ := h
  cases hc' : (inv.afterRenewal call).certificates.lookup id with
  | none => exact Or.inr ⟨⟨c, hc, hstate⟩, hc'⟩
  | some c' =>
    have hfollows := advances_afterRenewal inv call id c c' hc hc'
    rw [hstate] at hfollows
    rcases hfollows with hsame | hallowed
    · exact absurd ⟨c', hc', hsame.symm⟩ hafter
    · exact Or.inl ⟨⟨c, hc, hstate⟩, c', hc', hallowed⟩

/-- **Between two renewals of one certificate it has left `Renewed`**, in every run in which no call
asks for the renewal of a certificate that is in `Renewed` already: some step has moved it along an
edge of the transition table, unless it was removed. -/
theorem leavesRenewed_of_run {inv₁ inv₂ inv₃ : CertificateInventory} {first second : RenewalCall}
    (hfirst : (renewalSystem.restrict SparesRenewed).step inv first inv₁)
    (hrenews : inv.Renews previousId first)
    (run : (renewalSystem.restrict SparesRenewed).Run inv₁ inv₂)
    (hsecond : (renewalSystem.restrict SparesRenewed).step inv₂ second inv₃)
    (hrenews' : inv₂.Renews previousId second) :
    run.SomeStep (fun u call => u.LeavesRenewed previousId call ∨ u.DropsRenewed previousId call) ∧
      (run.AllStates (fun u => previousId ∈ u.certificates) →
        run.SomeStep (LeavesRenewed previousId)) := by
  have hlost : run.SomeStep fun u call =>
      u.LeavesRenewed previousId call ∨ u.DropsRenewed previousId call := by
    refine LTS.Run.someStep_of_lost (I := TracksRenewed previousId) ?_ ?_ run ?_
    · rintro u call v h hv ⟨-, rfl⟩
      exact leavesRenewed_or_dropsRenewed h hv
    · rw [hfirst.2]
      exact hrenews.tracksRenewed
    · exact hsecond.1 previousId hrenews'.1
  refine ⟨hlost, fun htracked => LTS.Run.SomeStep.of_allStates ?_ hlost htracked⟩
  rintro u call v (h | ⟨-, hnone⟩) ⟨-, rfl⟩ hmem
  · exact h
  · exact absurd hmem (Finmap.lookup_eq_none.mp hnone)

/-- A call that names a certificate in another state renews nothing already renewed. -/
theorem sparesRenewed_of_lookup {c : CertificateMetadata} (hid : call.previousId = some id)
    (hc : inv.certificates.lookup id = some c) (hstate : c.state ≠ .renewed) :
    inv.SparesRenewed call := by
  rintro previousId hprevious ⟨d, hd, hrenewed⟩
  obtain rfl := Option.some.inj (hid.symm.trans hprevious)
  obtain rfl := Option.some.inj (hc.symm.trans hd)
  exact hstate hrenewed

/-! ### Two renewals of one certificate -/

/-- A certificate was registered and its renewal is pending. -/
def queuedInventory : CertificateInventory :=
  (new.after (.register (sampleCertificate 1 "01" "aa"))).after (.transition 3 1 .renewalPending)

/-- Its work item. -/
def queuedWorkItem : RenewalWorkItem := ⟨1, .renew, 0, 4, (sampleCertificate 1 "01" "aa").identity⟩

def firstRenewal : RenewalCall :=
  .renewIntoInventory 5 (sampleCertificate 2 "02" "bb") queuedWorkItem

def secondRenewal : RenewalCall :=
  .renewIntoInventory 7 (sampleCertificate 3 "03" "cc") queuedWorkItem

/-- Its renewal becomes pending again after the first one. -/
def requeue : RenewalCall := .call (.transition 6 1 .renewalPending)

theorem renews_queuedInventory : queuedInventory.Renews 1 firstRenewal :=
  ⟨rfl, 2, by decide⟩

theorem leavesRenewed_of_run_requeue :
    (queuedInventory.afterRenewal firstRenewal).LeavesRenewed 1 requeue := by
  have hfirst : queuedInventory.SparesRenewed firstRenewal :=
    sparesRenewed_of_lookup rfl rfl (by decide)
  have hsecond : ((queuedInventory.afterRenewal firstRenewal).afterRenewal requeue).SparesRenewed
      secondRenewal :=
    sparesRenewed_of_lookup rfl rfl (by decide)
  have hrun := (leavesRenewed_of_run ⟨hfirst, rfl⟩ renews_queuedInventory
    (.snoc .nil requeue ⟨fun _ h => (nomatch h), rfl⟩) ⟨hsecond, rfl⟩ ⟨rfl, 3, by decide⟩).2
  have htracked : (1 : Uuid) ∈ (queuedInventory.afterRenewal firstRenewal).certificates := by
    decide
  exact (hrun ⟨htracked, by decide⟩).resolve_left fun h => h

/-- **A pending renewal yields two successors**: the two calls with one work item succeed, nothing
happens in between, and both replacements are active. -/
theorem two_successors_queuedInventory :
    Nonempty (renewalSystem.Run new queuedInventory) ∧
      (∃ c, queuedInventory.certificates.lookup 1 = some c ∧
        RenewalWorkItem.new (.constant 4) c = some queuedWorkItem) ∧
      queuedInventory.Renews 1 firstRenewal ∧
      (queuedInventory.afterRenewal firstRenewal).Renews 1 secondRenewal ∧
      ¬ LTS.Run.SomeStep (fun u call => u.LeavesRenewed 1 call ∨ u.DropsRenewed 1 call)
        (.nil : renewalSystem.Run (queuedInventory.afterRenewal firstRenewal) _) ∧
      ∀ id ∈ [2, 3], ∃ c, ((queuedInventory.afterRenewal firstRenewal).afterRenewal
        secondRenewal).certificates.lookup id = some c ∧ c.state = .active := by
  refine ⟨⟨(LTS.Run.nil.snoc (.call (.register (sampleCertificate 1 "01" "aa"))) rfl).snoc
    (.call (.transition 3 1 .renewalPending)) rfl⟩, ⟨_, rfl, by decide⟩, renews_queuedInventory,
    ⟨rfl, 3, by decide⟩, fun h => h, fun id hid => ?_⟩
  rw [List.mem_cons, List.mem_singleton] at hid
  rcases hid with rfl | rfl
  · exact ⟨_, rfl, rfl⟩
  · exact ⟨_, rfl, rfl⟩

end CertificateInventory

end DaemonPki
