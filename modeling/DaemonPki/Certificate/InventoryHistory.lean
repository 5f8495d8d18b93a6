import DaemonPki.Certificate.RenewalRuns
import Mathlib.Order.Basic

/-!
# Histories of the inventory

Every write to the metadata of a certificate sets `updated_at`
(`daemon-pki-core/src/certificate/metadata.rs`, `lifecycle.rs`), and the table of the inventory is
written by `register`, `register_renewal`, `remove` and through `get_mut` only
(`daemon-pki-core/src/certificate/inventory.rs`). In any run of all these calls, edits of the
metadata included, the answers tell which certificates are tracked. A history is such a run
together with the time, which goes on; the readings of the clock in a step lie between the time
before the step and the time after it. In a history `updated_at` tells what has been written since
an instant.

What one event does is proved once, for any relation that holds between a certificate and what the
event writes to it. With the relation that always holds it counts the certificates, and with the
one of an interval of time it dates them.

## Main definitions

* `DaemonPki.MetadataEdit`, `DaemonPki.InventoryEvent`, `DaemonPki.inventoryEvents`,
  `DaemonPki.inventoryHistory`.
* `DaemonPki.CertificateMetadata.Drafted`: how a certificate is made before it is entered.
* `DaemonPki.CertificateMetadata.Dated`, `DaemonPki.CertificateMetadata.Evolves`: the times of one
  certificate, and what is written to it in an interval of time.
* `DaemonPki.CertificateInventory.EventWrites`, `DaemonPki.CertificateInventory.Effect`: what one
  event writes, and what it does.

## Main results

* `DaemonPki.CertificateInventory.effect_afterEvent`.
* `DaemonPki.CertificateInventory.updatedAt_of_history`: what `updated_at` tells.
* `DaemonPki.CertificateInventory.population_of_history`: what the answers tell.
-/

namespace DaemonPki

open Foundation

/-- A method of the metadata that writes to it. -/
inductive MetadataEdit
  | markFingerprint (fingerprint : String)
  | addTag (tag : String)
  | assignWorkload (workloadId : String)
  | assignDevice (deviceId : String)
  | assignService (serviceId : String)

/-- The certificate after the method, with its reading of the clock. -/
def MetadataEdit.apply (now : OffsetDateTime) (c : CertificateMetadata) :
    MetadataEdit → CertificateMetadata
  | .markFingerprint fingerprint => c.markFingerprint now fingerprint
  | .addTag tag => c.addTag now tag
  | .assignWorkload workloadId => c.assignWorkload now workloadId
  | .assignDevice deviceId => c.assignDevice now deviceId
  | .assignService serviceId => c.assignService now serviceId

/-- A call on the inventory or of the renewal executor, or an edit of the metadata through the
reference that `get_mut` returns. -/
inductive InventoryEvent
  | call (call : RenewalCall)
  | edit (now : OffsetDateTime) (id : Uuid) (edit : MetadataEdit)

/-- The reading of the clock lies in the interval. -/
def ReadBetween (t t' now : OffsetDateTime) : Prop := t ≤ now ∧ now ≤ t'

namespace CertificateMetadata

variable {c c' c'' d : CertificateMetadata} {now t t' t'' : OffsetDateTime}

/-! ### One certificate -/

/-- `c'` is the certificate `c` at another time: what is written to it later is its state, its
fingerprint, its associations and tags, and the time of the update. -/
def SameCertificate (c c' : CertificateMetadata) : Prop :=
  c' = { c with
    state := c'.state
    fingerprintSha256 := c'.fingerprintSha256
    updatedAt := c'.updatedAt
    workloadId := c'.workloadId
    deviceId := c'.deviceId
    serviceId := c'.serviceId
    tags := c'.tags }

theorem SameCertificate.refl (c : CertificateMetadata) : c.SameCertificate c := rfl

theorem SameCertificate.trans (h : c.SameCertificate c') (h' : c'.SameCertificate c'') :
    c.SameCertificate c'' := by
  rw [SameCertificate, h', h]

theorem SameCertificate.createdAt_eq (h : c.SameCertificate c') : c'.createdAt = c.createdAt := by
  rw [h]

/-- The times of a certificate are in order and not after `t`, and no tag stands twice. -/
structure Dated (t : OffsetDateTime) (c : CertificateMetadata) : Prop where
  createdAt_le : c.createdAt ≤ c.updatedAt
  updatedAt_le : c.updatedAt ≤ t
  nodup_tags : c.tags.Nodup

theorem Dated.mono (h : c.Dated t) (ht : t ≤ t') : c.Dated t' :=
  ⟨h.createdAt_le, h.updatedAt_le.trans ht, h.nodup_tags⟩

/-- What is written to a certificate in an interval of time. -/
structure Evolves (t t' : OffsetDateTime) (c c' : CertificateMetadata) : Prop where
  same : c.SameCertificate c'
  updatedAt : c' = c ∨ ReadBetween t t' c'.updatedAt
  nodup_tags : c.tags.Nodup → c'.tags.Nodup

theorem Evolves.refl (t t' : OffsetDateTime) (c : CertificateMetadata) : c.Evolves t t' c :=
  ⟨.refl c, Or.inl rfl, fun hnodup => hnodup⟩

theorem Evolves.trans (h : c.Evolves t t' c') (h' : c'.Evolves t' t'' c'') (ht : t ≤ t')
    (ht' : t' ≤ t'') : c.Evolves t t'' c'' := by
  refine ⟨h.same.trans h'.same, ?_, h'.nodup_tags ∘ h.nodup_tags⟩
  rcases h'.updatedAt with rfl | hupdated'
  · exact h.updatedAt.imp_right fun hupdated => ⟨hupdated.1, hupdated.2.trans ht'⟩
  · exact Or.inr ⟨ht.trans hupdated'.1, hupdated'.2⟩

theorem Evolves.updatedAt_le (h : c.Evolves t t' c') (hc : c.Dated t) :
    c.updatedAt ≤ c'.updatedAt := by
  rcases h.updatedAt with rfl | hupdated
  · exact le_rfl
  · exact hc.updatedAt_le.trans hupdated.1

theorem Evolves.dated (h : c.Evolves t t' c') (hc : c.Dated t) (ht : t ≤ t') : c'.Dated t' := by
  refine ⟨?_, ?_, h.nodup_tags hc.nodup_tags⟩
  · rw [h.same.createdAt_eq]
    exact hc.createdAt_le.trans (h.updatedAt_le hc)
  · rcases h.updatedAt with rfl | hupdated
    · exact hc.updatedAt_le.trans ht
    · exact hupdated.2

theorem evolves_of_restates (h : c.Restates c')
    (hupdated : c' = c ∨ ReadBetween t t' c'.updatedAt) : c.Evolves t t' c' := by
  refine ⟨?_, hupdated, ?_⟩
  · rw [SameCertificate, h]
  · rw [h]
    exact fun hnodup => hnodup

theorem evolves_of_transition {next : CertificateState} (hnow : ReadBetween t t' now)
    (h : LifecycleManager.transition now c next = .ok c') : c.Evolves t t' c' := by
  refine evolves_of_restates (LifecycleManager.restates_of_transition h) ?_
  rcases LifecycleManager.transition_eq_ok_iff.mp h with ⟨-, rfl⟩ | ⟨-, rfl⟩
  · exact Or.inl rfl
  · exact Or.inr hnow

theorem evolves_of_evaluate {clock : LifecycleManager.EvaluationClock}
    (hclock : ReadBetween t t' clock.updated) (h : LifecycleManager.evaluate clock c = .ok c') :
    c.Evolves t t' c' := by
  rcases LifecycleManager.evaluate_eq_ok h with rfl | ⟨next, h⟩
  · exact .refl t t' _
  · exact evolves_of_transition hclock h

/-- An edit writes the time with everything else. The one that may write nothing is `add_tag`,
when the tag is there. -/
theorem evolves_apply (hnow : ReadBetween t t' now) (c : CertificateMetadata)
    (edit : MetadataEdit) : c.Evolves t t' (edit.apply now c) := by
  cases edit with
  | addTag tag =>
    rw [MetadataEdit.apply, addTag]
    split_ifs with htag
    · exact .refl t t' c
    · refine ⟨rfl, Or.inr hnow, fun hnodup => ?_⟩
      exact hnodup.append (List.nodup_singleton tag) (List.disjoint_singleton.mpr htag)
  | _ => exact ⟨rfl, Or.inr hnow, fun hnodup => hnodup⟩

/-- The certificates that are made before they are entered, with readings of the clock no later
than `t`: `CertificateMetadata::new`, then edits and transitions. -/
inductive Drafted : OffsetDateTime → CertificateMetadata → Prop
  | new (id : Uuid) (now : OffsetDateTime) (serialNumber issuer subject : String)
      (identity : CertificateIdentity) (notBefore notAfter : OffsetDateTime) :
      Drafted now (.new id now serialNumber issuer subject identity notBefore notAfter)
  | edit {t now : OffsetDateTime} {c : CertificateMetadata} (h : Drafted t c) (hnow : t ≤ now)
      (edit : MetadataEdit) : Drafted now (edit.apply now c)
  | transition {t now : OffsetDateTime} {c c' : CertificateMetadata} {next : CertificateState}
      (h : Drafted t c) (hnow : t ≤ now) (hc : LifecycleManager.transition now c next = .ok c') :
      Drafted now c'

theorem Drafted.dated (h : Drafted t c) : c.Dated t := by
  induction h with
  | new => exact ⟨le_rfl, le_rfl, List.nodup_nil⟩
  | edit _ hnow edit ih => exact (evolves_apply ⟨hnow, le_rfl⟩ _ edit).dated ih hnow
  | transition _ hnow hc ih => exact (evolves_of_transition ⟨hnow, le_rfl⟩ hc).dated ih hnow

end CertificateMetadata

/-! ### Events -/

/-- The certificate was made with readings of the clock no later than `t`. -/
def CertificateMetadata.DraftedBy (t : OffsetDateTime) (c : CertificateMetadata) : Prop :=
  ∃ now, now ≤ t ∧ c.Drafted now

theorem CertificateMetadata.DraftedBy.dated {t : OffsetDateTime} {c : CertificateMetadata}
    (h : c.DraftedBy t) : c.Dated t := by
  obtain ⟨now, hnow, hdrafted⟩ := h
  exact hdrafted.dated.mono hnow

/-- The readings of the clock lie in the interval. -/
def LifecycleManager.EvaluationClock.ReadsWithin (t t' : OffsetDateTime)
    (clock : LifecycleManager.EvaluationClock) : Prop :=
  ReadBetween t t' clock.now ∧ ReadBetween t t' clock.remaining ∧ ReadBetween t t' clock.updated

/-- The readings of the clock lie in the interval, and what is to be entered was made before its
end. -/
def InventoryCall.ReadsWithin (t t' : OffsetDateTime) : InventoryCall → Prop
  | .register certificate => certificate.DraftedBy t'
  | .registerRenewal now _ replacement => ReadBetween t t' now ∧ replacement.DraftedBy t'
  | .remove _ => True
  | .revoke now _ | .markRenewed now _ | .transition now _ _ => ReadBetween t t' now
  | .evaluateLifecycle clock _ => ∀ id, (clock id).ReadsWithin t t'
  | .evaluate clock _ => clock.ReadsWithin t t'

namespace InventoryEvent

/-- The readings of the clock lie in the interval, and what is to be entered was made before its
end. -/
def ReadsWithin (t t' : OffsetDateTime) : InventoryEvent → Prop
  | call (.call operation) => operation.ReadsWithin t t'
  | call (.renewIntoInventory now replacement _) =>
    ReadBetween t t' now ∧ replacement.DraftedBy t'
  | edit now _ _ => ReadBetween t t' now

/-- The certificate that the answer to the event says was entered. -/
def entered (inv : CertificateInventory) : InventoryEvent → Option Uuid
  | call (.call (.register certificate)) => (inv.register certificate).1.toOption
  | call (.call (.registerRenewal now previousId replacement)) =>
    (inv.registerRenewal now previousId replacement).1.toOption
  | call (.renewIntoInventory now replacement workItem) =>
    (RenewalExecutor.renewIntoInventory inv now replacement workItem).1.toOption
  | _ => none

/-- The certificate that the answer to the event says was removed. -/
def removed (inv : CertificateInventory) : InventoryEvent → Option Uuid
  | call (.call (.remove id)) => (inv.remove id).1.toOption.map fun _ => id
  | _ => none

end InventoryEvent

namespace CertificateInventory

/-- The inventory that an event leaves behind, whether it succeeds or fails. -/
def afterEvent (inv : CertificateInventory) : InventoryEvent → CertificateInventory
  | .call call => inv.afterRenewal call
  | .edit now id edit => (inv.modify id fun c => .ok (edit.apply now c)).2

end CertificateInventory

/-- The inventory under all events. -/
def inventoryEvents : LTS CertificateInventory InventoryEvent :=
  .ofFun CertificateInventory.afterEvent

/-- The inventory and the time under all events. -/
def inventoryHistory : LTS (CertificateInventory × OffsetDateTime) InventoryEvent where
  step u event v := u.2 ≤ v.2 ∧ event.ReadsWithin u.2 v.2 ∧ v.1 = u.1.afterEvent event

namespace CertificateInventory

variable {R : CertificateMetadata → CertificateMetadata → Prop} {P : CertificateMetadata → Prop}
  {inv inv' : CertificateInventory} {id : Uuid} {c c' : CertificateMetadata}
  {now t t' : OffsetDateTime}

/-! ### What one event does -/

/-- The same certificates are tracked, and what was written to them is as `R` says. -/
def Rewritten (R : CertificateMetadata → CertificateMetadata → Prop)
    (inv inv' : CertificateInventory) : Prop :=
  ∀ id, Option.Rel R (inv.certificates.lookup id) (inv'.certificates.lookup id)

/-- What one event does: it writes to the tracked certificates, and after that it may enter one
more, which satisfies `P`, or it takes one out and does nothing else. The two identifiers are those
that the answer gives. -/
inductive Effect (R : CertificateMetadata → CertificateMetadata → Prop)
    (P : CertificateMetadata → Prop) (inv : CertificateInventory) :
    Option Uuid → Option Uuid → CertificateInventory → Prop
  | rewrites {inv' : CertificateInventory} (h : inv.Rewritten R inv') :
      Effect R P inv none none inv'
  | enters {inv₁ : CertificateInventory} {c : CertificateMetadata}
      (h : inv.Rewritten R inv₁) (hacc : inv₁.Accepts c) (hc : P c) :
      Effect R P inv (some c.id) none (inv₁.track c)
  | drops {id : Uuid} {c : CertificateMetadata} (hc : inv.certificates.lookup id = some c) :
      Effect R P inv none (some id) (inv.untrack id c)

theorem Rewritten.lookup (h : inv.Rewritten R inv') (hc : inv.certificates.lookup id = some c) :
    ∃ c', inv'.certificates.lookup id = some c' ∧ R c c' := by
  have hid := h id
  rw [hc] at hid
  generalize inv'.certificates.lookup id = entry at hid
  cases hid with
  | some hwritten => exact ⟨_, rfl, hwritten⟩

theorem Rewritten.mem_iff (h : inv.Rewritten R inv') :
    id ∈ inv'.certificates ↔ id ∈ inv.certificates := by
  have hid := h id
  rw [← Finmap.lookup_isSome, ← Finmap.lookup_isSome]
  generalize inv.certificates.lookup id = entry at hid ⊢
  generalize inv'.certificates.lookup id = entry' at hid ⊢
  cases hid with
  | none => exact Iff.rfl
  | some _ => exact Iff.rfl

/-- The transitions at the instant write what `R` says. -/
def TransitionsWrite (R : CertificateMetadata → CertificateMetadata → Prop)
    (now : OffsetDateTime) : Prop :=
  ∀ c next c', LifecycleManager.transition now c next = .ok c' → R c c'

/-- A renewal at the instant writes what `R` says, and the successor that it makes of the
replacement satisfies `P`. -/
def RenewalWrites (R : CertificateMetadata → CertificateMetadata → Prop)
    (P : CertificateMetadata → Prop) (inv : CertificateInventory) (now : OffsetDateTime)
    (previousId : Uuid) (replacement : CertificateMetadata) : Prop :=
  TransitionsWrite R now ∧ ∀ c c', inv.certificates.lookup previousId = some c → R c c' →
    P (successor c' replacement)

/-- The event writes to each certificate what `R` says, and what it enters satisfies `P`. -/
def EventWrites (R : CertificateMetadata → CertificateMetadata → Prop)
    (P : CertificateMetadata → Prop) (inv : CertificateInventory) : InventoryEvent → Prop
  | .call (.call (.register certificate)) => P certificate
  | .call (.call (.registerRenewal now previousId replacement)) =>
    inv.RenewalWrites R P now previousId replacement
  | .call (.call (.remove _)) => True
  | .call (.call (.revoke now _)) | .call (.call (.markRenewed now _))
  | .call (.call (.transition now _ _)) => TransitionsWrite R now
  | .call (.call (.evaluateLifecycle clock _)) =>
    ∀ id c c', LifecycleManager.evaluate (clock id) c = .ok c' → R c c'
  | .call (.call (.evaluate clock _)) =>
    ∀ c c', LifecycleManager.evaluate clock c = .ok c' → R c c'
  | .call (.renewIntoInventory now replacement workItem) =>
    inv.RenewalWrites R P now workItem.certificateId replacement
  | .edit now _ edit => ∀ c, R c (edit.apply now c)

section Effects

variable [Std.Refl R]

theorem Rewritten.refl (R : CertificateMetadata → CertificateMetadata → Prop) [Std.Refl R]
    (inv : CertificateInventory) : inv.Rewritten R inv := by
  intro id
  cases inv.certificates.lookup id with
  | none => exact .none
  | some c => exact .some (Std.Refl.refl c)

theorem rewritten_put (hc : inv.certificates.lookup id = some c) (h : R c c') :
    inv.Rewritten R (inv.put id c') := by
  intro k
  rw [lookup_put]
  split_ifs with hk
  · rw [hk, hc]
    exact .some h
  · exact Rewritten.refl R inv k

theorem rewritten_modify {f : CertificateMetadata → Except LifecycleError CertificateMetadata}
    (hf : ∀ c c', f c = .ok c' → R c c') (inv : CertificateInventory) (id : Uuid) :
    inv.Rewritten R (inv.modify id f).2 := by
  rcases inv.modify_cases id f with ⟨-, h⟩ | ⟨c, e, -, -, h⟩ | ⟨c, c', hc, hc', h⟩ <;> rw [h]
  · exact .refl R inv
  · exact .refl R inv
  · exact rewritten_put hc (hf c c' hc')

theorem rewritten_evaluateLifecycle {clock : Uuid → LifecycleManager.EvaluationClock}
    (hclock : ∀ id c c', LifecycleManager.evaluate (clock id) c = .ok c' → R c c')
    (order : inv.certificates.Order) : inv.Rewritten R (inv.evaluateLifecycle clock order).2 := by
  intro k
  rcases (evaluateLoop_lookup clock order.nodup 0 inv).2.2 k with h | ⟨-, c, c', hc, hc', h⟩
  · rw [evaluateLifecycle, h]
    exact Rewritten.refl R inv k
  · rw [evaluateLifecycle, h, hc]
    exact .some (hclock k c c' hc')

theorem effect_register (hc : P c) :
    inv.Effect R P (inv.register c).1.toOption none (inv.register c).2 := by
  by_cases hacc : inv.Accepts c
  · rw [register_of_accepts hacc]
    exact .enters (.refl R inv) hacc hc
  · obtain ⟨e, he, -⟩ := register_of_not_accepts hacc
    rw [he]
    exact .rewrites (.refl R inv)

theorem effect_registerRenewal {previousId : Uuid} {replacement : CertificateMetadata}
    (h : inv.RenewalWrites R P now previousId replacement) :
    inv.Effect R P (inv.registerRenewal now previousId replacement).1.toOption none
      (inv.registerRenewal now previousId replacement).2 := by
  rcases inv.registerRenewal_cases now previousId replacement with
    ⟨e, he, -⟩ | ⟨c, c', hc, hc', hregister⟩
  · rw [he]
    exact .rewrites (.refl R inv)
  · have hwritten : R c c' := h.1 c _ c' hc'
    have hput : inv.Rewritten R (inv.put previousId c') := rewritten_put hc hwritten
    rw [hregister]
    by_cases hacc : (inv.put previousId c').Accepts (successor c' replacement)
    · rw [register_of_accepts hacc]
      exact .enters hput hacc (h.2 c c' hc hwritten)
    · obtain ⟨e, he, -⟩ := register_of_not_accepts hacc
      rw [he]
      exact .rewrites hput

theorem effect_remove (inv : CertificateInventory) (id : Uuid) :
    inv.Effect R P none ((inv.remove id).1.toOption.map fun _ => id) (inv.remove id).2 := by
  rw [remove]
  split
  · exact .rewrites (.refl R inv)
  · exact .drops ‹_›

theorem effect_after {call : InventoryCall} (h : inv.EventWrites R P (.call (.call call))) :
    inv.Effect R P (InventoryEvent.entered inv (.call (.call call)))
      (InventoryEvent.removed inv (.call (.call call))) (inv.after call) := by
  have htransition {now : OffsetDateTime} (hnow : TransitionsWrite R now) (id : Uuid)
      (next : CertificateState) : inv.Rewritten R (inv.transition now id next).2 :=
    rewritten_modify (fun c => hnow c next) inv id
  cases call with
  | register c => exact effect_register h
  | registerRenewal now previousId replacement => exact effect_registerRenewal h
  | remove id => exact effect_remove inv id
  | revoke now id => exact .rewrites (htransition h id .revoked)
  | markRenewed now id => exact .rewrites (htransition h id .renewed)
  | evaluateLifecycle clock iteration => exact .rewrites (rewritten_evaluateLifecycle h _)
  | transition now id next => exact .rewrites (htransition h id next)
  | evaluate clock id => exact .rewrites (rewritten_modify h inv id)

/-- **What one event does.** -/
theorem effect_afterEvent {event : InventoryEvent} (h : inv.EventWrites R P event) :
    inv.Effect R P (event.entered inv) (event.removed inv) (inv.afterEvent event) := by
  cases event with
  | edit now id edit =>
    refine .rewrites (rewritten_modify (fun c c' hc' => ?_) inv id)
    rw [← Except.ok.inj hc']
    exact h c
  | call call =>
    cases call with
    | call call => exact effect_after h
    | renewIntoInventory now replacement workItem =>
      rw [afterEvent, afterRenewal, InventoryEvent.entered, RenewalExecutor.renewIntoInventory]
      split_ifs with haction
      · exact .rewrites (.refl R inv)
      · simp only [toOption_mapError]
        exact effect_registerRenewal h

end Effects

/-! ### What an event does in an interval of time -/

/-- The times of every tracked certificate are in order and not after `t`, and no tag stands
twice. -/
def Dated (t : OffsetDateTime) (inv : CertificateInventory) : Prop :=
  ∀ id c, inv.certificates.lookup id = some c → c.Dated t

instance (t t' : OffsetDateTime) : Std.Refl (CertificateMetadata.Evolves t t') :=
  ⟨.refl t t'⟩

/-- The successor has its own times, and the tags of its predecessor. -/
theorem renewalWrites_of_readBetween (h : inv.Dated t) (hnow : ReadBetween t t' now)
    {previousId : Uuid} {replacement : CertificateMetadata} (hreplacement : replacement.Dated t') :
    inv.RenewalWrites (CertificateMetadata.Evolves t t') (CertificateMetadata.Dated t') now
      previousId replacement :=
  ⟨fun _ _ _ => CertificateMetadata.evolves_of_transition hnow, fun c _ hc hevolves =>
    ⟨hreplacement.createdAt_le, hreplacement.updatedAt_le,
      hevolves.nodup_tags (h previousId c hc).nodup_tags⟩⟩

/-- What an event writes to an inventory whose certificates are dated. -/
theorem eventWrites_of_readsWithin (h : inv.Dated t) {event : InventoryEvent}
    (hreads : event.ReadsWithin t t') :
    inv.EventWrites (CertificateMetadata.Evolves t t') (CertificateMetadata.Dated t') event := by
  have htransition {now : OffsetDateTime} (hnow : ReadBetween t t' now) :
      TransitionsWrite (CertificateMetadata.Evolves t t') now :=
    fun _ _ _ => CertificateMetadata.evolves_of_transition hnow
  cases event with
  | edit now id edit => exact fun c => CertificateMetadata.evolves_apply hreads c edit
  | call call =>
    cases call with
    | renewIntoInventory now replacement workItem =>
      exact renewalWrites_of_readBetween h hreads.1 hreads.2.dated
    | call call =>
      cases call with
      | register c => exact hreads.dated
      | registerRenewal now previousId replacement =>
        exact renewalWrites_of_readBetween h hreads.1 hreads.2.dated
      | remove id => trivial
      | revoke now id => exact htransition hreads
      | markRenewed now id => exact htransition hreads
      | evaluateLifecycle clock iteration =>
        exact fun id _ _ => CertificateMetadata.evolves_of_evaluate (hreads id).2.2
      | transition now id next => exact htransition hreads
      | evaluate clock id => exact fun _ _ => CertificateMetadata.evolves_of_evaluate hreads.2.2

/-- **What one event does** to an inventory whose certificates are dated. -/
theorem effect_of_readsWithin (h : inv.Dated t) {event : InventoryEvent}
    (hreads : event.ReadsWithin t t') :
    inv.Effect (CertificateMetadata.Evolves t t') (CertificateMetadata.Dated t')
      (event.entered inv) (event.removed inv) (inv.afterEvent event) :=
  effect_afterEvent (eventWrites_of_readsWithin h hreads)

/-! ### What `updated_at` tells -/

theorem dated_new (t : OffsetDateTime) : new.Dated t := by
  intro id c hc
  rw [new, Finmap.lookup_empty] at hc
  cases hc

theorem Rewritten.dated (h : inv.Rewritten (CertificateMetadata.Evolves t t') inv')
    (hdated : inv.Dated t) (ht : t ≤ t') : inv'.Dated t' := by
  intro id c' hc'
  have hid := h id
  rw [hc'] at hid
  cases hc : inv.certificates.lookup id with
  | none =>
    rw [hc] at hid
    cases hid
  | some c =>
    rw [hc] at hid
    cases hid with
    | some hevolves => exact hevolves.dated (hdated id c hc) ht

variable {entered removed : Option Uuid}

theorem Effect.dated (h : inv.Effect (CertificateMetadata.Evolves t t')
    (CertificateMetadata.Dated t') entered removed inv') (hdated : inv.Dated t) (ht : t ≤ t') :
    inv'.Dated t' := by
  cases h with
  | rewrites h => exact h.dated hdated ht
  | enters h hacc hc =>
    intro k d hd
    rw [lookup_track] at hd
    split_ifs at hd with hk
    · rwa [← Option.some.inj hd]
    · exact h.dated hdated ht k d hd
  | drops hc =>
    intro k d hd
    rw [lookup_untrack] at hd
    split_ifs at hd with hk
    exact (hdated k d hd).mono ht

/-- What an event has written to a certificate that is still tracked. -/
theorem Effect.lookup [Std.Refl R] (h : inv.Effect R P entered removed inv')
    (hc : inv.certificates.lookup id = some c) (hid : id ∈ inv'.certificates) :
    ∃ c', inv'.certificates.lookup id = some c' ∧ R c c' := by
  cases h with
  | rewrites h => exact h.lookup hc
  | @enters inv₁ d h hacc hd =>
    obtain ⟨c', hc', hwritten⟩ := h.lookup hc
    refine ⟨c', ?_, hwritten⟩
    rw [lookup_track, if_neg, hc']
    rintro rfl
    exact hacc.1 (Finmap.mem_of_lookup_eq_some hc')
  | @drops k d hd =>
    obtain ⟨c', hc'⟩ := Finmap.mem_iff.mp hid
    rw [lookup_untrack] at hc' ⊢
    split_ifs at hc' ⊢ with hk
    exact ⟨c, hc, Std.Refl.refl c⟩

theorem dated_step {u v : CertificateInventory × OffsetDateTime} {event : InventoryEvent}
    (h : u.1.Dated u.2) (hstep : inventoryHistory.step u event v) : v.1.Dated v.2 := by
  obtain ⟨ht, hreads, hafter⟩ := hstep
  rw [hafter]
  exact (effect_of_readsWithin h hreads).dated h ht

/-- What the steps of a history do to a certificate that stays tracked. -/
theorem evolves_of_history {u v : CertificateInventory × OffsetDateTime}
    (run : inventoryHistory.Run u v)
    (htracked : run.AllStates fun w => id ∈ w.1.certificates) (hdated : u.1.Dated u.2)
    (hc : u.1.certificates.lookup id = some c) :
    ∃ c', v.1.certificates.lookup id = some c' ∧ c.Evolves u.2 v.2 c' := by
  let R (u v : CertificateInventory × OffsetDateTime) : Prop :=
    u.1.Dated u.2 → u.2 ≤ v.2 ∧ v.1.Dated v.2 ∧ ∀ c, u.1.certificates.lookup id = some c →
      ∃ c', v.1.certificates.lookup id = some c' ∧ c.Evolves u.2 v.2 c'
  have hrun : R u v := by
    refine run.rel_while (R := R) (fun u hu => ?_) (fun u v w huv hvw hu => ?_)
      (fun u event v hv hstep hu => ?_) htracked
    · exact ⟨le_rfl, hu, fun c hc => ⟨c, hc, .refl u.2 u.2 c⟩⟩
    · obtain ⟨ht, hv, hlookup⟩ := huv hu
      obtain ⟨ht', hw, hlookup'⟩ := hvw hv
      refine ⟨ht.trans ht', hw, fun c hc => ?_⟩
      obtain ⟨c', hc', hevolves⟩ := hlookup c hc
      obtain ⟨c'', hc'', hevolves'⟩ := hlookup' c' hc'
      exact ⟨c'', hc'', hevolves.trans hevolves' ht ht'⟩
    · have hv' := dated_step hu hstep
      obtain ⟨ht, hreads, hafter⟩ := hstep
      refine ⟨ht, hv', fun c hc => ?_⟩
      rw [hafter] at hv ⊢
      exact (effect_of_readsWithin hu hreads).lookup hc hv
  exact (hrun hdated).2.2 c hc

/-- **What `updated_at` tells.** At every time of a history of the inventory no tracked certificate
was updated before it was made or after the present, and none has a tag twice. From any time `t` of
a history on, a certificate that stays tracked is the same certificate, its `updated_at` never goes
back, and while it lies before `t` nothing at all was written to the certificate since `t`. -/
theorem updatedAt_of_history {t₀ : OffsetDateTime}
    (run : inventoryHistory.Run (new, t₀) (inv, t))
    (later : inventoryHistory.Run (inv, t) (inv', t')) :
    inv.Dated t ∧ ∀ id c, inv.certificates.lookup id = some c →
      later.AllStates (fun u => id ∈ u.1.certificates) →
        ∃ c', inv'.certificates.lookup id = some c' ∧ c.SameCertificate c' ∧
          c.updatedAt ≤ c'.updatedAt ∧ (c'.updatedAt < t → c' = c) := by
  have hdated : inv.Dated t :=
    run.invariant (I := fun u => u.1.Dated u.2) (fun _ _ _ => dated_step) (dated_new t₀)
  refine ⟨hdated, fun id c hc htracked => ?_⟩
  obtain ⟨c', hc', hevolves⟩ := evolves_of_history later htracked hdated hc
  refine ⟨c', hc', hevolves.same, hevolves.updatedAt_le (hdated id c hc), fun hbefore => ?_⟩
  exact hevolves.updatedAt.resolve_right fun hupdated => absurd hbefore (not_lt.mpr hupdated.1)

/-- A certificate that was made at the instant 3, and got its fingerprint at the instant 4. -/
def draftCertificate : CertificateMetadata :=
  (CertificateMetadata.new 1 3 "01" "intermediate" "workload"
    ⟨some "workload", [], [], true, false⟩ 0 7776000000000000).markFingerprint 4 "aa"

theorem draftedBy_draftCertificate : draftCertificate.DraftedBy 5 :=
  ⟨4, by decide, .edit (.new 1 3 "01" "intermediate" "workload" _ 0 7776000000000000) (by decide)
    (.markFingerprint "aa")⟩

/-- It is registered, -/
def draftRegistration : InventoryEvent := .call (.call (.register draftCertificate))

/-- and gets a tag at the instant 7. -/
def draftTag : InventoryEvent := .edit 7 1 (.addTag "edge")

theorem updatedAt_of_history_draftTag :
    ∃ c, ((new.afterEvent draftRegistration).afterEvent draftTag).certificates.lookup 1 = some c ∧
      draftCertificate.SameCertificate c ∧ draftCertificate.updatedAt ≤ c.updatedAt ∧
        (c.updatedAt < 5 → c = draftCertificate) := by
  have hregistration : inventoryHistory.step (new, 0) draftRegistration
      (new.afterEvent draftRegistration, 5) :=
    ⟨by decide, draftedBy_draftCertificate, rfl⟩
  have htag : inventoryHistory.step (new.afterEvent draftRegistration, 5) draftTag
      ((new.afterEvent draftRegistration).afterEvent draftTag, 8) :=
    ⟨by decide, ⟨by decide, by decide⟩, rfl⟩
  have hbefore : (1 : Uuid) ∈ (new.afterEvent draftRegistration).certificates := by decide
  exact (updatedAt_of_history (LTS.Run.nil.snoc draftRegistration hregistration)
    (LTS.Run.nil.snoc draftTag htag)).2 1 draftCertificate rfl ⟨hbefore, by decide⟩

/-! ### What the answers tell -/

theorem Rewritten.len_eq (h : inv.Rewritten R inv') : inv'.len = inv.len := by
  have hkeys : inv'.certificates.keys = inv.certificates.keys := by
    ext id
    rw [Finmap.mem_keys, Finmap.mem_keys, h.mem_iff]
  rw [len, len, HashMap.len, HashMap.len, hkeys]

/-- The answer to an event tells by how much the number of certificates changes. -/
theorem Effect.len_balance (h : inv.Effect R P entered removed inv') :
    (inv'.len + if removed.isSome then 1 else 0) = inv.len + if entered.isSome then 1 else 0 := by
  cases h with
  | rewrites h =>
    rw [h.len_eq]
  | enters h hacc hc =>
    rw [← h.len_eq]
    exact HashMap.len_insert_of_lookup_eq_none (lookup_eq_none_of_accepts hacc) _
  | drops hc => exact HashMap.len_erase_of_mem (Finmap.mem_of_lookup_eq_some hc)

/-- The answer to an event tells which certificate comes or goes. -/
theorem Effect.mem_balance (h : inv.Effect R P entered removed inv') (id : Uuid) :
    ((if id ∈ inv'.certificates then 1 else 0) + if removed = some id then 1 else 0) =
      (if id ∈ inv.certificates then 1 else 0) + if entered = some id then 1 else 0 := by
  cases h with
  | rewrites h => simp only [h.mem_iff, reduceCtorEq, if_false]
  | @enters inv₁ c h hacc hc =>
    have hmem : id ∈ (inv₁.track c).certificates ↔ id = c.id ∨ id ∈ inv.certificates := by
      rw [track, Finmap.mem_insert, h.mem_iff]
    have hfresh : c.id ∉ inv.certificates := fun hid => hacc.1 (h.mem_iff.mpr hid)
    by_cases hid : id = c.id
    · subst hid
      simp [hmem, hfresh]
    · simp [hmem, hid, Ne.symm hid]
  | @drops k c hc =>
    have hk : k ∈ inv.certificates := Finmap.mem_of_lookup_eq_some hc
    have hmem : id ∈ (inv.untrack k c).certificates ↔ id ≠ k ∧ id ∈ inv.certificates := by
      rw [untrack, Finmap.mem_erase]
    by_cases hid : id = k
    · subst hid
      simp [hmem, hk]
    · simp [hmem, hid, Ne.symm hid]

/-- Whatever an event writes and enters, its answer tells what comes and goes. -/
theorem effect_unrestricted (inv : CertificateInventory) (event : InventoryEvent) :
    inv.Effect (fun _ _ => True) (fun _ => True) (event.entered inv) (event.removed inv)
      (inv.afterEvent event) := by
  have hrefl : Std.Refl fun _ _ : CertificateMetadata => True := ⟨fun _ => trivial⟩
  refine effect_afterEvent ?_
  cases event with
  | edit now id edit => exact fun _ => trivial
  | call call =>
    cases call with
    | renewIntoInventory now replacement workItem =>
      exact ⟨fun _ _ _ _ => trivial, fun _ _ _ _ => trivial⟩
    | call call =>
      cases call with
      | register c => trivial
      | registerRenewal now previousId replacement =>
        exact ⟨fun _ _ _ _ => trivial, fun _ _ _ _ => trivial⟩
      | remove id => trivial
      | evaluate clock id => exact fun _ _ _ => trivial
      | _ => exact fun _ _ _ _ => trivial

/-- **What the answers tell.** Along every run of events from an empty inventory, whatever their
readings of the clock and the certificates, failing calls included, a certificate is tracked exactly
when the answers have entered its identifier once more than they have removed it; otherwise they
have removed it as often as entered. The total of the counts by state is the number of all entries
less the number of all removals. -/
theorem population_of_history (run : inventoryEvents.Run new inv) :
    (∀ id, run.count (fun u event => event.entered u = some id) =
      run.count (fun u event => event.removed u = some id) +
        if id ∈ inv.certificates then 1 else 0) ∧
    ∀ order : inv.certificates.Order,
      run.count (fun u event => (event.entered u).isSome) =
        run.count (fun u event => (event.removed u).isSome) + (inv.stateCounts order).total := by
  refine ⟨fun id => ?_, fun order => ?_⟩
  · have h := run.count_balance (I := fun _ => True)
      (m := fun u => if id ∈ u.certificates then 1 else 0) (fun _ _ _ _ _ => trivial)
      (fun u event v _ hstep => by
        rw [hstep]
        exact (effect_unrestricted u event).mem_balance id) trivial
    have hnew : id ∉ new.certificates := Finmap.notMem_empty
    rw [if_neg hnew, Nat.zero_add] at h
    rw [← h, Nat.add_comm]
  · have h := run.count_balance (I := fun _ => True) (m := fun u => u.len)
      (fun _ _ _ _ _ => trivial)
      (fun u event v _ hstep => by
        rw [hstep]
        exact (effect_unrestricted u event).len_balance) trivial
    have hnew : new.len = 0 := rfl
    rw [hnew, Nat.zero_add] at h
    rw [← h, total_stateCounts, Nat.add_comm]

end CertificateInventory

end DaemonPki
