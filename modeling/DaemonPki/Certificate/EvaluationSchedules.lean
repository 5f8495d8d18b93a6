import DaemonPki.Certificate.LifecyclePass
import Mathlib.Data.Option.Basic

/-!
# Schedules of evaluations

The lifecycle of an inventory is driven from outside: somebody calls `evaluate_lifecycle`, or
`evaluate` on single certificates, now and then (`daemon-pki-core/src/certificate/inventory.rs`
and `lifecycle.rs`). How often, in which order and for which certificates is left open, and a pass
may stop half-way. It does not matter in the end: what was evaluated earlier is, after a pass, as
if it had not been.

## Main definitions

* `DaemonPki.evaluationsUpTo`: the runs of evaluations that read the clock up to an instant.
* `DaemonPki.CertificateMetadata.EvaluatedUpTo`, `DaemonPki.CertificateInventory.EvaluatedUpTo`:
  what such a run may have done to a certificate and to an inventory.
* `DaemonPki.CertificateInventory.Agrees`: equal up to the times of the last updates.

## Main results

* `DaemonPki.CertificateMetadata.evaluatedUpTo_of_evaluate`: what one evaluation may have done.
* `DaemonPki.CertificateInventory.evaluateLifecycle_of_schedules`: two schedules, continued by a
  pass each, lead to inventories that agree.
-/

namespace DaemonPki

open Foundation

/-- The readings that the evaluation compares with the times of a certificate are taken no later
than at `t`. -/
def LifecycleManager.EvaluationClock.ReadBy (t : OffsetDateTime)
    (clock : LifecycleManager.EvaluationClock) : Prop :=
  clock.now ≤ t ∧ clock.remaining ≤ t

/-- The call evaluates, reads the clock no later than at `t` and does nothing else. -/
def InventoryCall.EvaluatesBy (t : OffsetDateTime) : InventoryCall → Prop
  | .evaluateLifecycle clock _ => ∀ id, (clock id).ReadBy t
  | .evaluate clock _ => clock.ReadBy t
  | _ => False

/-- The inventory under evaluations of single certificates and of the whole, completed or not,
that read the clock no later than at `t`. -/
def evaluationsUpTo (t : OffsetDateTime) : LTS CertificateInventory InventoryCall :=
  inventorySystem.restrict fun _ call => call.EvaluatesBy t

namespace CertificateMetadata

variable {t : OffsetDateTime} {c c' c'' : CertificateMetadata}

theorem Restates.trans (h : c.Restates c') (h' : c'.Restates c'') : c.Restates c'' := by
  rw [h] at h'
  exact h'

/-- Two restatements of one certificate restate each other. -/
theorem Restates.of_common (h : c.Restates c') (h' : c.Restates c'') : c'.Restates c'' := by
  rw [Restates, h]
  exact h'

/-- What evaluations up to `t` may have done to a certificate: to the evaluation at `t` it makes
no difference. -/
structure EvaluatedUpTo (t : OffsetDateTime) (c c' : CertificateMetadata) : Prop where
  restates : c.Restates c'
  revoked_iff : c'.state = .revoked ↔ c.state = .revoked
  state_eq : (c'.evaluated t).state = (c.evaluated t).state

namespace EvaluatedUpTo

theorem refl (t : OffsetDateTime) (c : CertificateMetadata) : EvaluatedUpTo t c c :=
  ⟨.refl c, Iff.rfl, rfl⟩

theorem trans (h : EvaluatedUpTo t c c') (h' : EvaluatedUpTo t c' c'') :
    EvaluatedUpTo t c c'' where
  restates := h.restates.trans h'.restates
  revoked_iff := h'.revoked_iff.trans h.revoked_iff
  state_eq := h'.state_eq.trans h.state_eq

end EvaluatedUpTo

/-- The evaluation at an instant writes nothing but the state and the time. -/
theorem restates_evaluated (t : OffsetDateTime) (c : CertificateMetadata) :
    c.Restates (c.evaluated t) := by
  rw [evaluated]
  split_ifs <;> rfl

/-- A certificate past its end is expired by the evaluation. -/
theorem state_evaluated_of_le (h : c.notAfter ≤ t) : (c.evaluated t).state = .expired := by
  rw [evaluated]
  split_ifs with hexpired hactive
  · rfl
  · exact absurd ⟨by rw [hactive.1]; decide, h⟩ hexpired
  · exact not_not.mp fun hstate => hexpired ⟨hstate, h⟩

/-- An active certificate that is due and not past its end is expiring after the evaluation, and
so is one that was expiring before. -/
theorem state_evaluated_of_lt (h : t < c.notAfter)
    (hstate : c.state = .active ∧ c.renewalDue t = true ∨ c.state = .expiring) :
    (c.evaluated t).state = .expiring := by
  have hend : ¬ (c.state ≠ .expired ∧ c.notAfter ≤ t) := fun hover => Int.not_le.mpr h hover.2
  rw [evaluated, if_neg hend]
  rcases hstate with hdue | hexpiring
  · rw [if_pos hdue]
  · rw [if_neg, hexpiring]
    rw [hexpiring]
    rintro ⟨⟨⟩, -⟩

/-- **What one evaluation may have done** makes no difference to a later one. -/
theorem evaluatedUpTo_of_evaluate {clock : LifecycleManager.EvaluationClock}
    (hclock : clock.ReadBy t) (h : LifecycleManager.evaluate clock c = .ok c') :
    EvaluatedUpTo t c c' := by
  have hrestates := LifecycleManager.restates_of_evaluate h
  rw [LifecycleManager.evaluate] at h
  split_ifs at h with hend hstate hdue
  · -- past its end, now and at `t`
    have hexpired : c'.state = .expired := LifecycleManager.state_eq_of_transition h
    have hlater : c.notAfter ≤ t := Int.le_trans hend hclock.1
    refine ⟨hrestates, ?_, ?_⟩
    · rw [hexpired]
      refine iff_of_false (by decide) fun hrevoked => ?_
      rcases LifecycleManager.transition_eq_ok_iff.mp h with ⟨hsame, -⟩ | ⟨hallowed, -⟩
      · exact hstate hsame
      · rw [hrevoked] at hallowed
        cases hallowed
    · rw [state_evaluated_of_le hlater, state_evaluated_of_le]
      rw [hrestates.notAfter_eq]
      exact hlater
  · obtain rfl := Except.ok.inj h
    exact .refl t c
  · -- active and due, now and at `t` unless it is past its end by then
    have hexpiring : c'.state = .expiring := LifecycleManager.state_eq_of_transition h
    refine ⟨hrestates, ?_, ?_⟩
    · rw [hexpiring, hdue.2]
      exact iff_of_false (by decide) (by decide)
    · have hdue' : c.renewalDue t = true := renewalDue_of_le hclock.2 hdue.1
      by_cases hlater : c.notAfter ≤ t
      · rw [state_evaluated_of_le hlater, state_evaluated_of_le]
        rw [hrestates.notAfter_eq]
        exact hlater
      · have hlt : t < c.notAfter := Int.not_le.mp hlater
        rw [state_evaluated_of_lt hlt (Or.inl ⟨hdue.2, hdue'⟩), state_evaluated_of_lt]
        · rw [hrestates.notAfter_eq]
          exact hlt
        · exact Or.inr hexpiring
  · obtain rfl := Except.ok.inj h
    exact .refl t c

/-- The certificates are the same but for the time of the last update. -/
def Agrees (c c' : CertificateMetadata) : Prop :=
  c.Restates c' ∧ c'.state = c.state

/-- Whatever evaluations up to `t` have done, after the one at `t` the certificates agree. -/
theorem EvaluatedUpTo.agrees (h : EvaluatedUpTo t c c') (h' : EvaluatedUpTo t c c'') :
    (c'.evaluated t).Agrees (c''.evaluated t) := by
  have hleft := h.restates.trans (restates_evaluated t c')
  have hright := h'.restates.trans (restates_evaluated t c'')
  exact ⟨hleft.of_common hright, h'.state_eq.trans h.state_eq.symm⟩

end CertificateMetadata

namespace CertificateInventory

variable {t : OffsetDateTime} {inv inv' inv'' inv₁ inv₂ : CertificateInventory}

/-- What a run of evaluations up to `t` may have done to an inventory. -/
structure EvaluatedUpTo (t : OffsetDateTime) (inv inv' : CertificateInventory) : Prop where
  certificates : ∀ id, Option.Rel (CertificateMetadata.EvaluatedUpTo t)
    (inv.certificates.lookup id) (inv'.certificates.lookup id)
  serialIndex_eq : inv'.serialIndex = inv.serialIndex
  fingerprintIndex_eq : inv'.fingerprintIndex = inv.fingerprintIndex

theorem rel_trans {entry entry' entry'' : Option CertificateMetadata}
    (h : Option.Rel (CertificateMetadata.EvaluatedUpTo t) entry entry')
    (h' : Option.Rel (CertificateMetadata.EvaluatedUpTo t) entry' entry'') :
    Option.Rel (CertificateMetadata.EvaluatedUpTo t) entry entry'' := by
  cases h with
  | none =>
    cases h'
    exact .none
  | some hc =>
    cases h' with
    | some hc' => exact .some (hc.trans hc')

theorem EvaluatedUpTo.trans (h : inv.EvaluatedUpTo t inv') (h' : inv'.EvaluatedUpTo t inv'') :
    inv.EvaluatedUpTo t inv'' where
  certificates id := rel_trans (h.certificates id) (h'.certificates id)
  serialIndex_eq := h'.serialIndex_eq.trans h.serialIndex_eq
  fingerprintIndex_eq := h'.fingerprintIndex_eq.trans h.fingerprintIndex_eq

theorem rel_refl (t : OffsetDateTime) (entry : Option CertificateMetadata) :
    Option.Rel (CertificateMetadata.EvaluatedUpTo t) entry entry := by
  cases entry with
  | none => exact .none
  | some c => exact .some (.refl t c)

theorem EvaluatedUpTo.refl (t : OffsetDateTime) (inv : CertificateInventory) :
    inv.EvaluatedUpTo t inv :=
  ⟨fun id => rel_refl t (inv.certificates.lookup id), rfl, rfl⟩

/-- **A call that evaluates up to `t`**, completed or not. -/
theorem evaluatedUpTo_after {call : InventoryCall} (hcall : call.EvaluatesBy t) :
    inv.EvaluatedUpTo t (inv.after call) := by
  cases call with
  | evaluateLifecycle clock iteration =>
    obtain ⟨hserial, hfingerprint, hlookup⟩ :=
      evaluateLoop_lookup clock (iteration inv.certificates).nodup 0 inv
    refine ⟨fun id => ?_, hserial, hfingerprint⟩
    rcases hlookup id with hsame | ⟨-, c, c', hc, hevaluate, hafter⟩
    · simp only [after, evaluateLifecycle, hsame]
      exact rel_refl t _
    · simp only [after, evaluateLifecycle, hc, hafter]
      exact .some (CertificateMetadata.evaluatedUpTo_of_evaluate (hcall id) hevaluate)
  | evaluate clock id =>
    rcases inv.modify_cases id (LifecycleManager.evaluate clock) with
      ⟨-, h⟩ | ⟨c, e, -, -, h⟩ | ⟨c, c', hc, hevaluate, h⟩ <;> simp only [after, evaluate, h]
    · exact .refl t inv
    · exact .refl t inv
    · refine ⟨fun k => ?_, rfl, rfl⟩
      rw [lookup_put]
      split_ifs with hk
      · rw [hk, hc]
        exact .some (CertificateMetadata.evaluatedUpTo_of_evaluate hcall hevaluate)
      · exact rel_refl t _
  | _ => exact hcall.elim

/-- What every schedule up to `t` does. -/
theorem evaluatedUpTo_of_run (run : (evaluationsUpTo t).Run inv inv') :
    inv.EvaluatedUpTo t inv' := by
  refine run.rel (I := fun _ => True) (EvaluatedUpTo.refl t) ?_ ?_ ?_ trivial
  · exact fun _ _ _ h h' => h.trans h'
  · exact fun _ _ _ _ _ => trivial
  · rintro u call v - ⟨hcall, rfl⟩
    exact evaluatedUpTo_after hcall

/-- The inventories are the same but for the times of the last updates. -/
structure Agrees (inv inv' : CertificateInventory) : Prop where
  certificates : ∀ id, Option.Rel CertificateMetadata.Agrees
    (inv.certificates.lookup id) (inv'.certificates.lookup id)
  serialIndex_eq : inv'.serialIndex = inv.serialIndex
  fingerprintIndex_eq : inv'.fingerprintIndex = inv.fingerprintIndex

/-- Whether a pass at `t` completes does not depend on what was evaluated before. -/
theorem EvaluatedUpTo.noneRevokedOverdue_iff (h : inv.EvaluatedUpTo t inv') :
    inv'.NoneRevokedOverdue (fun _ => .constant t) ↔
      inv.NoneRevokedOverdue fun _ => .constant t := by
  refine forall_congr' fun id => ?_
  have hid := h.certificates id
  generalize inv.certificates.lookup id = entry at hid ⊢
  generalize inv'.certificates.lookup id = entry' at hid ⊢
  cases hid with
  | none => simp only [reduceCtorEq, false_imp_iff, implies_true]
  | some hc =>
    simp only [Option.some.injEq, forall_eq', hc.revoked_iff, hc.restates.notAfter_eq]

/-- **The schedule of the evaluations does not matter.** Start two runs of evaluations from one
inventory, of single certificates and of the whole, completed or not, that read the clock no later
than at `t`. A pass at `t` completes after the one exactly when it completes after the other, in
whatever orders the tables are visited, and the two inventories are then the same but for the times
of the last updates. -/
theorem evaluateLifecycle_of_schedules (run₁ : (evaluationsUpTo t).Run inv inv₁)
    (run₂ : (evaluationsUpTo t).Run inv inv₂) (order₁ : inv₁.certificates.Order)
    (order₂ : inv₂.certificates.Order) :
    ((∃ n, (inv₁.evaluateLifecycle (fun _ => .constant t) order₁).1 = .ok n) ↔
      ∃ n, (inv₂.evaluateLifecycle (fun _ => .constant t) order₂).1 = .ok n) ∧
    ((∃ n, (inv₁.evaluateLifecycle (fun _ => .constant t) order₁).1 = .ok n) →
      (inv₁.evaluateLifecycle (fun _ => .constant t) order₁).2.Agrees
        (inv₂.evaluateLifecycle (fun _ => .constant t) order₂).2) := by
  have h₁ := evaluatedUpTo_of_run run₁
  have h₂ := evaluatedUpTo_of_run run₂
  have hcompletes : (∃ n, (inv₁.evaluateLifecycle (fun _ => .constant t) order₁).1 = .ok n) ↔
      ∃ n, (inv₂.evaluateLifecycle (fun _ => .constant t) order₂).1 = .ok n := by
    rw [evaluateLifecycle_isOk_iff, evaluateLifecycle_isOk_iff, h₁.noneRevokedOverdue_iff,
      h₂.noneRevokedOverdue_iff]
  refine ⟨hcompletes, fun hok => ?_⟩
  obtain ⟨n, hn⟩ := hok
  obtain ⟨m, hm⟩ := hcompletes.mp ⟨n, hn⟩
  have heffect₁ : inv₁.PassEffect t n (inv₁.evaluateLifecycle (fun _ => .constant t) order₁).2 :=
    passEffect_of_evaluateLifecycle (Prod.ext hn rfl)
  have heffect₂ : inv₂.PassEffect t m (inv₂.evaluateLifecycle (fun _ => .constant t) order₂).2 :=
    passEffect_of_evaluateLifecycle (Prod.ext hm rfl)
  refine ⟨fun id => ?_, ?_, ?_⟩
  · rw [heffect₁.lookup_eq, heffect₂.lookup_eq]
    have hid₁ := h₁.certificates id
    have hid₂ := h₂.certificates id
    generalize inv.certificates.lookup id = entry at hid₁ hid₂
    generalize inv₁.certificates.lookup id = entry₁ at hid₁ ⊢
    generalize inv₂.certificates.lookup id = entry₂ at hid₂ ⊢
    cases hid₁ with
    | none =>
      cases hid₂
      exact .none
    | some hc₁ =>
      cases hid₂ with
      | some hc₂ => exact .some (hc₁.agrees hc₂)
  · rw [heffect₁.serialIndex_eq, heffect₂.serialIndex_eq, h₁.serialIndex_eq, h₂.serialIndex_eq]
  · rw [heffect₁.fingerprintIndex_eq, heffect₂.fingerprintIndex_eq, h₁.fingerprintIndex_eq,
      h₂.fingerprintIndex_eq]

/-- The evaluation of the certificate while it is due for renewal and not past its end. -/
def earlyEvaluation : InventoryCall := .evaluate (.constant 7000000000000000) 1

/-- The order of the inventory in which the certificate is expiring. -/
def expiringOrder : (overdueInventory.after earlyEvaluation).certificates.Order :=
  overdueOrder.insert 1
    { sampleCertificate 1 "01" "aa" with state := .expiring, updatedAt := 7000000000000000 }

/-- A certificate that was expiring in between ends up as one that was not looked at. -/
theorem evaluateLifecycle_of_schedules_earlyEvaluation :
    (overdueInventory.evaluateLifecycle (fun _ => .constant 8000000000000000)
      overdueOrder).2.Agrees ((overdueInventory.after earlyEvaluation).evaluateLifecycle
        (fun _ => .constant 8000000000000000) expiringOrder).2 :=
  (evaluateLifecycle_of_schedules .nil
    (LTS.Run.nil.snoc earlyEvaluation ⟨And.intro (by decide) (by decide), rfl⟩)
    overdueOrder expiringOrder).2 ⟨1, by decide⟩

end CertificateInventory

end DaemonPki
