import DaemonPki.Certificate.Renewal

/-!
# What lifecycle errors say

A lifecycle error names the state of a certificate, and for a refused transition also the state
that it was to move to. The executor of renewals and the evaluation of all certificates
(`daemon-pki-core/src/certificate/lifecycle.rs`, `renew_into_inventory` and `evaluate_all`) hand on
the lifecycle errors of the inventory. For every other error they make up a refused transition,
whose states nobody has looked up.

## Main definitions

* `DaemonPki.LifecycleManager.evaluateAll`.
* `DaemonPki.LifecycleError.TrueOf`: what the error says is so.
* `DaemonPki.RenewalExecutor.TellsTruth`.

## Main results

* `DaemonPki.LifecycleManager.trueOf_of_evaluateAll`: the evaluation tells the truth.
* `DaemonPki.RenewalExecutor.tellsTruth_iff`: when both do.
-/

namespace DaemonPki

open Foundation CertificateInventory

variable {inv : CertificateInventory} {now : OffsetDateTime} {id : Uuid}
  {c c' replacement : CertificateMetadata} {workItem : RenewalWorkItem}

/-- Evaluate the whole inventory. Source: `lifecycle.rs`, lines 356–371. -/
def LifecycleManager.evaluateAll (inventory : CertificateInventory)
    (clock : Uuid → EvaluationClock) (order : inventory.certificates.Order) :
    Except LifecycleError ℕ × CertificateInventory :=
  let (result, inventory') := inventory.evaluateLifecycle clock order
  let result' := result.mapError fun error =>
    match error with
    | .lifecycle lifecycleError => lifecycleError
    | _ => .invalidTransition .active .active
  (result', inventory')

/-- What the error says is so of the certificate that is tracked under the identifier: it is in
the state that the error names, and the transition is not in the table, or the state is
terminal. -/
def LifecycleError.TrueOf (inv : CertificateInventory) (id : Uuid) : LifecycleError → Prop
  | .invalidTransition source target => ∃ c, inv.certificates.lookup id = some c ∧
      c.state = source ∧ LifecycleManager.allowed source target = false
  | .terminalState state => ∃ c, inv.certificates.lookup id = some c ∧
      c.state = state ∧ state.isTerminal = true

/-- The error of a transition is true. -/
theorem LifecycleError.trueOf_of_transition {next : CertificateState} {e : LifecycleError}
    (hc : inv.certificates.lookup id = some c)
    (h : LifecycleManager.transition now c next = .error e) : e.TrueOf inv id := by
  obtain ⟨-, ⟨hterminal, rfl⟩ | ⟨-, hrefused, rfl⟩⟩ :=
    LifecycleManager.transition_eq_error_iff.mp h
  · exact ⟨c, hc, rfl, hterminal⟩
  · exact ⟨c, hc, rfl, hrefused⟩

/-! ### Evaluation -/

namespace CertificateInventory

/-- The loop ends with an error at a certificate that cannot be evaluated, as it was before. -/
theorem exists_of_evaluateLoop_error {clock : Uuid → LifecycleManager.EvaluationClock}
    {ids : List Uuid} (hnodup : ids.Nodup) {n : ℕ} {inv : CertificateInventory}
    (htracked : ∀ k ∈ ids, k ∈ inv.certificates) {error : InventoryError}
    (h : (evaluateLoop clock ids n inv).1 = .error error) :
    ∃ id c e, inv.certificates.lookup id = some c ∧
      LifecycleManager.evaluate (clock id) c = .error e ∧ id ∈ ids ∧ error = .lifecycle e := by
  induction ids generalizing n inv with
  | nil => cases h
  | cons id ids ih =>
    obtain ⟨hid, hnodup⟩ := List.nodup_cons.mp hnodup
    obtain ⟨c, hc⟩ := Finmap.mem_iff.mp (htracked id List.mem_cons_self)
    cases he : LifecycleManager.evaluate (clock id) c with
    | error e =>
      simp only [evaluateLoop, hc, he, Except.error.injEq] at h
      exact ⟨id, c, e, hc, he, List.mem_cons_self, h.symm⟩
    | ok c' =>
      rw [evaluateLoop_cons_ok hc he] at h
      have htracked' : ∀ k ∈ ids, k ∈ (inv.put id c').certificates := fun k hk =>
        Finmap.mem_insert.mpr (Or.inr (htracked k (List.mem_cons_of_mem _ hk)))
      obtain ⟨k, d, e, hd, he, hk, herror⟩ := ih hnodup htracked' h
      rw [lookup_put, if_neg (ne_of_mem_of_not_mem hk hid)] at hd
      exact ⟨k, d, e, hd, he, List.mem_cons_of_mem _ hk, herror⟩

end CertificateInventory

/-- **The evaluation tells the truth**: its error is that of a tracked certificate, which was in
the terminal state that the error names. -/
theorem LifecycleManager.trueOf_of_evaluateAll {clock : Uuid → EvaluationClock}
    {order : inv.certificates.Order} {e : LifecycleError}
    (h : (evaluateAll inv clock order).1 = .error e) :
    ∃ id c, inv.certificates.lookup id = some c ∧ evaluate (clock id) c = .error e ∧
      e.TrueOf inv id := by
  rw [evaluateAll, evaluateLifecycle] at h
  cases hresult : (evaluateLoop clock order.keys 0 inv).1 with
  | ok n =>
    simp only [hresult] at h
    cases h
  | error error =>
    obtain ⟨id, c, e', hc, he, -, rfl⟩ := exists_of_evaluateLoop_error order.nodup
      (fun k hk => (order.mem_keys k).mp hk) hresult
    simp only [hresult] at h
    obtain rfl : e' = e := Except.error.inj h
    obtain ⟨-, hrevoked, rfl⟩ := evaluate_eq_error_iff.mp he
    exact ⟨id, c, hc, he, c, hc, hrevoked, rfl⟩

/-! ### Renewal -/

namespace RenewalExecutor

/-- The error of the inventory, as the executor hands it on. -/
def handedOn : InventoryError → LifecycleError
  | .lifecycle lifecycleError => lifecycleError
  | _ => .invalidTransition .active .renewed

theorem handedOn_of_ne {error : InventoryError} (h : ∀ e, error ≠ .lifecycle e) :
    handedOn error = .invalidTransition .active .renewed := by
  cases error with
  | lifecycle e => exact absurd rfl (h e)
  | _ => rfl

theorem renewIntoInventory_eq_mapError (haction : workItem.action = .renew) :
    (renewIntoInventory inv now replacement workItem).1 =
      (inv.registerRenewal now workItem.certificateId replacement).1.mapError handedOn := by
  rw [renewIntoInventory, if_neg (not_not.mpr haction)]
  refine congrArg (fun f => Except.mapError f _) (funext fun error => ?_)
  cases error <;> rfl

/-- **What a renewal returns.** Nothing is tracked under the identifier of the work item; or the
transition of the certificate is refused; or it succeeds, and the replacement is registered if it
can be. -/
theorem renewIntoInventory_cases (now : OffsetDateTime) (haction : workItem.action = .renew) :
    (inv.certificates.lookup workItem.certificateId = none ∧
        (renewIntoInventory inv now replacement workItem).1 =
          .error (.invalidTransition .active .renewed)) ∨
      ∃ c, inv.certificates.lookup workItem.certificateId = some c ∧
        ((∃ e, LifecycleManager.transition now c .renewed = .error e ∧
            (renewIntoInventory inv now replacement workItem).1 = .error e) ∨
          (c.state = .renewalPending ∨ c.state = .renewed) ∧
            (inv.Accepts replacement ∧
                (renewIntoInventory inv now replacement workItem).1 = .ok replacement.id ∨
              ¬inv.Accepts replacement ∧
                (renewIntoInventory inv now replacement workItem).1 =
                  .error (.invalidTransition .active .renewed))) := by
  rw [renewIntoInventory_eq_mapError haction, registerRenewal]
  rcases inv.modify_cases workItem.certificateId fun c =>
    LifecycleManager.transition now c .renewed with
    ⟨hnone, h⟩ | ⟨c, e, hc, he, h⟩ | ⟨c, c', hc, hc', h⟩
  · rw [h]
    exact Or.inl ⟨hnone, rfl⟩
  · rw [h]
    exact Or.inr ⟨c, hc, Or.inl ⟨e, he, rfl⟩⟩
  · simp only [h]
    have hstate := LifecycleManager.exists_transition_renewed_iff.mp ⟨c', hc'⟩
    refine Or.inr ⟨c, hc, Or.inr ⟨hstate, ?_⟩⟩
    rcases register_successor_cases hc c' replacement with ⟨hacc, hok⟩ | ⟨hacc, e, he, hne⟩
    · exact Or.inl ⟨hacc, by rw [hok]; rfl⟩
    · refine Or.inr ⟨hacc, ?_⟩
      rw [he]
      exact congrArg Except.error (handedOn_of_ne hne)

/-- What the errors of a renewal say is so. -/
def RenewalTellsTruth (inv : CertificateInventory) (now : OffsetDateTime)
    (replacement : CertificateMetadata) (workItem : RenewalWorkItem) : Prop :=
  ∀ e, (renewIntoInventory inv now replacement workItem).1 = .error e →
    e.TrueOf inv workItem.certificateId

theorem renewalTellsTruth_iff_of_renew (haction : workItem.action = .renew) :
    RenewalTellsTruth inv now replacement workItem ↔
      ∃ c, inv.certificates.lookup workItem.certificateId = some c ∧
        (c.state = .renewalPending ∨ c.state = .renewed → inv.Accepts replacement) := by
  rw [RenewalTellsTruth]
  rcases renewIntoInventory_cases now haction with
    ⟨hnone, h⟩ | ⟨c, hc, ⟨e, he, h⟩ | ⟨hstate, ⟨hacc, h⟩ | ⟨hacc, h⟩⟩⟩ <;> rw [h]
  · refine iff_of_false (fun htruth => ?_) ?_
    · obtain ⟨c, hc, -⟩ := htruth _ rfl
      cases hnone.symm.trans hc
    · rintro ⟨c, hc, -⟩
      cases hnone.symm.trans hc
  · refine iff_of_true (fun e' he' => ?_) ⟨c, hc, fun hstate => ?_⟩
    · obtain rfl := Except.error.inj he'
      exact LifecycleError.trueOf_of_transition hc he
    · exact absurd hstate (not_renewable_of_error he)
  · exact iff_of_true (fun e he => by cases he) ⟨c, hc, fun _ => hacc⟩
  · refine iff_of_false (fun htruth => ?_) ?_
    · obtain ⟨d, hd, hactive, -⟩ := htruth _ rfl
      obtain rfl : c = d := Option.some.inj (hc.symm.trans hd)
      rw [hactive] at hstate
      rcases hstate with hstate | hstate <;> cases hstate
    · rintro ⟨d, hd, haccepts⟩
      obtain rfl : c = d := Option.some.inj (hc.symm.trans hd)
      exact hacc (haccepts hstate)

theorem renewalTellsTruth_iff_of_ne (haction : workItem.action ≠ .renew) :
    RenewalTellsTruth inv now replacement workItem ↔
      ∃ c, inv.certificates.lookup workItem.certificateId = some c ∧ c.state = .active := by
  rw [RenewalTellsTruth, renewIntoInventory, if_pos haction]
  constructor
  · intro h
    obtain ⟨c, hc, hactive, -⟩ := h _ rfl
    exact ⟨c, hc, hactive⟩
  · rintro ⟨c, hc, hactive⟩ e he
    obtain rfl := Except.error.inj he
    exact ⟨c, hc, hactive, rfl⟩

/-- What the errors say is so, for the renewal and for the evaluation of the whole inventory. -/
structure TellsTruth (inv : CertificateInventory) (now : OffsetDateTime)
    (replacement : CertificateMetadata) (workItem : RenewalWorkItem) : Prop where
  renewal : RenewalTellsTruth inv now replacement workItem
  evaluation : ∀ clock order e, (LifecycleManager.evaluateAll inv clock order).1 = .error e →
    ∃ id c, inv.certificates.lookup id = some c ∧
      LifecycleManager.evaluate (clock id) c = .error e ∧ e.TrueOf inv id

/-- **When lifecycle errors tell the truth.** The certificate of the work item is tracked; if the
work item asks for a renewal, and the certificate can be moved to `Renewed`, the identifier and the
serial number of the replacement are not in use; and if it does not, the certificate is active. -/
theorem tellsTruth_iff : TellsTruth inv now replacement workItem ↔
    ∃ c, inv.certificates.lookup workItem.certificateId = some c ∧
      if workItem.action = .renew then
        c.state = .renewalPending ∨ c.state = .renewed → inv.Accepts replacement
      else c.state = .active := by
  have hrenewal : TellsTruth inv now replacement workItem ↔
      RenewalTellsTruth inv now replacement workItem :=
    ⟨TellsTruth.renewal, fun h => ⟨h, fun _ _ _ => LifecycleManager.trueOf_of_evaluateAll⟩⟩
  rw [hrenewal]
  by_cases haction : workItem.action = .renew
  · simp only [if_pos haction]
    exact renewalTellsTruth_iff_of_renew haction
  · simp only [if_neg haction]
    exact renewalTellsTruth_iff_of_ne haction

/-- The renewal of a certificate that is not tracked is reported as a refused transition. -/
theorem not_tellsTruth : ¬TellsTruth new dueTime (sampleCertificate 2 "02" "bb") dueWorkItem := by
  intro h
  obtain ⟨c, hc, -⟩ := h.renewal (.invalidTransition .active .renewed) rfl
  cases hc

end RenewalExecutor

end DaemonPki
