import DaemonPki.Certificate.Renewal

/-!
# The lifecycle of the certificates of an inventory

What a run of calls does to the state of one certificate. Between two calls the state is kept or
moves along one edge of the transition table, also when the call evaluates the whole inventory,
and also when it fails half-way. A terminal state is therefore final for as long as the
certificate is tracked.

The evaluation of the whole inventory stops at the first certificate that cannot be evaluated. A
revoked certificate past its end is one, because the lifecycle asks for its transition to
`Expired` and the table has no edge out of `Revoked`; it is the only kind.

## Main definitions

* `DaemonPki.CertificateInventory.Advances`: every certificate tracked before and after follows
  the table.
* `DaemonPki.CertificateInventory.Covers`: an evaluation reaches the whole inventory.

## Main results

* `DaemonPki.CertificateInventory.lifecycle_of_run`: the lifecycle along every run.
* `DaemonPki.CertificateInventory.covers_iff_of_run`: when the evaluations of a run reach the
  whole inventory.
-/

namespace DaemonPki

open Foundation

namespace CertificateInventory

variable {inv inv' : CertificateInventory} {id : Uuid} {c c' : CertificateMetadata}

/-! ### One call -/

/-- The state of every certificate tracked in both inventories is kept or moves along one edge
of the transition table. -/
def Advances (inv inv' : CertificateInventory) : Prop :=
  ∀ id c c', inv.certificates.lookup id = some c → inv'.certificates.lookup id = some c' →
    LifecycleManager.Follows c.state c'.state

theorem Advances.of_lookup
    (h : ∀ id c, inv.certificates.lookup id = some c → inv'.certificates.lookup id = some c ∨
      ∃ c', inv'.certificates.lookup id = some c' ∧ LifecycleManager.Follows c.state c'.state) :
    inv.Advances inv' := by
  intro id c c' hc hc'
  rcases h id c hc with hsame | ⟨d, hd, hfollows⟩
  · obtain rfl : c = c' := Option.some.inj (hsame.symm.trans hc')
    exact Or.inl rfl
  · obtain rfl : d = c' := Option.some.inj (hd.symm.trans hc')
    exact hfollows

theorem Advances.refl (inv : CertificateInventory) : inv.Advances inv :=
  .of_lookup fun _ _ => Or.inl

/-- A registration leaves every tracked certificate as it is. -/
theorem lookup_register (h : inv.certificates.lookup id = some c) (d : CertificateMetadata) :
    (inv.register d).2.certificates.lookup id = some c := by
  by_cases hd : inv.Accepts d
  · have hne : id ≠ d.id := fun e => hd.1 (e ▸ Finmap.mem_of_lookup_eq_some h)
    rw [register_of_accepts hd, lookup_track, if_neg hne, h]
  · obtain ⟨e, he, -⟩ := register_of_not_accepts hd
    rw [he, h]

theorem lookup_put_follows (h : inv.certificates.lookup id = some c)
    (hstate : LifecycleManager.Follows c.state c'.state) (k : Uuid) (d : CertificateMetadata)
    (hd : inv.certificates.lookup k = some d) : ∃ d', (inv.put id c').certificates.lookup k =
      some d' ∧ LifecycleManager.Follows d.state d'.state := by
  rw [lookup_put]
  split_ifs with hk
  · subst hk
    obtain rfl : c = d := Option.some.inj (h.symm.trans hd)
    exact ⟨c', rfl, hstate⟩
  · exact ⟨d, hd, Or.inl rfl⟩

theorem advances_registerRenewal (inv : CertificateInventory) (now : OffsetDateTime)
    (previousId : Uuid) (replacement : CertificateMetadata) :
    inv.Advances (inv.registerRenewal now previousId replacement).2 := by
  rcases inv.registerRenewal_cases now previousId replacement with
    ⟨e, h, -⟩ | ⟨c, c', hc, hc', h⟩
  · rw [h]
    exact .refl inv
  · rw [h]
    refine .of_lookup fun k d hd => Or.inr ?_
    obtain ⟨d', hd', hfollows⟩ :=
      lookup_put_follows hc (LifecycleManager.follows_of_transition hc') k d hd
    exact ⟨d', lookup_register hd' _, hfollows⟩

theorem advances_remove (inv : CertificateInventory) (id : Uuid) :
    inv.Advances (inv.remove id).2 := by
  rw [remove]
  cases hc : inv.certificates.lookup id with
  | none => exact .refl inv
  | some c =>
    intro k d d' hd hd'
    rw [lookup_untrack] at hd'
    split_ifs at hd'
    exact Or.inl (congrArg _ (Option.some.inj (hd.symm.trans hd')))

theorem advances_modify (inv : CertificateInventory) (id : Uuid)
    {f : CertificateMetadata → Except LifecycleError CertificateMetadata}
    (hf : ∀ c c', f c = .ok c' → LifecycleManager.Follows c.state c'.state) :
    inv.Advances (inv.modify id f).2 := by
  rcases inv.modify_cases id f with ⟨-, h⟩ | ⟨c, e, -, -, h⟩ | ⟨c, c', hc, hc', h⟩ <;> rw [h]
  · exact .refl inv
  · exact .refl inv
  · exact .of_lookup fun k d hd => Or.inr (lookup_put_follows hc (hf c c' hc') k d hd)

theorem advances_transition (inv : CertificateInventory) (now : OffsetDateTime) (id : Uuid)
    (next : CertificateState) : inv.Advances (inv.transition now id next).2 :=
  advances_modify inv id fun _ _ => LifecycleManager.follows_of_transition

theorem advances_evaluate (inv : CertificateInventory)
    (clock : LifecycleManager.EvaluationClock) (id : Uuid) :
    inv.Advances (inv.evaluate clock id).2 :=
  advances_modify inv id fun _ _ => LifecycleManager.follows_of_evaluate

theorem advances_evaluateLifecycle (inv : CertificateInventory)
    (clock : Uuid → LifecycleManager.EvaluationClock) (order : inv.certificates.Order) :
    inv.Advances (inv.evaluateLifecycle clock order).2 := by
  obtain ⟨-, -, hlookup⟩ := evaluateLoop_lookup clock order.nodup 0 inv
  refine .of_lookup fun k c hc => ?_
  rcases hlookup k with hsame | ⟨-, d, d', hd, hd', hafter⟩
  · exact Or.inl (hsame.trans hc)
  · obtain rfl : d = c := Option.some.inj (hd.symm.trans hc)
    exact Or.inr ⟨d', hafter, LifecycleManager.follows_of_evaluate hd'⟩

/-- **Every call follows the transition table**, whether it succeeds or fails. -/
theorem advances_after (inv : CertificateInventory) (call : InventoryCall) :
    inv.Advances (inv.after call) := by
  cases call with
  | register c => exact .of_lookup fun _ _ hd => Or.inl (lookup_register hd c)
  | registerRenewal now id c => exact advances_registerRenewal inv now id c
  | remove id => exact advances_remove inv id
  | revoke now id => exact advances_transition inv now id .revoked
  | markRenewed now id => exact advances_transition inv now id .renewed
  | evaluateLifecycle clock iteration => exact advances_evaluateLifecycle inv clock _
  | transition now id next => exact advances_transition inv now id next
  | evaluate clock id => exact advances_evaluate inv clock id

/-! ### Terminal states -/

/-- A certificate in a terminal state keeps it for as long as it is tracked. -/
theorem terminal_of_run (hc : inv.certificates.lookup id = some c)
    (hterminal : c.state.isTerminal = true) (run : inventorySystem.Run inv inv')
    (htracked : run.AllStates fun u => id ∈ u.certificates) :
    run.AllStates fun u => ∃ c', u.certificates.lookup id = some c' ∧ c'.state = c.state := by
  refine run.allStates_while (fun u call v ⟨d, hd, hstate⟩ hstep hv => ?_) ⟨c, hc, rfl⟩ htracked
  obtain ⟨d', hd'⟩ := Finmap.mem_iff.mp hv
  have hfollows : LifecycleManager.Follows d.state d'.state :=
    advances_after u call id d d' hd (hstep ▸ hd')
  rw [hstate] at hfollows
  exact ⟨d', hd', hfollows.eq_of_isTerminal hterminal⟩

/-- The renewal of a certificate in a terminal state fails and changes nothing. -/
theorem registerRenewal_of_isTerminal (hc : inv.certificates.lookup id = some c)
    (hterminal : c.state.isTerminal = true) (now : OffsetDateTime)
    (replacement : CertificateMetadata) :
    ∃ e, inv.registerRenewal now id replacement = (.error e, inv) := by
  rcases inv.registerRenewal_cases now id replacement with ⟨e, h, -⟩ | ⟨d, d', hd, hd', -⟩
  · exact ⟨e, h⟩
  · obtain rfl : c = d := Option.some.inj (hc.symm.trans hd)
    rcases LifecycleManager.exists_transition_renewed_iff.mp ⟨d', hd'⟩ with h | h <;>
      rw [h] at hterminal <;> cases hterminal

/-- **The lifecycle along every run.** From every inventory that a run reaches: each call moves
each certificate along at most one edge of the transition table; a terminal state is final while
the certificate is tracked; a certificate in a terminal state is not renewed, neither directly
nor by a work item queued earlier; and the renewal queue names no renewed certificate. -/
theorem lifecycle_of_run (run : inventorySystem.Run new inv) :
    (∀ call id c c', inv.certificates.lookup id = some c →
        (inv.after call).certificates.lookup id = some c' →
        LifecycleManager.Follows c.state c'.state) ∧
      (∀ id c, inv.certificates.lookup id = some c → c.state.isTerminal = true →
        ∀ inv' (later : inventorySystem.Run inv inv'),
          later.AllStates (fun u => id ∈ u.certificates) →
          later.AllStates fun u => ∃ c', u.certificates.lookup id = some c' ∧
            c'.state = c.state) ∧
      (∀ id c, inv.certificates.lookup id = some c → c.state.isTerminal = true →
        ∀ now replacement,
          (∃ e, inv.registerRenewal now id replacement = (.error e, inv)) ∧
          ∀ workItem : RenewalWorkItem, workItem.certificateId = id →
            ∃ e, RenewalExecutor.renewIntoInventory inv now replacement workItem =
              (.error e, inv)) ∧
      ∀ clock (order : inv.certificates.Order),
        ∀ workItem ∈ LifecycleManager.renewalQueue inv clock order,
          ∃ c, inv.certificates.lookup workItem.certificateId = some c ∧ c.state ≠ .renewed := by
  refine ⟨advances_after inv,
    fun id c hc hterminal inv' later => terminal_of_run hc hterminal later,
    fun id c hc hterminal now replacement => ?_, fun clock order workItem hitem => ?_⟩
  · have hfails := registerRenewal_of_isTerminal hc hterminal now replacement
    refine ⟨hfails, fun workItem hid => ?_⟩
    obtain ⟨e, he⟩ := hfails
    by_cases haction : workItem.action = .renew
    · rw [RenewalExecutor.renewIntoInventory, if_neg (not_not.mpr haction), hid, he]
      exact ⟨_, rfl⟩
    · rw [RenewalExecutor.renewIntoInventory, if_pos haction]
      exact ⟨_, rfl⟩
  · obtain ⟨id, c, hc, hid, husable⟩ := LifecycleManager.mem_renewalQueue hitem
    rw [hid, (wellFormed_of_run run).id_eq id c hc]
    refine ⟨c, hc, fun hrenewed => ?_⟩
    rw [hrenewed] at husable
    cases husable

/-- An inventory whose only certificate was registered and then revoked. -/
def revokedInventory : CertificateInventory :=
  (new.after (.register (sampleCertificate 1 "01" "aa"))).after (.revoke 5 1)

def revokedRun : inventoryMethods.Run new revokedInventory :=
  runAfter (runAfter .nil (.register (sampleCertificate 1 "01" "aa")) trivial) (.revoke 5 1)
    trivial

theorem lifecycle_of_run_revokedInventory :
    ∃ e, revokedInventory.registerRenewal 7 1 (sampleCertificate 2 "02" "bb") =
      (.error e, revokedInventory) :=
  ((lifecycle_of_run revokedRun.ofRestrict).2.2.1 1
    { sampleCertificate 1 "01" "aa" with state := .revoked, updatedAt := 5 } (by decide) rfl 7
    (sampleCertificate 2 "02" "bb")).1

/-! ### Evaluation of the whole inventory -/

/-- The evaluation completes, and afterwards, if no clock reading was earlier than `now`, every
certificate in a non-terminal state ends later than `now`, and no active one is due at `now`. -/
def Covers (inv : CertificateInventory) (clock : Uuid → LifecycleManager.EvaluationClock)
    (order : inv.certificates.Order) : Prop :=
  (∃ n, (inv.evaluateLifecycle clock order).1 = .ok n) ∧
    ∀ now, (∀ id, now ≤ (clock id).now ∧ now ≤ (clock id).remaining) → ∀ id c,
      (inv.evaluateLifecycle clock order).2.certificates.lookup id = some c →
      (c.state.isTerminal = false → now < c.notAfter) ∧
        (c.state = .active → c.renewalDue now = false)

/-- No revoked certificate is past its end when it is evaluated. -/
def NoneRevokedOverdue (inv : CertificateInventory)
    (clock : Uuid → LifecycleManager.EvaluationClock) : Prop :=
  ∀ id c, inv.certificates.lookup id = some c → c.state = .revoked →
    (clock id).now < c.notAfter

theorem evaluateLifecycle_isOk_iff (inv : CertificateInventory)
    (clock : Uuid → LifecycleManager.EvaluationClock) (order : inv.certificates.Order) :
    (∃ n, (inv.evaluateLifecycle clock order).1 = .ok n) ↔ inv.NoneRevokedOverdue clock := by
  rw [evaluateLifecycle, evaluateLoop_isOk_iff order.nodup 0 inv fun k => (order.mem_keys k).mp]
  refine ⟨fun h id c hc hstate => ?_, fun h id _ c hc => ?_⟩
  · have hid : id ∈ order.keys := (order.mem_keys id).mpr (Finmap.mem_of_lookup_eq_some hc)
    obtain ⟨c', hok⟩ := h id hid c hc
    by_contra hend
    have herror : LifecycleManager.evaluate (clock id) c = .error (.terminalState .revoked) :=
      LifecycleManager.evaluate_eq_error_iff.mpr ⟨Int.not_lt.mp hend, hstate, rfl⟩
    rw [hok] at herror
    cases herror
  · cases hresult : LifecycleManager.evaluate (clock id) c with
    | ok c' => exact ⟨c', rfl⟩
    | error e =>
      obtain ⟨hend, hstate, -⟩ := LifecycleManager.evaluate_eq_error_iff.mp hresult
      exact absurd (h id c hc hstate) (Int.not_lt.mpr hend)

/-- An evaluation reaches the whole inventory exactly when no revoked certificate is past its
end. -/
theorem covers_iff (inv : CertificateInventory)
    (clock : Uuid → LifecycleManager.EvaluationClock) (order : inv.certificates.Order) :
    inv.Covers clock order ↔ inv.NoneRevokedOverdue clock := by
  rw [← evaluateLifecycle_isOk_iff inv clock order]
  refine ⟨And.left, fun ⟨n, hok⟩ => ⟨⟨n, hok⟩, fun now hnow id c hc => ?_⟩⟩
  have hid : id ∈ order.keys := by
    by_contra hid
    have hsame := evaluateLoop_lookup_of_notMem clock order.nodup 0 inv hid
    exact hid ((order.mem_keys id).mpr (Finmap.mem_of_lookup_eq_some (hsame.symm.trans hc)))
  obtain ⟨d, d', -, hevaluate, hafter⟩ := evaluate_of_evaluateLoop_ok order.nodup hok hid
  obtain rfl : d' = c := Option.some.inj (hafter.symm.trans hc)
  refine ⟨fun hstate => ?_, fun hactive => ?_⟩
  · exact Int.lt_of_le_of_lt (hnow id).1 (LifecycleManager.not_overdue_of_evaluate hevaluate hstate)
  · refine Bool.eq_false_iff.mpr fun hdue => ?_
    have hlater := CertificateMetadata.renewalDue_of_le (hnow id).2 hdue
    rw [LifecycleManager.not_due_of_evaluate hevaluate hactive] at hlater
    cases hlater

/-- **When the evaluations of a run reach the whole inventory.** In every inventory that a run
of the methods reaches, an evaluation, at any clock readings and in any order of the table,
completes and brings every certificate up to date exactly when no revoked certificate is then
past its end; so do all evaluations of the run exactly when this holds at each of them. -/
theorem covers_iff_of_run (run : inventoryMethods.Run new inv) :
    (∀ clock (order : inv.certificates.Order),
        inv.Covers clock order ↔ inv.NoneRevokedOverdue clock) ∧
      ((run.AllSteps fun inv call => ∀ clock iteration,
          call = .evaluateLifecycle clock iteration →
          inv.Covers clock (iteration inv.certificates)) ↔
        run.AllSteps fun inv call => ∀ clock iteration,
          call = .evaluateLifecycle clock iteration → inv.NoneRevokedOverdue clock) := by
  refine ⟨covers_iff inv, fun h => h.mono ?_, fun h => h.mono ?_⟩
  · intro u call hcovers clock iteration hcall
    exact (u.covers_iff clock _).mp (hcovers clock iteration hcall)
  · intro u call hnone clock iteration hcall
    exact (u.covers_iff clock _).mpr (hnone clock iteration hcall)

/-- An inventory with a certificate that stays active and one that was revoked. -/
def partlyRevoked : CertificateInventory :=
  ((new.after (.register (sampleCertificate 1 "01" "aa"))).after
    (.register (sampleCertificate 2 "02" "bb"))).after (.revoke 5 2)

def partlyRevokedRun : inventoryMethods.Run new partlyRevoked :=
  runAfter (runAfter (runAfter .nil (.register (sampleCertificate 1 "01" "aa")) trivial)
    (.register (sampleCertificate 2 "02" "bb")) trivial) (.revoke 5 2) trivial

/-- The order that visits the revoked certificate first. -/
def revokedFirst : partlyRevoked.certificates.Order :=
  ((HashMap.Order.empty.insert 1 (sampleCertificate 1 "01" "aa")).insert 2
    (sampleCertificate 2 "02" "bb")).insert 2
    { sampleCertificate 2 "02" "bb" with state := .revoked, updatedAt := 5 }

/-- After the end of both certificates the evaluation fails on the revoked one, and the other
one stays active. -/
theorem not_covers_partlyRevoked :
    Nonempty (inventoryMethods.Run new partlyRevoked) ∧
      partlyRevoked.evaluateLifecycle (fun _ => .constant 8000000000000000) revokedFirst =
        (.error (.lifecycle (.terminalState .revoked)), partlyRevoked) ∧
      partlyRevoked.certificates.lookup 1 = some (sampleCertificate 1 "01" "aa") ∧
      ¬partlyRevoked.Covers (fun _ => .constant 8000000000000000) revokedFirst := by
  have hfails :
      partlyRevoked.evaluateLifecycle (fun _ => .constant 8000000000000000) revokedFirst =
        (.error (.lifecycle (.terminalState .revoked)), partlyRevoked) := by decide
  refine ⟨⟨partlyRevokedRun⟩, hfails, by decide, fun ⟨⟨n, hok⟩, _⟩ => ?_⟩
  rw [hfails] at hok
  cases hok

end CertificateInventory

end DaemonPki
