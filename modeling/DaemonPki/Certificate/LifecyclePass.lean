import DaemonPki.Certificate.LifecycleRuns

/-!
# A pass over the inventory

The evaluation of the whole inventory (`daemon-pki-core/src/certificate/inventory.rs`,
`evaluate_lifecycle`) at one reading of the clock. It stops at a certificate that cannot be
evaluated; a pass that completes brings every certificate to the state that its times call for,
counts those that it moved, and leaves nothing to do for the next one. The order in which the table
is visited does not show.

## Main definitions

* `DaemonPki.CertificateMetadata.evaluated`: the certificate that its times call for.
* `DaemonPki.CertificateInventory.changedIds`: the certificates whose state differs.

## Main results

* `DaemonPki.LifecycleManager.evaluate_constant_eq_ok`: what one evaluation does.
* `DaemonPki.CertificateInventory.evaluateLifecycle_effect`: what a completed pass does.
-/

namespace DaemonPki

open Foundation

/-- The certificate as its times call for at the instant `now`: expired when it is past its end,
and otherwise expiring when it is active and due for renewal. -/
def CertificateMetadata.evaluated (now : OffsetDateTime) (c : CertificateMetadata) :
    CertificateMetadata :=
  if c.state ≠ .expired ∧ c.notAfter ≤ now then { c with state := .expired, updatedAt := now }
  else if c.state = .active ∧ c.renewalDue now = true then
    { c with state := .expiring, updatedAt := now }
  else c

namespace LifecycleManager

variable {now : OffsetDateTime} {c c' : CertificateMetadata}

/-- **What one evaluation does**, when the clock shows one instant. -/
theorem evaluate_constant_eq_ok (h : evaluate (.constant now) c = .ok c') :
    c' = c.evaluated now := by
  rw [evaluate] at h
  rw [CertificateMetadata.evaluated]
  split_ifs at h with hend hstate hdue
  · rw [if_pos ⟨hstate, hend⟩]
    exact (transition_eq_ok_iff.mp h).elim (fun h => absurd h.1 hstate) fun h => h.2
  · have hexpired : c.state = .expired := not_not.mp hstate
    rw [if_neg fun hoverdue => hoverdue.1 hexpired, if_neg fun hactive => ?_]
    · exact (Except.ok.inj h).symm
    · rw [hexpired] at hactive
      cases hactive.1
  · have hactive : c.state = .active ∧ c.renewalDue now = true := hdue.symm
    rw [if_neg fun hoverdue => hend hoverdue.2, if_pos hactive]
    refine (transition_eq_ok_iff.mp h).elim (fun h => ?_) fun h => h.2
    rw [hdue.2] at h
    cases h.1
  · have hactive : ¬ (c.state = .active ∧ c.renewalDue now = true) := fun h => hdue h.symm
    rw [if_neg fun hoverdue => hend hoverdue.2, if_neg hactive]
    exact (Except.ok.inj h).symm

/-- An evaluated certificate is left alone by the next evaluation. -/
theorem evaluate_constant_of_ok (h : evaluate (.constant now) c = .ok c') :
    evaluate (.constant now) c' = .ok c' := by
  have hnotAfter := (restates_of_evaluate h).notAfter_eq
  rw [evaluate] at h ⊢
  rw [hnotAfter]
  split_ifs at h with hend hstate hdue
  · rw [if_pos hend, if_neg (not_not.mpr (state_eq_of_transition h))]
  · obtain rfl := Except.ok.inj h
    rw [if_pos hend, if_neg hstate]
  · rw [if_neg hend, if_neg fun hactive => ?_]
    rw [state_eq_of_transition h] at hactive
    cases hactive.2
  · obtain rfl := Except.ok.inj h
    rw [if_neg hend, if_neg hdue]

end LifecycleManager

namespace CertificateInventory

variable {inv inv' : CertificateInventory} {now : OffsetDateTime} {n m : ℕ}

/-- The identifiers under which the certificates of two inventories differ in their state. -/
def changedIds (inv inv' : CertificateInventory) : Finset Uuid :=
  inv.certificates.keys.filter fun id =>
    (inv.certificates.lookup id).map CertificateMetadata.state ≠
      (inv'.certificates.lookup id).map CertificateMetadata.state

/-- The loop counts the certificates that it moves to another state. -/
theorem count_evaluateLoop {clock : Uuid → LifecycleManager.EvaluationClock} {ids : List Uuid}
    (hnodup : ids.Nodup) (h : evaluateLoop clock ids n inv = (.ok m, inv')) :
    m = n + ids.countP fun id =>
      decide ((inv.certificates.lookup id).map CertificateMetadata.state ≠
        (inv'.certificates.lookup id).map CertificateMetadata.state) := by
  induction ids generalizing n inv with
  | nil =>
    cases h
    rfl
  | cons id ids ih =>
    obtain ⟨hid, hnodup'⟩ := List.nodup_cons.mp hnodup
    cases hc : inv.certificates.lookup id with
    | none => simp [evaluateLoop, hc] at h
    | some c =>
      cases he : LifecycleManager.evaluate (clock id) c with
      | error e => simp [evaluateLoop, hc, he] at h
      | ok c' =>
        rw [evaluateLoop_cons_ok hc he] at h
        have hafter := evaluateLoop_put_lookup clock hnodup'
          (if c.state ≠ c'.state then n + 1 else n) inv hid c'
        rw [h] at hafter
        have hrest : ∀ k ∈ ids, (inv.put id c').certificates.lookup k =
            inv.certificates.lookup k := fun k hk => by
          rw [lookup_put, if_neg (ne_of_mem_of_not_mem hk hid)]
        have hcount := ih hnodup' h
        rw [List.countP_congr fun k hk => by rw [hrest k hk]] at hcount
        rw [hcount, List.countP_cons, hc, hafter]
        by_cases hstate : c.state = c'.state
        · simp [hstate]
        · simp only [Option.map_some, ne_eq, Option.some.injEq, hstate, not_false_eq_true,
            decide_true, if_true]
          omega

/-- The loop leaves alone what is evaluated already. -/
theorem evaluateLoop_of_evaluated {clock : Uuid → LifecycleManager.EvaluationClock}
    {ids : List Uuid} (h : ∀ id ∈ ids, ∃ c, inv.certificates.lookup id = some c ∧
      LifecycleManager.evaluate (clock id) c = .ok c) :
    evaluateLoop clock ids n inv = (.ok n, inv) := by
  induction ids with
  | nil => rfl
  | cons id ids ih =>
    obtain ⟨c, hc, hevaluate⟩ := h id List.mem_cons_self
    rw [evaluateLoop_cons_ok hc hevaluate, put_lookup_self hc, if_neg (not_not.mpr rfl)]
    exact ih fun k hk => h k (List.mem_cons_of_mem _ hk)

/-! ### The effect of a completed pass -/

/-- What a completed pass at the instant `now`, which counts `n` changes, leaves of the
inventory. -/
structure PassEffect (inv : CertificateInventory) (now : OffsetDateTime) (n : ℕ)
    (inv' : CertificateInventory) : Prop where
  lookup_eq : ∀ id, inv'.certificates.lookup id =
    (inv.certificates.lookup id).map (CertificateMetadata.evaluated now)
  serialIndex_eq : inv'.serialIndex = inv.serialIndex
  fingerprintIndex_eq : inv'.fingerprintIndex = inv.fingerprintIndex
  count_eq : n = (inv.changedIds inv').card

/-- The effect of a pass determines its result. -/
theorem PassEffect.unique {inv'' : CertificateInventory} (h : inv.PassEffect now n inv')
    (h' : inv.PassEffect now m inv'') : n = m ∧ inv' = inv'' := by
  have hinv : inv' = inv'' := by
    obtain ⟨certificates, serialIndex, fingerprintIndex⟩ := inv'
    obtain ⟨certificates', serialIndex', fingerprintIndex'⟩ := inv''
    obtain rfl : certificates = certificates' :=
      Finmap.ext_lookup fun id => (h.lookup_eq id).trans (h'.lookup_eq id).symm
    obtain rfl : serialIndex = serialIndex' := h.serialIndex_eq.trans h'.serialIndex_eq.symm
    obtain rfl : fingerprintIndex = fingerprintIndex' :=
      h.fingerprintIndex_eq.trans h'.fingerprintIndex_eq.symm
    rfl
  subst hinv
  exact ⟨h.count_eq.trans h'.count_eq.symm, rfl⟩

theorem passEffect_of_evaluateLifecycle {order : inv.certificates.Order}
    (h : inv.evaluateLifecycle (fun _ => .constant now) order = (.ok n, inv')) :
    inv.PassEffect now n inv' := by
  rw [evaluateLifecycle] at h
  have hloop := evaluateLoop_lookup (fun _ => .constant now) order.nodup 0 inv
  rw [h] at hloop
  refine ⟨fun id => ?_, hloop.1, hloop.2.1, ?_⟩
  · by_cases hid : id ∈ order.keys
    · obtain ⟨c, c', hc, hevaluate, hafter⟩ :=
        evaluate_of_evaluateLoop_ok order.nodup (congrArg Prod.fst h) hid
      rw [h] at hafter
      rw [hafter, hc, LifecycleManager.evaluate_constant_eq_ok hevaluate, Option.map_some]
    · have hnone : inv.certificates.lookup id = none :=
        Finmap.lookup_eq_none.mpr fun hmem => hid ((order.mem_keys id).mpr hmem)
      rw [(hloop.2.2 id).resolve_right fun h => hid h.1, hnone, Option.map_none]
  · rw [count_evaluateLoop order.nodup h, Nat.zero_add]
    exact order.countP_keys _

/-- A second pass at the same instant has nothing to do. -/
theorem evaluateLifecycle_again {order : inv.certificates.Order}
    (h : inv.evaluateLifecycle (fun _ => .constant now) order = (.ok n, inv'))
    (order' : inv'.certificates.Order) :
    inv'.evaluateLifecycle (fun _ => .constant now) order' = (.ok 0, inv') := by
  have heffect := passEffect_of_evaluateLifecycle h
  refine evaluateLoop_of_evaluated fun id hid => ?_
  obtain ⟨c', hc'⟩ := Finmap.mem_iff.mp ((order'.mem_keys id).mp hid)
  have hmem : id ∈ order.keys := by
    have hsome := congrArg Option.isSome ((heffect.lookup_eq id).symm.trans hc')
    rw [Option.isSome_map] at hsome
    exact (order.mem_keys id).mpr (Finmap.lookup_isSome.mp hsome)
  obtain ⟨c, d, -, hevaluate, hafter⟩ :=
    evaluate_of_evaluateLoop_ok order.nodup (congrArg Prod.fst h) hmem
  rw [evaluateLifecycle] at h
  rw [h, hc'] at hafter
  obtain rfl := Option.some.inj hafter
  exact ⟨c', hc', LifecycleManager.evaluate_constant_of_ok hevaluate⟩

/-- **What a completed pass does.** It brings every certificate to the state that its times call
for, leaves the indexes alone and counts the certificates whose state it changed. Any other order
of the table gives the same inventory and the same count, and a second pass at the same instant
changes nothing. -/
theorem evaluateLifecycle_effect (order : inv.certificates.Order)
    (h : inv.evaluateLifecycle (fun _ => .constant now) order = (.ok n, inv')) :
    inv.PassEffect now n inv' ∧
      (∀ order' : inv.certificates.Order,
        inv.evaluateLifecycle (fun _ => .constant now) order' = (.ok n, inv')) ∧
      ∀ order' : inv'.certificates.Order,
        inv'.evaluateLifecycle (fun _ => .constant now) order' = (.ok 0, inv') := by
  refine ⟨passEffect_of_evaluateLifecycle h, fun order' => ?_, evaluateLifecycle_again h⟩
  -- whether a pass completes does not depend on the order
  have hnone := (evaluateLifecycle_isOk_iff inv _ order).mp ⟨n, congrArg Prod.fst h⟩
  obtain ⟨m, hm⟩ := (evaluateLifecycle_isOk_iff inv _ order').mpr hnone
  have hother : inv.evaluateLifecycle (fun _ => .constant now) order' = (.ok m, _) :=
    Prod.ext hm rfl
  obtain ⟨hcount, hafter⟩ :=
    (passEffect_of_evaluateLifecycle hother).unique (passEffect_of_evaluateLifecycle h)
  rw [hother, hcount, hafter]

/-- An inventory with one certificate that is past its end at the instant of the pass. -/
def overdueInventory : CertificateInventory := new.track (sampleCertificate 1 "01" "aa")

def overdueOrder : overdueInventory.certificates.Order :=
  HashMap.Order.empty.insert 1 (sampleCertificate 1 "01" "aa")

/-- A certificate that is then due for renewal. -/
def dueCertificate : CertificateMetadata :=
  { sampleCertificate 2 "02" "bb" with notAfter := 9000000000000000 }

/-- A certificate that stays as it is. -/
def expiredCertificate : CertificateMetadata :=
  { sampleCertificate 3 "03" "cc" with state := .expired }

def threeInventory : CertificateInventory :=
  (overdueInventory.track dueCertificate).track expiredCertificate

/-- The certificate that is past its end is visited last. -/
def threeOrder : threeInventory.certificates.Order :=
  (overdueOrder.insert 2 dueCertificate).insert 3 expiredCertificate

/-- Two of the three certificates change, in whatever order they are visited. -/
theorem evaluateLifecycle_effect_threeInventory : ∃ inv',
    inv' = (threeInventory.put 2
      { dueCertificate with state := .expiring, updatedAt := 8000000000000000 }).put 1
        { sampleCertificate 1 "01" "aa" with state := .expired, updatedAt := 8000000000000000 } ∧
      threeInventory.PassEffect 8000000000000000 2 inv' ∧
      ∀ order : threeInventory.certificates.Order,
        threeInventory.evaluateLifecycle (fun _ => .constant 8000000000000000) order =
          (.ok 2, inv') := by
  have hcount : (threeInventory.evaluateLifecycle (fun _ => .constant 8000000000000000)
      threeOrder).1 = .ok 2 := by
    decide
  obtain ⟨heffect, horder, -⟩ := evaluateLifecycle_effect threeOrder (Prod.ext hcount rfl)
  exact ⟨_, rfl, heffect, horder⟩

end CertificateInventory

end DaemonPki
