import DaemonPki.Certificate.InventoryRuns

/-!
# Renewal: the work queue and its executor

The renewal queue lists a work item for the certificates that call for one, and the executor
replaces the certificate of a work item by its successor
(`daemon-pki-core/src/certificate/lifecycle.rs`, `RenewalWorkItem`, `RenewalExecutor` and
`LifecycleManager::renewal_queue`).

Three tables have to fit together: the states that `renewal_due` admits to the queue, the states
that `renewal_action` maps to an action, and the states that the transition table lets move to
`Renewed`. They do not. The queue admits `Active` and `Expiring` certificates only; an action is
also called for in `RenewalPending`, `Expired` and `Revoked`; and the only edge into `Renewed`
starts in `RenewalPending`. The theorems of this file say exactly where each pair of tables
disagrees.

## Main definitions

* `DaemonPki.RenewalWorkItem`, `DaemonPki.LifecycleManager.renewalQueue`.
* `DaemonPki.RenewalExecutor.renewIntoInventory`.

## Main results

* `DaemonPki.LifecycleManager.renewalQueue_perm_iff`: when the queue lists every certificate
  that calls for an action.
* `DaemonPki.RenewalExecutor.renewal_unchanged_on_error_iff`: when a failed renewal leaves the
  inventory as it was.
* `DaemonPki.RenewalExecutor.queued_renewal_fails`: no queued renewal can be completed.
-/

namespace DaemonPki

open Foundation CertificateInventory

/-- Source: `lifecycle.rs`, lines 39–46. -/
structure RenewalWorkItem where
  certificateId : Uuid
  action : RenewalAction
  attempts : UInt32
  queuedAt : OffsetDateTime
  identity : CertificateIdentity
  deriving DecidableEq

/-- The clock readings for one certificate while the queue is built: as a candidate, for its
action, and for the time at which its work item is queued. -/
structure QueueClock where
  candidate : OffsetDateTime
  action : OffsetDateTime
  queued : OffsetDateTime
  deriving DecidableEq, Repr

/-- The clock that shows the same instant at every reading. -/
def QueueClock.constant (now : OffsetDateTime) : QueueClock := ⟨now, now, now⟩

/-- Source: `lifecycle.rs`, lines 49–66. -/
def RenewalWorkItem.new (clock : QueueClock) (certificate : CertificateMetadata) :
    Option RenewalWorkItem :=
  let action := LifecycleManager.renewalAction clock.action certificate
  if !action.requiresAction then none
  else some
    { certificateId := certificate.id
      action := action
      attempts := 0
      queuedAt := clock.queued
      identity := certificate.identity }

/-- The work items of the certificates that are due. Source: `lifecycle.rs`, lines 373–381. -/
def LifecycleManager.renewalQueue (inventory : CertificateInventory)
    (clock : Uuid → QueueClock) (order : inventory.certificates.Order) : List RenewalWorkItem :=
  (inventory.renewalCandidates (fun id => (clock id).candidate) order).filterMap fun certificate =>
    RenewalWorkItem.new (clock certificate.id) certificate

/-- Replace the certificate of a work item by its successor. Source: `lifecycle.rs`,
lines 154–183. -/
def RenewalExecutor.renewIntoInventory (inventory : CertificateInventory) (now : OffsetDateTime)
    (replacement : CertificateMetadata) (workItem : RenewalWorkItem) :
    Except LifecycleError Uuid × CertificateInventory :=
  if workItem.action ≠ .renew then (.error (.invalidTransition .active .active), inventory)
  else
    let (result, inventory') :=
      inventory.registerRenewal now workItem.certificateId replacement
    let result' := result.mapError fun error =>
      match error with
      | .lifecycle lifecycleError => lifecycleError
      | _ => .invalidTransition .active .renewed
    (result', inventory')

/-- A certificate left in `RenewalPending`. -/
def pendingCertificate : CertificateMetadata :=
  { sampleCertificate 1 "01" "aa" with state := .renewalPending }

def pendingInventory : CertificateInventory := new.track pendingCertificate

def pendingOrder : pendingInventory.certificates.Order :=
  HashMap.Order.empty.insert 1 pendingCertificate

variable {inv : CertificateInventory} {now : OffsetDateTime} {c c' : CertificateMetadata}

namespace LifecycleManager

/-! ### What the queue lists -/

/-- What a work item says about its certificate. -/
def entry (item : RenewalWorkItem) : Uuid × RenewalAction × CertificateIdentity :=
  (item.certificateId, item.action, item.identity)

/-- What a work item for `certificate` has to say, when one is called for. -/
def dueEntry (now : OffsetDateTime) (certificate : CertificateMetadata) :
    Option (Uuid × RenewalAction × CertificateIdentity) :=
  if renewalAction now certificate = .none then none
  else some (certificate.id, renewalAction now certificate, certificate.identity)

theorem map_entry_new (clock : QueueClock) (c : CertificateMetadata) :
    (RenewalWorkItem.new clock c).map entry = dueEntry clock.action c := by
  simp only [RenewalWorkItem.new, dueEntry]
  cases renewalAction clock.action c <;> rfl

theorem isSome_dueEntry_iff : (dueEntry now c).isSome = true ↔ renewalAction now c ≠ .none := by
  rw [dueEntry]
  split_ifs with h <;> simp [h]

/-- Every work item in the queue is one of a tracked certificate in a usable state. -/
theorem mem_renewalQueue {clock : Uuid → QueueClock} {order : inv.certificates.Order}
    {item : RenewalWorkItem} (h : item ∈ renewalQueue inv clock order) :
    ∃ id c, inv.certificates.lookup id = some c ∧ item.certificateId = c.id ∧
      c.state.isUsable = true := by
  obtain ⟨c, hc, hitem⟩ := List.mem_filterMap.mp h
  obtain ⟨hmem, hdue⟩ := List.mem_filter.mp hc
  obtain ⟨id, hid⟩ := HashMap.Order.mem_values.mp hmem
  refine ⟨id, c, hid, ?_, (CertificateMetadata.renewalDue_iff.mp hdue).2⟩
  have hentry := map_entry_new (clock c.id) c
  rw [hitem, Option.map_some, dueEntry] at hentry
  split_ifs at hentry
  exact congrArg Prod.fst (Option.some.inj hentry)

/-- Filtering before a partial map loses nothing exactly when every element that is mapped
passes the filter. -/
theorem filterMap_filter_perm_iff {α β : Type*} {p : α → Bool} {f : α → Option β} (l : List α) :
    ((l.filter p).filterMap f).Perm (l.filterMap f) ↔
      ∀ a ∈ l, (f a).isSome = true → p a = true := by
  induction l with
  | nil => simp
  | cons a l ih =>
    rw [List.forall_mem_cons]
    by_cases hp : p a = true
    · rw [List.filter_cons_of_pos hp]
      simp only [hp, implies_true, true_and, ← ih]
      cases hf : f a with
      | none => rw [List.filterMap_cons_none hf, List.filterMap_cons_none hf]
      | some b => rw [List.filterMap_cons_some hf, List.filterMap_cons_some hf, List.perm_cons]
    · rw [List.filter_cons_of_neg hp]
      cases hf : f a with
      | none => simp [List.filterMap_cons_none hf, ih]
      | some b =>
        refine iff_of_false (fun hperm => ?_) fun h => hp (h.1 rfl)
        have hlength := hperm.length_eq
        have hle : ((l.filter p).filterMap f).length ≤ (l.filterMap f).length :=
          (List.filter_sublist.filterMap f).length_le
        rw [List.filterMap_cons_some hf, List.length_cons] at hlength
        omega

/-- A certificate that calls for an action is due exactly when it is active, or it is expiring
and inside its renewal window. -/
theorem renewalDue_of_action_iff :
    (renewalAction now c ≠ .none → c.renewalDue now = true) ↔
      c.state = .active ∨ c.state = .renewed ∨
        (c.state = .expiring ∧ c.remainingSeconds now ≤ c.renewalWindowSeconds) := by
  cases hstate : c.state <;>
    simp [renewalAction, CertificateMetadata.renewalDue, CertificateState.isUsable, hstate]

/-- **When the queue misses nothing.** At every instant, the queue lists each certificate that
calls for an action exactly once, with its action and its identity, and no other, exactly when
every tracked certificate is active, renewed, or expiring inside its renewal window. -/
theorem renewalQueue_perm_iff (inv : CertificateInventory) (now : OffsetDateTime)
    (order order' : inv.certificates.Order) :
    ((renewalQueue inv (fun _ => .constant now) order).map entry).Perm
        (order'.values.filterMap (dueEntry now)) ↔
      ∀ id c, inv.certificates.lookup id = some c →
        c.state = .active ∨ c.state = .renewed ∨
          (c.state = .expiring ∧ c.remainingSeconds now ≤ c.renewalWindowSeconds) := by
  have hqueue : (renewalQueue inv (fun _ => .constant now) order).map entry =
      (order.values.filter fun c => c.renewalDue now).filterMap (dueEntry now) := by
    simp only [renewalQueue, List.map_filterMap, map_entry_new, renewalCandidates,
      QueueClock.constant]
  have horder : (order'.values.filterMap (dueEntry now)).Perm
      (order.values.filterMap (dueEntry now)) := (order'.values_perm order).filterMap _
  rw [hqueue, List.Perm.congr_right horder, filterMap_filter_perm_iff]
  refine ⟨fun h id c hc => ?_, fun h c hc => ?_⟩
  · exact renewalDue_of_action_iff.mp fun haction =>
      h c (HashMap.Order.mem_values.mpr ⟨id, hc⟩) (isSome_dueEntry_iff.mpr haction)
  · obtain ⟨id, hid⟩ := HashMap.Order.mem_values.mp hc
    exact fun haction => renewalDue_of_action_iff.mpr (h id c hid) (isSome_dueEntry_iff.mp haction)

theorem not_renewalQueue_perm_pendingInventory :
    renewalQueue pendingInventory (fun _ => .constant 0) pendingOrder = [] ∧
      ¬((renewalQueue pendingInventory (fun _ => .constant 0) pendingOrder).map entry).Perm
        (pendingOrder.values.filterMap (dueEntry 0)) := by
  decide

end LifecycleManager

/-! ### Failed renewals -/

/-- A failed renewal has changed the inventory exactly when the predecessor was in
`RenewalPending` and the replacement is refused: the predecessor is then left in `Renewed`,
without a successor. -/
theorem registerRenewal_unchanged_iff (inv : CertificateInventory) (now : OffsetDateTime)
    (previousId : Uuid) (replacement : CertificateMetadata) :
    ((∃ e, (inv.registerRenewal now previousId replacement).1 = .error e) →
        (inv.registerRenewal now previousId replacement).2 = inv) ↔
      ¬((∃ previous, inv.certificates.lookup previousId = some previous ∧
        previous.state = .renewalPending) ∧ ¬inv.Accepts replacement) := by
  rcases inv.registerRenewal_cases now previousId replacement with
    ⟨e, h, herror⟩ | ⟨c, c', hc, hc', h⟩
  · refine iff_of_true (fun _ => by rw [h]) fun ⟨⟨c, hc, hstate⟩, _⟩ => ?_
    obtain ⟨e', he', -⟩ := herror c hc
    exact not_renewable_of_error he' (Or.inl hstate)
  · rw [h]
    rcases register_successor_cases hc c' replacement with ⟨hacc, hok⟩ | ⟨hacc, e, he, -⟩
    · refine iff_of_true (fun ⟨e, he⟩ => ?_) fun hnot => hnot.2 hacc
      rw [hok] at he
      cases he
    · simp only [he, Except.error.injEq, exists_eq', true_implies, hacc, not_false_eq_true,
        and_true, hc, Option.some.injEq, exists_eq_left']
      rcases LifecycleManager.transition_eq_ok_iff.mp hc' with ⟨hstate, rfl⟩ | ⟨hallowed, rfl⟩
      · exact iff_of_true (put_lookup_self hc) (by rw [hstate]; decide)
      · have hpending : c.state = .renewalPending := by
          revert hallowed
          cases c.state <;> simp [LifecycleManager.allowed]
        refine iff_of_false (fun heq => ?_) (not_not.mpr hpending)
        have hlookup := lookup_put inv previousId previousId
          { c with state := .renewed, updatedAt := now }
        rw [heq, hc, if_pos rfl] at hlookup
        have hrenewed := congrArg CertificateMetadata.state (Option.some.inj hlookup)
        rw [hpending] at hrenewed
        cases hrenewed

namespace RenewalExecutor

theorem renewIntoInventory_of_renew (inv : CertificateInventory) (now : OffsetDateTime)
    (replacement : CertificateMetadata) {workItem : RenewalWorkItem}
    (h : workItem.action = .renew) :
    ((∃ e, (renewIntoInventory inv now replacement workItem).1 = .error e) ↔
        ∃ e, (inv.registerRenewal now workItem.certificateId replacement).1 = .error e) ∧
      (renewIntoInventory inv now replacement workItem).2 =
        (inv.registerRenewal now workItem.certificateId replacement).2 := by
  rw [renewIntoInventory, if_neg (not_not.mpr h)]
  refine ⟨?_, rfl⟩
  cases hresult : (inv.registerRenewal now workItem.certificateId replacement).1 <;>
    simp [Except.mapError, hresult]

/-- **When a failed renewal leaves the inventory unchanged**, for `register_renewal` and for
`renew_into_inventory`: unless the predecessor is in `RenewalPending` and the identifier or the
serial number of the replacement is in use. -/
theorem renewal_unchanged_on_error_iff (inv : CertificateInventory) (now : OffsetDateTime)
    (replacement : CertificateMetadata) :
    (∀ previousId, ((∃ e, (inv.registerRenewal now previousId replacement).1 = .error e) →
        (inv.registerRenewal now previousId replacement).2 = inv) ↔
      ¬((∃ previous, inv.certificates.lookup previousId = some previous ∧
        previous.state = .renewalPending) ∧ ¬inv.Accepts replacement)) ∧
    ∀ workItem : RenewalWorkItem,
      ((∃ e, (renewIntoInventory inv now replacement workItem).1 = .error e) →
        (renewIntoInventory inv now replacement workItem).2 = inv) ↔
      ¬(workItem.action = .renew ∧
        (∃ previous, inv.certificates.lookup workItem.certificateId = some previous ∧
          previous.state = .renewalPending) ∧ ¬inv.Accepts replacement) := by
  refine ⟨fun previousId => registerRenewal_unchanged_iff inv now previousId replacement,
    fun workItem => ?_⟩
  by_cases haction : workItem.action = .renew
  · obtain ⟨herror, hafter⟩ := renewIntoInventory_of_renew inv now replacement haction
    rw [herror, hafter, registerRenewal_unchanged_iff]
    simp only [haction, true_and]
  · rw [renewIntoInventory, if_pos haction]
    exact iff_of_true (fun _ => rfl) fun h => haction h.1

/-- The renewal of a pending certificate by one with its own serial number fails, and leaves it
renewed without a successor. -/
theorem registerRenewal_pendingInventory :
    (pendingInventory.registerRenewal 5 1 (sampleCertificate 2 "01" "bb")).1 =
        .error (.duplicateSerial "01") ∧
      (pendingInventory.registerRenewal 5 1 (sampleCertificate 2 "01" "bb")).2 ≠
        pendingInventory := by
  decide

/-! ### Queued renewals -/

/-- The renewal of a work item succeeds, leaves the predecessor in `Renewed` and tracks the
replacement as active. -/
def Completes (inv : CertificateInventory) (now : OffsetDateTime)
    (replacement : CertificateMetadata) (workItem : RenewalWorkItem) : Prop :=
  (∃ id, (renewIntoInventory inv now replacement workItem).1 = .ok id) ∧
    (∃ previous, (renewIntoInventory inv now replacement workItem).2.certificates.lookup
      workItem.certificateId = some previous ∧ previous.state = .renewed) ∧
    ∃ successor, (renewIntoInventory inv now replacement workItem).2.certificates.lookup
      replacement.id = some successor ∧ successor.state = .active

/-- The renewal of a certificate in a usable state is refused by the transition table. -/
theorem registerRenewal_of_isUsable {id : Uuid} (hc : inv.certificates.lookup id = some c)
    (husable : c.state.isUsable = true) (replacement : CertificateMetadata) :
    inv.registerRenewal now id replacement =
      (.error (.lifecycle (.invalidTransition c.state .renewed)), inv) := by
  have hrefused : LifecycleManager.transition now c .renewed =
      .error (.invalidTransition c.state .renewed) := by
    rw [LifecycleManager.transition_eq_error_iff]
    revert husable
    cases c.state <;>
      simp [CertificateState.isUsable, CertificateState.isTerminal, LifecycleManager.allowed]
  rcases inv.registerRenewal_cases now id replacement with
    ⟨e, h, herror⟩ | ⟨d, d', hd, hd', -⟩
  · obtain ⟨e', he', rfl⟩ := herror c hc
    rw [h, Except.error.inj (hrefused.symm.trans he')]
  · obtain rfl : c = d := Option.some.inj (hc.symm.trans hd)
    rw [hrefused] at hd'
    cases hd'

/-- A call of the methods in which only active certificates are registered. -/
def RegistersActive : InventoryCall → Prop
  | .register certificate => certificate.state = .active
  | call => call.IsMethod

/-- The inventory under such calls. -/
def renewalCalls : LTS CertificateInventory InventoryCall :=
  inventorySystem.restrict fun _ call => RegistersActive call

/-- **No queued renewal can be completed.** In every inventory reached from the empty one, the
renewal of every queued work item fails with the transition of its certificate refused, whatever
the replacement, and the inventory stays as it was. -/
theorem queued_renewal_fails (run : renewalCalls.Run new inv) (clock : Uuid → QueueClock)
    (order : inv.certificates.Order) {workItem : RenewalWorkItem}
    (hitem : workItem ∈ LifecycleManager.renewalQueue inv clock order)
    (haction : workItem.action = .renew) (now : OffsetDateTime)
    (replacement : CertificateMetadata) :
    ¬Completes inv now replacement workItem ∧
      ∃ c, inv.certificates.lookup workItem.certificateId = some c ∧
        renewIntoInventory inv now replacement workItem =
          (.error (.invalidTransition c.state .renewed), inv) := by
  obtain ⟨id, c, hc, hid, husable⟩ := LifecycleManager.mem_renewalQueue hitem
  have hkey : c.id = id := (wellFormed_of_run run.ofRestrict).id_eq id c hc
  rw [← hkey, ← hid] at hc
  have hresult : renewIntoInventory inv now replacement workItem =
      (.error (.invalidTransition c.state .renewed), inv) := by
    rw [renewIntoInventory, if_neg (not_not.mpr haction), registerRenewal_of_isUsable hc husable]
    rfl
  refine ⟨fun ⟨⟨id, hok⟩, _⟩ => ?_, c, hc, hresult⟩
  rw [hresult] at hok
  cases hok

/-- An inventory with one active certificate, reached by its registration. -/
def dueInventory : CertificateInventory := new.track (sampleCertificate 1 "01" "aa")

def dueRun : renewalCalls.Run new dueInventory :=
  .snoc .nil (.register (sampleCertificate 1 "01" "aa")) ⟨rfl, rfl⟩

def dueOrder : dueInventory.certificates.Order :=
  HashMap.Order.empty.insert 1 (sampleCertificate 1 "01" "aa")

/-- Ten days before the end of the certificate. -/
def dueTime : OffsetDateTime := 6912000000000000

/-- The work item that is then queued. -/
def dueWorkItem : RenewalWorkItem :=
  ⟨1, .renew, 0, dueTime, (sampleCertificate 1 "01" "aa").identity⟩

theorem queued_renewal_fails_dueInventory :
    ¬Completes dueInventory dueTime (sampleCertificate 2 "02" "bb") dueWorkItem :=
  (queued_renewal_fails dueRun (fun _ => .constant dueTime) dueOrder (by decide) rfl dueTime
    (sampleCertificate 2 "02" "bb")).1

theorem renewIntoInventory_dueInventory :
    Nonempty (renewalCalls.Run new dueInventory) ∧
      dueWorkItem ∈ LifecycleManager.renewalQueue dueInventory (fun _ => .constant dueTime)
        dueOrder ∧
      dueInventory.Accepts (sampleCertificate 2 "02" "bb") ∧
      "bb" ∉ dueInventory.fingerprintIndex ∧
      (renewIntoInventory dueInventory dueTime (sampleCertificate 2 "02" "bb") dueWorkItem).1 =
        .error (.invalidTransition .active .renewed) :=
  ⟨⟨dueRun⟩, by decide, by decide, by decide, by decide⟩

end RenewalExecutor

end DaemonPki
