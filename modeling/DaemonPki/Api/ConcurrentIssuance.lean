import DaemonPki.Api.Preparation
import DaemonPki.Api.RevocationRuns

/-!
# Concurrent issuances

Issuances from any number of threads (`daemon-pki-api/src/issuance.rs`, `issue`), next to calls of
the certificate store by other requests. An issuance decides and signs by itself; then it inserts
the record of the certificate by the steps of the store, and appends an event to the audit trail
under the write lock of that. No lock is held from the one to the other: between the insertion of a
record and the event that tells of it, other threads change the map, write the file and append
events of their own.

The trail is only in memory and the file is only the store's, and no step writes both. What relates
them nevertheless is the order in which one issuance does its steps.

## Main definitions

* `DaemonPki.IssuanceShared`, `DaemonPki.IssuePc`, `DaemonPki.IssueStep`,
  `DaemonPki.concurrentIssuance`.
* `DaemonPki.IssuePc.Recorded`, `DaemonPki.IssuePc.Origin`, `DaemonPki.IssuePc.Kept`: the parts of
  the invariant.

## Main results

* `DaemonPki.exists_run_of_issue`: the service, called alone, takes these steps.
* `DaemonPki.issuanceInvariant_step`: every step of every thread keeps the invariant.
* `DaemonPki.recorded_of_interleaving`: what the trail and the file say about the issuances.
-/

namespace DaemonPki

open Foundation

/-! ### The steps -/

/-- The arguments of an issuance, and what the environment does in it. -/
structure IssueCall where
  principal : AuthenticatedPrincipal
  request : IssueCertificateRequest
  env : IssuanceEnvironment

/-- What the issuance does by itself, under the policy of the service. -/
def IssueCall.prepare (policy : IssuancePolicy) (call : IssueCall) : Preparation :=
  IssuanceService.prepare policy call.principal call.request call.env

/-- What an issuance returns. -/
abbrev IssueResult :=
  Except IssuanceServiceError (IssueCertificateResponse × IssuanceAuditEvent)

/-- What it returns when its record was stored. -/
def IssueCall.success (call : IssueCall) (certificatePem : String) : IssueResult :=
  .ok (IssuanceService.issueResponse call.request certificatePem,
    IssuanceService.issuanceAuditEvent call.principal call.request call.env.auditId)

/-- The event that it then records. -/
def IssueCall.successEvent (call : IssueCall) : AuditEvent :=
  IssuanceService.issuanceEvent call.env .certificateIssued .success call.principal
    call.request.commonName none

/-- What the threads share: the store and the audit trail. The thread that has recorded an event is
kept for the statements. -/
structure IssuanceShared (ι : Type*) where
  store : SharedStore ι
  trail : List (ι × AuditEvent)

/-- Where a thread stands: an issuance before its first step, while it stores its record, or after
its answer, with the version of the map that it made; or a call of the store by another request. -/
inductive IssuePc
  | called (call : IssueCall)
  | storing (call : IssueCall) (certificatePem : String) (record : CertificateRecord)
      (pc : StorePc)
  | answered (call : IssueCall) (result : IssueResult) (version : Option ℕ)
  | other (pc : StorePc)

inductive IssueAction
  | prepare
  | store (action : StoreAction)
  | record
  deriving DecidableEq, Repr

variable {ι : Type*} [DecidableEq ι]

/-- The steps of the thread `i`. To record an event is one step, under the write lock of the trail.
Source: `issuance.rs`, lines 192–370, and `audit/mod.rs`, lines 124–134. -/
inductive IssueStep (policy : IssuancePolicy) (i : ι) :
    IssuanceShared ι → IssuePc → IssueAction → IssuanceShared ι → IssuePc → Prop
  | refuse {s : IssuanceShared ι} {call : IssueCall} {error : IssuanceServiceError}
      {event : AuditEvent} (h : call.prepare policy = .ends error (some event)) :
      IssueStep policy i s (.called call) .record { s with trail := s.trail ++ [(i, event)] }
        (.answered call (.error error) none)
  | unreadable {s : IssuanceShared ι} {call : IssueCall} {error : IssuanceServiceError}
      (h : call.prepare policy = .ends error none) :
      IssueStep policy i s (.called call) .prepare s (.answered call (.error error) none)
  | prepare {s : IssuanceShared ι} {call : IssueCall} {certificatePem : String}
      {record : CertificateRecord} (h : call.prepare policy = .stores certificatePem record) :
      IssueStep policy i s (.called call) .prepare s
        (.storing call certificatePem record (.called (.insert record)))
  | store {s : IssuanceShared ι} {call : IssueCall} {certificatePem : String}
      {record : CertificateRecord} {pc pc' : StorePc} {action : StoreAction}
      {store' : SharedStore ι} (h : StoreStep i s.store pc action store' pc') :
      IssueStep policy i s (.storing call certificatePem record pc) (.store action)
        { s with store := store' } (.storing call certificatePem record pc')
  | unstored {s : IssuanceShared ι} {call : IssueCall} {certificatePem : String}
      {record : CertificateRecord} {version : Option ℕ} :
      IssueStep policy i s (.storing call certificatePem record (.returned false version)) .prepare
        s (.answered call
          (.error (.certificateStore (CertificateStoreError.io.toString call.env.cause))) version)
  | record {s : IssuanceShared ι} {call : IssueCall} {certificatePem : String}
      {record : CertificateRecord} {version : Option ℕ} :
      IssueStep policy i s (.storing call certificatePem record (.returned true version)) .record
        { s with trail := s.trail ++ [(i, call.successEvent)] }
        (.answered call (call.success certificatePem) version)
  | other {s : IssuanceShared ι} {pc pc' : StorePc} {action : StoreAction}
      {store' : SharedStore ι} (h : StoreStep i s.store pc action store' pc') :
      IssueStep policy i s (.other pc) (.store action) { s with store := store' } (.other pc')

/-- The interleavings of the threads. -/
def concurrentIssuance (policy : IssuancePolicy) :
    LTS (Threads ι (IssuanceShared ι) IssuePc) (ι × IssueAction) :=
  interleave (IssueStep policy)

/-! ### One issuance without interruption -/

/-- The map, the file and the trail are those of the service. -/
structure IssuanceShared.Shows {ι : Type*} (s : IssuanceShared ι) (state : IssuanceState) :
    Prop where
  records_eq : s.store.records = state.store.records
  file_eq : (s.store.file.map fun p => p.contents) = state.store.file
  trail_eq : s.trail.map Prod.snd = state.audit.events

/-- **The service**, called alone while no call of the store holds its lock and when nothing
happens to the file, takes the steps of a thread that is not interrupted. -/
theorem exists_run_of_issue {policy : IssuancePolicy} {c : Threads ι (IssuanceShared ι) IssuePc}
    {i : ι} {call : IssueCall} (hi : c.locals i = .called call)
    (hfree : c.shared.store.readers = ∅) (hfault : call.env.fault = none) {state : IssuanceState}
    (hshows : c.shared.Shows state) :
    ∃ s version, Nonempty ((concurrentIssuance policy).Run c (c.move i s (.answered call
        (IssuanceService.issue policy call.principal call.request call.env state).1 version))) ∧
      s.Shows (IssuanceService.issue policy call.principal call.request call.env state).2 := by
  cases hprepare : call.prepare policy with
  | ends error event =>
    obtain ⟨hresult, hstore, haudit⟩ := IssuanceService.issue_of_ends hprepare state
    rw [hresult]
    cases event with
    | none =>
      refine ⟨c.shared, none, ⟨LTS.Run.nil.snoc (i, .prepare)
        (interleave_step hi (.unreadable hprepare))⟩, ?_⟩
      refine ⟨?_, ?_, ?_⟩
      · rw [hstore, hshows.records_eq]
      · rw [hstore, hshows.file_eq]
      · rw [haudit, hshows.trail_eq]
        exact (List.append_nil _).symm
    | some event =>
      refine ⟨_, none, ⟨LTS.Run.nil.snoc (i, .record)
        (interleave_step hi (.refuse hprepare))⟩, ?_⟩
      refine ⟨?_, ?_, ?_⟩
      · rw [hstore, hshows.records_eq]
      · rw [hstore, hshows.file_eq]
      · rw [haudit, List.map_append, hshows.trail_eq]
        rfl
  | stores certificatePem record =>
    have hinsert : state.store.insert record call.env.fault =
        (.ok record.id, ⟨state.store.records.insertRecord record,
          some (.json (state.store.records.insertRecord record))⟩) := by
      rw [hfault]
      rfl
    obtain ⟨hstore, hresult, haudit⟩ := IssuanceService.issue_of_stores hprepare state hinsert
    rw [hresult]
    have hfirst : (concurrentIssuance policy).step c (i, .prepare) (c.move i c.shared
        (.storing call certificatePem record (.called (.insert record)))) :=
      interleave_step hi (.prepare hprepare)
    refine ⟨_, _, ⟨(((((((LTS.Run.nil.snoc _ hfirst).snoc _
      (interleave_move_step (.store (.change hfree rfl)))).snoc _
      (interleave_move_step (.store .lock))).snoc _
      (interleave_move_step (.store .serialize))).snoc _
      (interleave_move_step (.store .write))).snoc _
      (interleave_move_step (.store (.rename rfl)))).snoc _
      (interleave_move_step (.store .unlock))).snoc _
      (interleave_move_step .record)⟩, ?_⟩
    refine ⟨?_, ?_, ?_⟩
    · rw [hstore]
      exact congrArg (Records.insertRecord · record) hshows.records_eq
    · rw [hstore, ← hshows.records_eq]
      rfl
    · rw [haudit, List.map_append, hshows.trail_eq]
      rfl

/-! ### What the threads were called with -/

/-- The call neither enters the certificate nor removes it. -/
def StoreCall.Spares (id : Uuid) : StoreCall → Prop
  | .insert record => record.id ≠ id
  | .revoke _ _ _ => True
  | .remove id' => id' ≠ id

/-- The thread, before its first step, was called for something else than to enter or to remove the
certificate. -/
def IssuePc.Spares (id : Uuid) : IssuePc → Prop
  | .called call => call.env.recordId ≠ id
  | .other (.called call) => call.Spares id
  | _ => True

/-- The record is the one that was issued, or one of the threads that were called has revoked it. -/
def CertificateRecord.RevokedIn (start : ι → IssuePc) (issued record : CertificateRecord) : Prop :=
  record = issued ∨ ∃ now reason,
    (∃ j, start j = .other (.called (.revoke now issued.id reason))) ∧
      record = Records.markRevoked now reason issued

/-- The map has the certificate, revoked by one of the threads or not. -/
def Records.Carries (start : ι → IssuePc) (issued : CertificateRecord) (records : Records) : Prop :=
  ∃ record, records.lookup issued.id = some record ∧ issued.RevokedIn start record

omit [DecidableEq ι] in
/-- The call of another thread leaves the certificate as it is or revokes it. -/
theorem Records.Carries.change {start : ι → IssuePc} {issued : CertificateRecord}
    {records changed : Records} {call : StoreCall} (hspares : call.Spares issued.id)
    (hrevoke : ∀ now reason, call = .revoke now issued.id reason →
      ∃ j, start j = .other (.called call))
    (hchange : call.change records = some changed) (h : records.Carries start issued) :
    changed.Carries start issued := by
  obtain ⟨record, hrecord, hrevoked⟩ := h
  cases call with
  | insert other =>
    cases hchange
    exact ⟨record, (Finmap.lookup_insert_of_ne records (Ne.symm hspares)).trans hrecord, hrevoked⟩
  | remove id =>
    obtain ⟨⟨removed, records'⟩, hremove, rfl⟩ := Option.map_eq_some_iff.mp hchange
    obtain ⟨-, rfl⟩ := removeRecord_eq_some hremove
    exact ⟨record, (Finmap.lookup_erase_ne (Ne.symm hspares)).trans hrecord, hrevoked⟩
  | revoke now id reason =>
    obtain ⟨⟨updated, records'⟩, hrevoke', rfl⟩ := Option.map_eq_some_iff.mp hchange
    obtain ⟨old, hold, rfl, rfl⟩ := revokeRecord_eq_some hrevoke'
    by_cases hid : id = issued.id
    · subst hid
      obtain rfl : old = record := Option.some.inj (hold.symm.trans hrecord)
      refine ⟨_, Finmap.lookup_insert _, ?_⟩
      rcases hrevoked with rfl | ⟨now', reason', hcalled, rfl⟩
      · exact Or.inr ⟨now, reason, hrevoke now reason rfl, rfl⟩
      · refine Or.inr ⟨now', reason', hcalled, ?_⟩
        exact markRevoked_of_revoked (revoked_markRevoked now' reason' issued) now reason
    · exact ⟨record, (Finmap.lookup_insert_of_ne records (Ne.symm hid)).trans hrecord, hrevoked⟩

/-! ### The invariant -/

/-- Where the thread stands in the store, with no call under way before and after. -/
def IssuePc.storePc : IssuePc → StorePc
  | .called _ => .returned true none
  | .storing _ _ _ pc => pc
  | .answered _ _ version => .returned true version
  | .other pc => pc

/-- The events that a thread has recorded. -/
def IssuanceShared.eventsOf (s : IssuanceShared ι) (i : ι) : List AuditEvent :=
  (s.trail.filter fun entry => entry.1 = i).map Prod.snd

/-- The events of an issuance that has been answered are one, which is truthful, unless the answer
is an error of the store, and of which there may be none. -/
def IssueCall.Told (call : IssueCall) (events : List AuditEvent) (result : IssueResult) : Prop :=
  IssuanceService.AuditedOnce call.principal ⟨[]⟩ ⟨events⟩ result ∨
    events = [] ∧ ∃ text, result = .error (.certificateStore text)

/-- A thread records nothing before its answer. -/
def IssuePc.Recorded (i : ι) (s : IssuanceShared ι) : IssuePc → Prop
  | .answered call result _ => call.Told (s.eventsOf i) result
  | _ => s.eventsOf i = []

/-- A call of the store that inserts the record, wherever it stands. -/
def StorePc.Inserts (record : CertificateRecord) : StorePc → Prop
  | .called call => call = .insert record
  | .returned _ none => False
  | _ => True

/-- Where a thread stands follows from what it was called with. -/
def IssuePc.Origin (policy : IssuancePolicy) (start : IssuePc) : IssuePc → Prop
  | .called call => start = .called call
  | .storing call certificatePem record pc => start = .called call ∧
      call.prepare policy = .stores certificatePem record ∧ pc.Inserts record
  | .answered call _ _ => start = .called call
  | .other pc => ∃ call, start = .other (.called call) ∧ ∀ call', pc = .called call' → call' = call

/-- The number of the version that a call has made. -/
def StorePc.version : StorePc → Option ℕ
  | .called _ => none
  | .changed v | .locked v | .serialized v _ | .written v | .renamed v | .failed v => some v
  | .returned _ version => version

/-- The versions of the map have the certificate from the number `v` on. -/
def SharedStore.CarriesFrom (start : ι → IssuePc) (v : ℕ) (issued : CertificateRecord)
    (s : SharedStore ι) : Prop :=
  ∀ w records, v ≤ w → s.versions[w]? = some records → records.Carries start issued

/-- From the version on that an issuance has made, the map has its record, when no other thread was
called to enter it or to remove it. A successful answer comes after a version as new was placed. -/
def IssuePc.Kept (policy : IssuancePolicy) (start : ι → IssuePc) (i : ι) (s : SharedStore ι) :
    IssuePc → Prop
  | .storing _ _ record pc => ∀ v, pc.version = some v →
      (∀ j, j ≠ i → (start j).Spares record.id) → s.CarriesFrom start v record
  | .answered call (.ok value) version => ∃ certificatePem record v,
      call.prepare policy = .stores certificatePem record ∧
        call.success certificatePem = .ok value ∧ version = some v ∧
        ((∀ j, j ≠ i → (start j).Spares record.id) → s.CarriesFrom start v record)
  | _ => True

/-- What holds where the thread `i` stands. -/
structure IssuePc.Assertion (policy : IssuancePolicy) (start : ι → IssuePc) (i : ι)
    (s : IssuanceShared ι) (pc : IssuePc) : Prop where
  store : pc.storePc.Assertion i s.store
  recorded : pc.Recorded i s
  origin : IssuePc.Origin policy (start i) pc
  kept : pc.Kept policy start i s.store

/-! ### The trail -/

variable {s s' : IssuanceShared ι} {i j : ι}

theorem eventsOf_append_self (s : IssuanceShared ι) (i : ι) (event : AuditEvent) :
    IssuanceShared.eventsOf { s with trail := s.trail ++ [(i, event)] } i =
      s.eventsOf i ++ [event] := by
  rw [IssuanceShared.eventsOf, List.filter_append, List.map_append]
  congr 1
  simp

theorem eventsOf_append_of_ne (s : IssuanceShared ι) (hij : j ≠ i) (event : AuditEvent) :
    IssuanceShared.eventsOf { s with trail := s.trail ++ [(i, event)] } j = s.eventsOf j := by
  rw [IssuanceShared.eventsOf, List.filter_append, List.filter_cons_of_neg, List.filter_nil,
    List.append_nil, IssuanceShared.eventsOf]
  simpa using Ne.symm hij

/-! ### What the steps do to the store -/

section Store

variable {start : ι → IssuePc} {t t' : SharedStore ι} {pc pc' : StorePc} {action : StoreAction}
  {issued : CertificateRecord} {v : ℕ}

/-- The call of another thread leaves the certificate in the newer versions of the map. -/
theorem SharedStore.CarriesFrom.step (ht : t.Consistent) (hv : v < t.versions.length)
    (hspares : ∀ call, pc = .called call → call.Spares issued.id)
    (hrevoke : ∀ call now reason, pc = .called call → call = .revoke now issued.id reason →
      ∃ j, start j = .other (.called call))
    (hstep : StoreStep i t pc action t' pc') (h : t.CarriesFrom start v issued) :
    t'.CarriesFrom start v issued := by
  cases hstep with
  | @change call records hfree hchange =>
    have hlast : t.versions[t.versions.length - 1]? = some t.records := by
      rw [← List.getLast?_eq_getElem?, ht.newest]
    have hnewest : t.records.Carries start issued := h _ _ (Nat.le_sub_one_of_lt hv) hlast
    intro w records' hw hrecords'
    rcases Nat.lt_or_ge w t.versions.length with hlt | hge
    · rw [List.getElem?_append_left hlt] at hrecords'
      exact h w records' hw hrecords'
    · obtain rfl : records = records' := by
        rw [List.getElem?_append_right hge] at hrecords'
        exact List.mem_singleton.mp (List.mem_of_getElem? hrecords') |>.symm
      exact hnewest.change (hspares call rfl) (fun now reason => hrevoke call now reason rfl)
        hchange
  | _ => exact h

/-- An insertion stays one. -/
theorem StorePc.Inserts.step (hinserts : pc.Inserts issued)
    (hstep : StoreStep i t pc action t' pc') : pc'.Inserts issued := by
  cases hstep with
  | @absent call hfree hchange =>
    obtain rfl : call = .insert issued := hinserts
    cases hchange
  | _ => trivial

/-- The insertion of a record makes a version that has it, and its other steps leave it there. -/
theorem carriesFrom_insert (hinserts : pc.Inserts issued)
    (hstep : StoreStep i t pc action t' pc')
    (h : ∀ v, pc.version = some v → t.CarriesFrom start v issued) :
    ∀ v, pc'.version = some v → t'.CarriesFrom start v issued := by
  cases hstep with
  | @change call records hfree hchange =>
    intro v hv w records' hw hrecords'
    obtain rfl := Option.some.inj hv
    obtain rfl : call = .insert issued := hinserts
    cases hchange
    rw [List.getElem?_append_right hw] at hrecords'
    rw [List.mem_singleton.mp (List.mem_of_getElem? hrecords')]
    exact ⟨issued, Finmap.lookup_insert _, Or.inl rfl⟩
  | absent hfree hchange => exact fun v hv => nomatch hv
  | _ => exact h

end Store

/-! ### Every step keeps the invariant -/

variable {policy : IssuancePolicy} {start : ι → IssuePc} {pc pc' pcj : IssuePc}
  {action : IssueAction}

/-- A thread whose step is one of the store stays the same call. -/
theorem IssuePc.Origin.other_step {storePc storePc' : StorePc} {storeAction : StoreAction}
    {t t' : SharedStore ι} (h : IssuePc.Origin policy (start i) (.other storePc))
    (hstep : StoreStep i t storePc storeAction t' storePc') :
    IssuePc.Origin policy (start i) (.other storePc') := by
  obtain ⟨call, hstart, -⟩ := h
  refine ⟨call, hstart, fun call' hcall' => ?_⟩
  cases hstep <;> cases hcall'

/-- A step of a thread keeps the invariant of the store and its own assertion. -/
theorem issueStep_own (hs : s.store.Consistent) (hpc : pc.Assertion policy start i s)
    (hstep : IssueStep policy i s pc action s' pc') :
    s'.store.Consistent ∧ pc'.Assertion policy start i s' := by
  obtain ⟨hstore, hrecorded, horigin, hkept⟩ := hpc
  cases hstep with
  | @refuse call error event h =>
    refine ⟨hs, hstore, ?_, horigin, trivial⟩
    rw [IssuePc.Recorded, eventsOf_append_self, hrecorded, IssueCall.Told]
    rcases IssuanceService.event_of_prepare h with
      ⟨eventType, outcome, reason, houtcome, hevent⟩ | ⟨hnone, -⟩
    · rw [Option.some.inj hevent, IssuanceService.record_issuanceEvent _ _ _ _ _ _ ⟨[]⟩]
      exact Or.inl (IssuanceService.auditedOnce_error houtcome error)
    · cases hnone
  | @unreadable call error h =>
    refine ⟨hs, hstore, ?_, horigin, trivial⟩
    rcases IssuanceService.event_of_prepare h with ⟨eventType, outcome, reason, -, hevent⟩ |
      ⟨-, text, rfl⟩
    · cases hevent
    · exact Or.inr ⟨hrecorded, text, rfl⟩
  | prepare h => exact ⟨hs, hstore, hrecorded, ⟨horigin, h, rfl⟩, fun v hv => nomatch hv⟩
  | @store call certificatePem record storePc storePc' storeAction t h =>
    obtain ⟨hconsistent, hassertion⟩ := storeStep_own hs hstore h
    obtain ⟨hcalled, hprepare, hinserts⟩ := horigin
    refine ⟨hconsistent, hassertion, hrecorded, ⟨hcalled, hprepare, hinserts.step h⟩, ?_⟩
    intro v hv hspares
    exact carriesFrom_insert hinserts h (fun v hv => hkept v hv hspares) v hv
  | @unstored call certificatePem record version =>
    refine ⟨hs, ?_, Or.inr ⟨hrecorded, _, rfl⟩, horigin.1, trivial⟩
    cases version <;> exact hstore
  | @record call certificatePem record version =>
    obtain ⟨hcalled, hprepare, hinserts⟩ := horigin
    refine ⟨hs, hstore, ?_, hcalled, ?_⟩
    · rw [IssuePc.Recorded, eventsOf_append_self, hrecorded, IssueCall.Told,
        IssueCall.successEvent, IssuanceService.record_issuanceEvent _ _ _ _ _ _ ⟨[]⟩]
      exact Or.inl (IssuanceService.auditedOnce_ok _)
    · cases version with
      | none => exact hinserts.elim
      | some v => exact ⟨certificatePem, record, v, hprepare, rfl, rfl, hkept v rfl⟩
  | other h =>
    obtain ⟨hconsistent, hassertion⟩ := storeStep_own hs hstore h
    exact ⟨hconsistent, hassertion, hrecorded, horigin.other_step h, trivial⟩

omit [DecidableEq ι] in
/-- What a thread calls the store for, it was called for. -/
theorem IssuePc.Origin.spares {id : Uuid} {storeCall : StoreCall}
    (h : IssuePc.Origin policy (start i) pc) (hspares : (start i).Spares id)
    (hcall : pc.storePc = .called storeCall) : storeCall.Spares id := by
  cases pc with
  | called call => cases hcall
  | answered call result version => cases hcall
  | storing call certificatePem record storePc =>
    obtain ⟨hstart, hprepare, hinserts⟩ := h
    obtain rfl : storePc = .called storeCall := hcall
    obtain rfl : storeCall = .insert record := hinserts
    rw [hstart] at hspares
    rw [StoreCall.Spares, IssuanceService.id_of_prepare hprepare]
    exact hspares
  | other storePc =>
    obtain ⟨call, hstart, hcalled⟩ := h
    obtain rfl : storeCall = call := hcalled storeCall hcall
    rwa [hstart] at hspares

omit [DecidableEq ι] in
/-- Only a thread that was called to revoke a certificate revokes it. -/
theorem IssuePc.Origin.revokes {id : Uuid} {storeCall : StoreCall} {now : OffsetDateTime}
    {reason : String} (h : IssuePc.Origin policy (start i) pc)
    (hcall : pc.storePc = .called storeCall) (hrevoke : storeCall = .revoke now id reason) :
    start i = .other (.called storeCall) := by
  cases pc with
  | called call => cases hcall
  | answered call result version => cases hcall
  | storing call certificatePem record storePc =>
    obtain ⟨hstart, hprepare, hinserts⟩ := h
    obtain rfl : storePc = .called storeCall := hcall
    obtain rfl : storeCall = .insert record := hinserts
    cases hrevoke
  | other storePc =>
    obtain ⟨call, hstart, hcalled⟩ := h
    rw [hstart, hcalled storeCall hcall]

/-- What a step does to the store, as a step of a call of the store, if it does anything. -/
theorem IssueStep.store_cases (hstep : IssueStep policy i s pc action s' pc') :
    s'.store = s.store ∨ ∃ storeAction,
      StoreStep i s.store pc.storePc storeAction s'.store pc'.storePc := by
  cases hstep with
  | store h => exact Or.inr ⟨_, h⟩
  | other h => exact Or.inr ⟨_, h⟩
  | _ => exact Or.inl rfl

omit [DecidableEq ι] in
/-- A version that was made is one of the map. -/
theorem StorePc.Assertion.version_lt {storePc : StorePc} {t : SharedStore ι} {v : ℕ}
    (h : storePc.Assertion i t) (hv : storePc.version = some v) : v < t.versions.length := by
  cases storePc with
  | called call => cases hv
  | changed w =>
    cases hv
    exact h.2.1
  | locked w =>
    cases hv
    exact h.2.1
  | _ =>
    cases hv
    exact h.2.1.1

/-- A step of a thread keeps the assertion of every other thread. -/
theorem issueStep_other (hij : j ≠ i) (hs : s.store.Consistent)
    (hpc : pc.Assertion policy start i s) (hpcj : pcj.Assertion policy start j s)
    (hstep : IssueStep policy i s pc action s' pc') : pcj.Assertion policy start j s' := by
  have hevents : s'.eventsOf j = s.eventsOf j := by
    cases hstep with
    | refuse h => exact eventsOf_append_of_ne s hij _
    | record => exact eventsOf_append_of_ne s hij _
    | _ => rfl
  have hcarries {issued : CertificateRecord} {v : ℕ} (hv : pcj.storePc.version = some v)
      (hspares : ∀ k, k ≠ j → (start k).Spares issued.id)
      (h : s.store.CarriesFrom start v issued) : s'.store.CarriesFrom start v issued := by
    rcases hstep.store_cases with hsame | ⟨storeAction, hstore⟩
    · rwa [hsame]
    · refine h.step hs (hpcj.store.version_lt hv) (fun call hcall => ?_)
        (fun call now reason hcall hrevoke => ⟨i, hpc.origin.revokes hcall hrevoke⟩) hstore
      exact hpc.origin.spares (hspares i (Ne.symm hij)) hcall
  refine ⟨?_, ?_, hpcj.origin, ?_⟩
  · rcases hstep.store_cases with hsame | ⟨storeAction, hstore⟩
    · rw [hsame]
      exact hpcj.store
    · exact storeStep_other hij hpc.store hpcj.store hstore
  · have hrecorded := hpcj.recorded
    cases pcj with
    | answered call result version =>
      rw [IssuePc.Recorded, hevents]
      exact hrecorded
    | _ => exact hevents.trans hrecorded
  · have hkept := hpcj.kept
    cases pcj with
    | storing call certificatePem record storePc =>
      exact fun v hv hspares => hcarries hv hspares (hkept v hv hspares)
    | answered call result version =>
      cases result with
      | error error => trivial
      | ok value =>
        obtain ⟨certificatePem, record, v, hprepare, hvalue, hversion, hcarried⟩ := hkept
        exact ⟨certificatePem, record, v, hprepare, hvalue, hversion, fun hspares =>
          hcarries hversion hspares (hcarried hspares)⟩
    | _ => trivial

/-- **Every step keeps the invariant.** -/
theorem issuanceInvariant_step (c : Threads ι (IssuanceShared ι) IssuePc) (a : ι × IssueAction)
    (c' : Threads ι (IssuanceShared ι) IssuePc)
    (hc : c.Holds (fun s => s.store.Consistent) fun i s pc => pc.Assertion policy start i s)
    (hstep : (concurrentIssuance policy).step c a c') :
    c'.Holds (fun s => s.store.Consistent) fun i s pc => pc.Assertion policy start i s := by
  refine interleave_holds ?_ ?_ c a c' hc hstep
  · intro i s pc action s' pc' hs hpc h
    exact issueStep_own hs hpc h
  · intro i j s pc pcj action s' pc' hij hs hpc hpcj h
    exact issueStep_other hij hs hpc hpcj h

/-! ### Runs -/

/-- The threads before their first step, on a store that was opened with `records`. -/
structure IssuanceStart (records : Records) (c : Threads ι (IssuanceShared ι) IssuePc) : Prop where
  records_eq : c.shared.store.records = records
  versions_eq : c.shared.store.versions = [records]
  readers_eq : c.shared.store.readers = ∅
  placed_eq : c.shared.store.placed = []
  author_eq : c.shared.store.author = none
  trail_eq : c.shared.trail = []
  called : ∀ i, (∃ call, c.locals i = .called call) ∨ ∃ call, c.locals i = .other (.called call)

/-- The threads could be calls of the store. -/
theorem IssuanceStart.holds {records : Records} {c : Threads ι (IssuanceShared ι) IssuePc}
    (h : IssuanceStart records c) : c.Holds (fun s => s.store.Consistent) fun i s pc =>
      pc.Assertion policy c.locals i s := by
  have hstart : StoreStart records
      (⟨c.shared.store, fun _ => .called (.remove 0)⟩ : Threads ι (SharedStore ι) StorePc) :=
    ⟨h.records_eq, h.versions_eq, h.readers_eq, h.placed_eq, h.author_eq, fun _ => ⟨_, rfl⟩⟩
  obtain ⟨hconsistent, hcalled⟩ := hstart.holds
  have hevents (i : ι) : c.shared.eventsOf i = [] := by
    rw [IssuanceShared.eventsOf, h.trail_eq]
    rfl
  refine ⟨hconsistent, fun i => ?_⟩
  rcases h.called i with ⟨call, hcall⟩ | ⟨call, hcall⟩
  · rw [hcall]
    exact ⟨hcalled i, hevents i, hcall, trivial⟩
  · rw [hcall]
    refine ⟨hcalled i, hevents i, ⟨call, hcall, fun call' hcall' => ?_⟩, trivial⟩
    exact (StorePc.called.inj hcall').symm

/-- The record that an issuance stores, of the certificate that was delivered. -/
def IssueCall.issuedRecord (call : IssueCall) (certificate : Certificate)
    (parsed : X509Certificate) : CertificateRecord :=
  HttpApi.issuedRecord call.request call.env.recordId call.env.issuedAt (serialText parsed.serial)
    certificate.pem parsed.notAfter

/-- **What the trail and the file say about concurrent issuances.** In every interleaving of any
number of issuances and calls of the store by other requests: every event of the trail was recorded
by an issuance that has been answered; an answered issuance has recorded exactly one event, which is
truthful, unless it was answered with an error of the store and recorded none; and once it was
answered with success, when no other thread was called to enter or to remove its certificate, the
file of the store and the map have the record of the certificate that the issuer delivered, as it
was issued or as one of the threads has revoked it. -/
theorem recorded_of_interleaving {records : Records}
    {c c' : Threads ι (IssuanceShared ι) IssuePc} (hstart : IssuanceStart records c)
    (run : (concurrentIssuance policy).Run c c') :
    (∀ entry ∈ c'.shared.trail, ∃ call result version,
      c'.locals entry.1 = .answered call result version) ∧
    ∀ i call result version, c'.locals i = .answered call result version →
      call.Told (c'.shared.eventsOf i) result ∧
      ∀ response audit, result = .ok (response, audit) →
        (∀ j, j ≠ i → (c.locals j).Spares call.env.recordId) →
        ∃ certificate parsed onDisk,
          IssuanceService.Delivers policy call.principal call.request call.env.issuer certificate ∧
          call.env.parse certificate.der = .ok parsed ∧
          response.certificatePem = certificate.pem ∧
          StoreFile.read (c'.shared.store.file.map fun p => p.contents) = .ok onDisk ∧
          onDisk.Carries c.locals (call.issuedRecord certificate parsed) ∧
          c'.shared.store.records.Carries c.locals (call.issuedRecord certificate parsed) := by
  obtain ⟨hs, hpc⟩ := run.invariant issuanceInvariant_step hstart.holds
  refine ⟨fun entry hentry => ?_, fun i call result version hi => ?_⟩
  · have hevent : entry.2 ∈ c'.shared.eventsOf entry.1 :=
      List.mem_map_of_mem (List.mem_filter.mpr ⟨hentry, by simp⟩)
    have hrecorded := (hpc entry.1).recorded
    cases hlocal : c'.locals entry.1 with
    | answered call result version => exact ⟨call, result, version, rfl⟩
    | _ =>
      rw [hlocal] at hrecorded
      rw [IssuePc.Recorded.eq_def] at hrecorded
      simp only [hrecorded, List.not_mem_nil] at hevent
  · have hassertion := hpc i
    rw [hi] at hassertion
    obtain ⟨hstore, htold, -, hkept⟩ := hassertion
    refine ⟨htold, ?_⟩
    rintro response audit rfl hspares
    obtain ⟨certificatePem, record, v, hprepare, hvalue, rfl, hcarried⟩ := hkept
    obtain ⟨certificate, parsed, hdelivers, hparse, rfl, hrecord⟩ :=
      IssuanceService.delivers_of_prepare hprepare
    have hcarries : c'.shared.store.CarriesFrom c.locals v record := by
      refine hcarried fun j hj => ?_
      rw [IssuanceService.id_of_prepare hprepare]
      exact hspares j hj
    obtain rfl : record = call.issuedRecord certificate parsed := hrecord
    obtain ⟨p, onDisk, hfile, hcontents, hversion, hle⟩ := hs.file_of_placed hstore.2.2
    refine ⟨certificate, parsed, onDisk, hdelivers, hparse, ?_, ?_, hcarries _ _ hle hversion, ?_⟩
    · exact (congrArg (fun value => value.1.certificatePem) (Except.ok.inj hvalue)).symm
    · rw [hfile, Option.map_some, hcontents]
      rfl
    · have hlast : c'.shared.store.versions[c'.shared.store.versions.length - 1]? =
          some c'.shared.store.records := by
        rw [← List.getLast?_eq_getElem?, hs.newest]
      exact hcarries _ _ (Nat.le_sub_one_of_lt hstore.2.1.1) hlast

/-- An issuance of a request that passes all checks, of the certificate with the identifier. -/
def sampleCall (id : Uuid) : IssueCall :=
  ⟨IssuanceService.samplePrincipal, IssuanceService.sampleRequest,
    { IssuanceService.sampleEnvironment none with recordId := id }⟩

/-- Two issuances before their first steps. -/
def twoIssuances : Threads Bool (IssuanceShared Bool) IssuePc :=
  .pair ⟨⟨∅, ∅, none, none, [∅], none, []⟩, []⟩ (.called (sampleCall 1)) (.called (sampleCall 2))

/-- The second issuance is answered while the first has stored its record and not told it yet. -/
theorem recorded_of_interleaving_twoIssuances :
    ∃ c, Nonempty ((concurrentIssuance .default).Run twoIssuances c) ∧
      ∃ onDisk record, StoreFile.read (c.shared.store.file.map fun p => p.contents) = .ok onDisk ∧
        onDisk.lookup 1 = some record := by
  have hstart : IssuanceStart ∅ twoIssuances :=
    ⟨rfl, rfl, rfl, rfl, rfl, rfl, Bool.rec (Or.inl ⟨_, rfl⟩) (Or.inl ⟨_, rfl⟩)⟩
  have hprepare : (concurrentIssuance .default).step twoIssuances (false, .prepare) _ :=
    interleave_first (.prepare rfl)
  have prepared := (LTS.Run.nil.snoc _ hprepare).snoc (true, .prepare)
    (interleave_second (.prepare rfl))
  have changed := ((prepared.snoc _ (interleave_first (.store (.change rfl rfl)))).snoc _
    (interleave_second (.store (.change rfl rfl)))).snoc _ (interleave_first (.store .lock))
  have placed := (((changed.snoc _ (interleave_first (.store .serialize))).snoc _
    (interleave_second (.store .lock))).snoc _ (interleave_first (.store .write))).snoc _
    (interleave_first (.store (.rename rfl)))
  have placed' := ((placed.snoc _ (interleave_second (.store .serialize))).snoc _
    (interleave_second (.store .write))).snoc _ (interleave_second (.store (.rename rfl)))
  have stored := (placed'.snoc _ (interleave_first (.store .unlock))).snoc _
    (interleave_second (.store .unlock))
  have run := (stored.snoc _ (interleave_second .record)).snoc _ (interleave_first .record)
  have hspares : ∀ j, j ≠ false → (twoIssuances.locals j).Spares (sampleCall 1).env.recordId := by
    rintro (_ | _) hj
    · exact absurd rfl hj
    · change (2 : Uuid) ≠ 1
      decide
  obtain ⟨certificate, parsed, onDisk, -, -, -, hread, ⟨record, hrecord, -⟩, -⟩ :=
    ((recorded_of_interleaving hstart run).2 false _ _ _ rfl).2 _ _ rfl hspares
  exact ⟨_, ⟨run⟩, onDisk, record, hread, hrecord⟩

end DaemonPki
