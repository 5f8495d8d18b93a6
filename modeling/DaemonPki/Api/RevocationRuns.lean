import DaemonPki.Api.StoreRuns

/-!
# Revocations over restarts

Sequential runs of `insert` and `revoke` in which the file may fail to be written, and in which
the process may end and open its store again (`daemon-pki-api/src/certificates.rs`). A call that
fails leaves the map ahead of the file, and a restart throws away what the file does not have. A
call that returns `Ok` has written the whole map, so what it acknowledged is in both, and no later
call of these two takes it out of either.

## Main definitions

* `DaemonPki.CertificateRecord.Built`, `DaemonPki.CertificateRecord.Coherent`.
* `DaemonPki.StoreEvent`, `DaemonPki.durableSystem`: calls and restarts.
* `DaemonPki.CertificateStore.Durably`: a property of the map and of what the file reads as.

## Main results

* `DaemonPki.CertificateStore.durably_step`: what every change keeps, every step keeps in the map
  and in the file.
* `DaemonPki.CertificateStore.revoked_of_run`: an acknowledged revocation is final.
-/

namespace DaemonPki

open Foundation

/-! ### The records of the store -/

/-- Some call of `new` returns the record. -/
def CertificateRecord.Built (record : CertificateRecord) : Prop :=
  ∃ id now serialNumber commonName dnsNames ipAddresses clientAuth serverAuth issuer
    certificatePem notAfter, record = .new id now serialNumber commonName dnsNames ipAddresses
      clientAuth serverAuth issuer certificatePem notAfter

/-- A record is revoked exactly when it has a time of revocation, and exactly when it has a
reason. -/
structure CertificateRecord.Coherent (record : CertificateRecord) : Prop where
  revokedAt : record.revoked = true ↔ record.revokedAt.isSome = true
  revocationReason : record.revoked = true ↔ record.revocationReason.isSome = true

theorem CertificateRecord.Built.coherent {record : CertificateRecord} (h : record.Built) :
    record.Coherent := by
  obtain ⟨id, now, serialNumber, commonName, dnsNames, ipAddresses, clientAuth, serverAuth,
    issuer, certificatePem, notAfter, rfl⟩ := h
  exact ⟨Iff.rfl, Iff.rfl⟩

namespace Records

/-- Every record of the map is coherent. -/
def Coherent (records : Records) : Prop :=
  ∀ id record, records.lookup id = some record → record.Coherent

/-- A revocation that the map has. -/
def HasRevoked (id : Uuid) (record : CertificateRecord) (records : Records) : Prop :=
  records.lookup id = some record ∧ record.revoked = true

theorem markRevoked_of_revoked {record : CertificateRecord} (h : record.revoked = true)
    (now : OffsetDateTime) (reason : String) : markRevoked now reason record = record := by
  rw [markRevoked, h]
  rfl

theorem coherent_markRevoked {record : CertificateRecord} (h : record.Coherent)
    (now : OffsetDateTime) (reason : String) : (markRevoked now reason record).Coherent := by
  rw [markRevoked]
  split_ifs
  · exact ⟨Iff.rfl, Iff.rfl⟩
  · exact h

end Records

/-! ### Calls and restarts -/

/-- The insertion of a new record with an identifier that no record of the store has, and any
revocation. -/
def StoreCall.Admissible (records : Records) : StoreCall → Prop
  | .insert record => record.Built ∧ records.lookup record.id = none
  | .revoke _ _ _ => True
  | .remove _ => False

/-- A call under a fault, or a restart of the process, which opens the file again. -/
inductive StoreEvent
  | call (call : StoreCall) (fault : Option PersistFault)
  | reopen

/-- The store under calls and restarts. -/
def durableSystem : LTS CertificateStore StoreEvent where
  step store event store' :=
    match event with
    | .call call fault => call.Admissible store.records ∧ store' = (store.call fault call).2
    | .reopen => CertificateStore.openFile store.file = .ok store'

namespace Records

variable {records changed : Records} {call : StoreCall}

/-- What a call does to the map: it enters a new record, or it marks a record as revoked. -/
theorem change_cases (hcall : call.Admissible records)
    (hchange : call.change records = some changed) :
    (∃ record : CertificateRecord, record.Built ∧ records.lookup record.id = none ∧
        changed = records.insert record.id record) ∨
      ∃ id now reason record, records.lookup id = some record ∧
        changed = records.insert id (markRevoked now reason record) := by
  cases call with
  | insert record =>
    cases hchange
    exact Or.inl ⟨record, hcall.1, hcall.2, rfl⟩
  | revoke now id reason =>
    obtain ⟨⟨updated, records'⟩, hrevoke, rfl⟩ := Option.map_eq_some_iff.mp hchange
    obtain ⟨record, hrecord, rfl, rfl⟩ := revokeRecord_eq_some hrevoke
    exact Or.inr ⟨id, now, reason, record, hrecord, rfl⟩
  | remove id => exact hcall.elim

theorem coherent_change (hcall : call.Admissible records)
    (hchange : call.change records = some changed) (h : records.Coherent) : changed.Coherent := by
  intro k other hother
  rcases change_cases hcall hchange with ⟨record, hbuilt, -, rfl⟩ |
    ⟨id, now, reason, record, hrecord, rfl⟩
  all_goals
    rw [HashMap.lookup_insert_eq_ite] at hother
    split_ifs at hother
  · obtain rfl := Option.some.inj hother
    exact hbuilt.coherent
  · exact h k other hother
  · obtain rfl := Option.some.inj hother
    exact coherent_markRevoked (h id record hrecord) now reason
  · exact h k other hother

/-- Neither a new record nor another revocation changes a record that is revoked. -/
theorem hasRevoked_change {k : Uuid} {revoked : CertificateRecord}
    (hcall : call.Admissible records) (hchange : call.change records = some changed)
    (h : records.HasRevoked k revoked) : changed.HasRevoked k revoked := by
  obtain ⟨hlookup, hrevoked⟩ := h
  refine ⟨?_, hrevoked⟩
  rcases change_cases hcall hchange with ⟨record, -, hfresh, rfl⟩ |
    ⟨id, now, reason, record, hrecord, rfl⟩
  · have hne : k ≠ record.id := fun e => by rw [e, hfresh] at hlookup; cases hlookup
    exact (Finmap.lookup_insert_of_ne records hne).trans hlookup
  · rw [HashMap.lookup_insert_eq_ite]
    split_ifs with hk
    · subst hk
      obtain rfl : record = revoked := Option.some.inj (hrecord.symm.trans hlookup)
      rw [markRevoked_of_revoked hrevoked]
    · exact hlookup

end Records

namespace CertificateStore

variable {store store' : CertificateStore} {P : Records → Prop}

/-! ### The map and the file -/

/-- The map has a property, and so has what the file reads as. -/
def Durably (P : Records → Prop) (store : CertificateStore) : Prop :=
  P store.records ∧ ∃ onDisk, StoreFile.read store.file = .ok onDisk ∧ P onDisk

/-- A store that was opened is the map that its file reads as. -/
theorem openFile_eq_ok {file : Option StoreFile} (h : openFile file = .ok store) :
    store.file = file ∧ StoreFile.read file = .ok store.records := by
  rw [openFile] at h
  cases hfile : StoreFile.read file with
  | error e =>
    rw [hfile] at h
    cases h
  | ok records =>
    rw [hfile] at h
    cases h
    exact ⟨rfl, rfl⟩

theorem durably_openFile {file : Option StoreFile} (h : openFile file = .ok store)
    (hP : P store.records) : store.Durably P := by
  obtain ⟨hfile, hread⟩ := openFile_eq_ok h
  exact ⟨hP, store.records, hfile ▸ hread, hP⟩

/-- **What every change keeps, every step keeps in the map and in the file.** -/
theorem durably_step
    (hP : ∀ call records changed, StoreCall.Admissible records call →
      StoreCall.change records call = some changed → P records → P changed)
    {event : StoreEvent} (hstep : durableSystem.step store event store')
    (h : store.Durably P) : store'.Durably P := by
  obtain ⟨hmemory, onDisk, hread, hdisk⟩ := h
  cases event with
  | call call fault =>
    obtain ⟨hcall, rfl⟩ := hstep
    cases hchange : call.change store.records with
    | none =>
      rw [call_of_change_eq_none hchange]
      exact ⟨hmemory, onDisk, hread, hdisk⟩
    | some changed =>
      have hchanged := hP call store.records changed hcall hchange hmemory
      rw [call_of_change_eq_some hchange]
      rcases persist_cases { store with records := changed } fault with hp | ⟨e, hp⟩ <;> rw [hp]
      · exact ⟨hchanged, changed, rfl, hchanged⟩
      · exact ⟨hchanged, onDisk, hread, hdisk⟩
  | reopen =>
    obtain ⟨hfile, hrecords⟩ := openFile_eq_ok hstep
    obtain rfl : onDisk = store'.records := Except.ok.inj (hread.symm.trans hrecords)
    exact ⟨hdisk, store'.records, hfile ▸ hread, hdisk⟩

/-! ### Acknowledged revocations -/

/-- The store answers with a revoked record: `get` returns it, and so does every call of `revoke`
that returns `Ok`, whatever the reason. -/
def Final (id : Uuid) (record : CertificateRecord) (store : CertificateStore) : Prop :=
  store.get id = some record ∧ record.revoked = true ∧
    ∀ now reason fault result store',
      store.revoke now id reason fault = (.ok result, store') → result = some record

theorem final_of_hasRevoked {id : Uuid} {record : CertificateRecord}
    (h : store.records.HasRevoked id record) : store.Final id record := by
  obtain ⟨hlookup, hrevoked⟩ := h
  refine ⟨hlookup, hrevoked, ?_⟩
  intro now reason fault result store' hrevoke
  simp only [revoke, Records.revokeRecord, hlookup,
    Records.markRevoked_of_revoked hrevoked] at hrevoke
  rcases persist_cases { store with records := store.records.insert id record } fault with
    hp | ⟨e, hp⟩ <;> rw [hp] at hrevoke <;> cases hrevoke
  rfl

/-- A revocation that returns a record has it in the map and in the file. -/
theorem durably_of_revoke {now : OffsetDateTime} {id : Uuid} {reason : String}
    {fault : Option PersistFault} {record : CertificateRecord}
    (h : store.revoke now id reason fault = (.ok (some record), store')) :
    store'.Durably (Records.HasRevoked id record) := by
  obtain ⟨old, -, rfl, hrecords, hfile⟩ := revoke_eq_ok_some h
  have hhas : store'.records.HasRevoked id (Records.markRevoked now reason old) := by
    rw [hrecords]
    exact ⟨Finmap.lookup_insert _, Records.revoked_markRevoked now reason old⟩
  exact ⟨hhas, store'.records, hfile ▸ rfl, hhas⟩

/-- **An acknowledged revocation is final.** In a run from a store that was opened with coherent
records, every record stays coherent; and once a revocation has returned a record, the store
answers with this record for the rest of the run, restarts included. -/
theorem revoked_of_run {file : Option StoreFile} {opened : CertificateStore}
    (hopen : openFile file = .ok opened) (hcoherent : opened.records.Coherent)
    (run : durableSystem.Run opened store) :
    (run.AllStates fun reached => reached.records.Coherent) ∧
      ∀ now id reason fault record acknowledged,
        store.revoke now id reason fault = (.ok (some record), acknowledged) →
          ∀ last, ∀ rest : durableSystem.Run acknowledged last,
            rest.AllStates (Final id record) := by
  constructor
  · have hall : run.AllStates (Durably Records.Coherent) :=
      LTS.Run.allStates (fun u a v hu hstep => durably_step
        (fun _ _ _ => Records.coherent_change) hstep hu) (durably_openFile hopen hcoherent) run
    exact hall.mono fun reached h => h.1
  · intro now id reason fault record acknowledged hrevoke last rest
    have hall : rest.AllStates (Durably (Records.HasRevoked id record)) :=
      LTS.Run.allStates (fun u a v hu hstep => durably_step
        (fun _ _ _ => Records.hasRevoked_change) hstep hu) (durably_of_revoke hrevoke) rest
    exact hall.mono fun reached h => final_of_hasRevoked h.1

/-- A store with one new record. -/
def oneRecord : CertificateStore :=
  ((CertificateStore.mk ∅ none).insert (.new 1 0 "0a" "workload" [] [] true false "" "" none)
    none).2

def oneRecordRun : durableSystem.Run ⟨∅, none⟩ oneRecord :=
  .snoc .nil (.call (.insert (.new 1 0 "0a" "workload" [] [] true false "" "" none)) none)
    ⟨⟨⟨1, 0, "0a", "workload", [], [], true, false, "", "", none, rfl⟩, Finmap.lookup_empty _⟩,
      rfl⟩

/-- After an acknowledged revocation, another one fails at the renaming and the store is opened
again. -/
def revokedAndRestarted : durableSystem.Run (oneRecord.revoke 5 1 "superseded" none).2
    (oneRecord.revoke 5 1 "superseded" none).2 :=
  .snoc (.snoc .nil (.call (.revoke 9 1 "unspecified") (some .rename)) ⟨trivial, rfl⟩) .reopen rfl

theorem revoked_of_run_restarted : ∃ record : CertificateRecord,
    record.revokedAt = some 5 ∧ record.revocationReason = some "superseded" ∧
      revokedAndRestarted.AllStates (Final 1 record) := by
  have hopen : openFile none = .ok ⟨∅, none⟩ := rfl
  have hcoherent : Records.Coherent ∅ := fun id record h => by
    rw [Finmap.lookup_empty] at h
    cases h
  have hfinal := (revoked_of_run hopen hcoherent oneRecordRun).2 5 1 "superseded" none _ _ rfl
  exact ⟨_, rfl, rfl, hfinal _ revokedAndRestarted⟩

end CertificateStore

end DaemonPki
