import DaemonPki.Api.ConcurrentStore

/-!
# Calls of the certificate store under faults

Sequential runs of `insert`, `revoke` and `remove` in which the file may fail to be written
(`daemon-pki-api/src/certificates.rs`). A call changes the map first and writes the file second,
and when the second fails it returns the error and leaves the map changed. From then on the file
lags behind the map until some call writes it again. The calls disagree on when to write:
`insert` and `revoke` write whenever they return `Ok` for a record, a revoked record included;
`remove` of a record that is gone from the map returns `Ok(None)` and does not.

## Main definitions

* `DaemonPki.CertificateStore.openFile`, `DaemonPki.CertificateStore.call`,
  `DaemonPki.storeSystem`.
* `DaemonPki.CertificateStore.AtomicOnError`, `DaemonPki.StoreCall.Redundant`.
* `DaemonPki.CertificateStore.Synced`: the file reads as the map.

## Main results

* `DaemonPki.CertificateStore.atomicOnError_iff`: which failed calls leave the map as it was.
* `DaemonPki.CertificateStore.synced_iff_of_run`: when every call that returns `Ok` leaves the
  file and the map equal.
-/

namespace DaemonPki

open Foundation

namespace CertificateStore

/-- Source: `certificates.rs`, lines 80–101. -/
def openFile (file : Option StoreFile) : Except CertificateStoreError CertificateStore :=
  (StoreFile.read file).map fun records => ⟨records, file⟩

/-- Whether a call succeeds, and the store that it leaves behind. -/
def call (store : CertificateStore) (fault : Option PersistFault) :
    StoreCall → Except CertificateStoreError Unit × CertificateStore
  | .insert record => ((store.insert record fault).1.map fun _ => (), (store.insert record fault).2)
  | .revoke now id reason =>
      ((store.revoke now id reason fault).1.map fun _ => (), (store.revoke now id reason fault).2)
  | .remove id => ((store.remove id fault).1.map fun _ => (), (store.remove id fault).2)

end CertificateStore

/-- The store under calls and faults. -/
def storeSystem : LTS CertificateStore (StoreCall × Option PersistFault) :=
  .ofFun fun store a => (store.call a.2 a.1).2

namespace CertificateStore

variable {store : CertificateStore} {call : StoreCall} {records changed : Records}

/-! ### What a call does -/

/-- A call that finds no record returns `Ok` and does nothing. -/
theorem call_of_change_eq_none (h : call.change store.records = none)
    (fault : Option PersistFault) : store.call fault call = (.ok (), store) := by
  cases call with
  | insert record => cases h
  | revoke now id reason =>
    rw [StoreCall.change, Option.map_eq_none_iff] at h
    simp only [CertificateStore.call, revoke, h]
    rfl
  | remove id =>
    rw [StoreCall.change, Option.map_eq_none_iff] at h
    simp only [CertificateStore.call, remove, h]
    rfl

/-- A call that changes the map leaves it changed, and its result is that of writing the file. -/
theorem call_of_change_eq_some (h : call.change store.records = some changed)
    (fault : Option PersistFault) :
    store.call fault call = persist { store with records := changed } fault := by
  cases call with
  | insert record =>
    cases h
    rcases persist_cases { store with records := store.records.insertRecord record } fault with
      hp | ⟨e, hp⟩ <;> simp only [CertificateStore.call, insert, hp] <;> rfl
  | revoke now id reason =>
    obtain ⟨⟨updated, records⟩, hrevoke, rfl⟩ := Option.map_eq_some_iff.mp h
    rcases persist_cases { store with records := records } fault with hp | ⟨e, hp⟩ <;>
      simp only [CertificateStore.call, revoke, hrevoke, hp] <;> rfl
  | remove id =>
    obtain ⟨⟨removed, records⟩, hremove, rfl⟩ := Option.map_eq_some_iff.mp h
    rcases persist_cases { store with records := records } fault with hp | ⟨e, hp⟩ <;>
      simp only [CertificateStore.call, remove, hremove, hp] <;> rfl

/-- Writing the file under a fault returns an error and changes nothing. -/
theorem persist_of_fault (store : CertificateStore) (fault : PersistFault) :
    ∃ e, store.persist (some fault) = (.error e, store) := by
  cases fault <;> exact ⟨_, rfl⟩

end CertificateStore

/-! ### Failed calls -/

/-- The call writes what the map has already: a record that is there, or the revocation of a
record that is revoked. -/
def StoreCall.Redundant (records : Records) : StoreCall → Prop
  | .insert record => records.lookup record.id = some record
  | .revoke _ id _ => ∃ record, records.lookup id = some record ∧ record.revoked = true
  | .remove _ => False

theorem StoreCall.change_eq_self_iff {call : StoreCall} {records changed : Records}
    (h : call.change records = some changed) : changed = records ↔ call.Redundant records := by
  cases call with
  | insert record =>
    cases h
    refine ⟨fun heq => ?_, fun hrecord => HashMap.insert_lookup_self hrecord⟩
    rw [Redundant, ← heq]
    exact Finmap.lookup_insert _
  | revoke now id reason =>
    obtain ⟨⟨updated, records'⟩, hrevoke, rfl⟩ := Option.map_eq_some_iff.mp h
    obtain ⟨record, hrecord, rfl, rfl⟩ := Records.revokeRecord_eq_some hrevoke
    constructor
    · intro heq
      have hlookup : records.lookup id = some (Records.markRevoked now reason record) := by
        conv_lhs => rw [← heq]
        exact Finmap.lookup_insert _
      exact ⟨_, hlookup, Records.revoked_markRevoked now reason record⟩
    · rintro ⟨record', hrecord', hrevoked⟩
      obtain rfl : record = record' := Option.some.inj (hrecord.symm.trans hrecord')
      have hsame : Records.markRevoked now reason record = record := by
        rw [Records.markRevoked, hrevoked]
        rfl
      rw [hsame]
      exact HashMap.insert_lookup_self hrecord
  | remove id =>
    obtain ⟨⟨removed, records'⟩, hremove, rfl⟩ := Option.map_eq_some_iff.mp h
    rw [Records.removeRecord] at hremove
    cases hrecord : records.lookup id with
    | none =>
      rw [hrecord] at hremove
      cases hremove
    | some record =>
      rw [hrecord] at hremove
      cases hremove
      refine iff_of_false (fun heq => ?_) fun hfalse => hfalse
      have hlookup : (records.erase id).lookup id = none := Finmap.lookup_erase _ _
      rw [show records.erase id = records from heq, hrecord] at hlookup
      cases hlookup

namespace CertificateStore

/-- When its file cannot be written, the call returns an error and the map is as before. -/
def AtomicOnError (store : CertificateStore) (call : StoreCall) (fault : PersistFault) : Prop :=
  (call.change store.records).isSome = true →
    (∃ e, (store.call (some fault) call).1 = .error e) ∧
      (store.call (some fault) call).2.records = store.records

/-- **Which failed calls leave the map as it was**: those that write what it has already. The
call returns the error in any case, and the file is as before. -/
theorem atomicOnError_iff (store : CertificateStore) (call : StoreCall) (fault : PersistFault) :
    (store.AtomicOnError call fault ↔
        ((call.change store.records).isSome = true → call.Redundant store.records)) ∧
      ((call.change store.records).isSome = true →
        ∃ e, (store.call (some fault) call).1 = .error e) ∧
      (store.call (some fault) call).2.file = store.file := by
  cases hchange : call.change store.records with
  | none =>
    refine ⟨iff_of_true (fun h => ?_) (fun h => ?_), fun h => ?_, ?_⟩
    · rw [hchange] at h
      cases h
    · cases h
    · cases h
    · rw [call_of_change_eq_none hchange]
  | some changed =>
    obtain ⟨e, he⟩ := persist_of_fault { store with records := changed } fault
    rw [AtomicOnError, hchange, call_of_change_eq_some hchange, he]
    simp only [Option.isSome_some, true_implies, Except.error.injEq, exists_eq', true_and]
    exact ⟨StoreCall.change_eq_self_iff hchange, trivial⟩

/-- An insertion that fails at the renaming stays in the map. -/
theorem not_atomicOnError_rename :
    ¬(CertificateStore.mk ∅ none).AtomicOnError
        (.insert (.new 1 0 "0a" "workload" [] [] true false "" "" none)) .rename ∧
      (((CertificateStore.mk ∅ none).insert (.new 1 0 "0a" "workload" [] [] true false "" "" none)
        (some .rename)).2.get 1).isSome = true := by
  refine ⟨fun h => ?_, rfl⟩
  obtain ⟨-, hsame⟩ := h rfl
  revert hsame
  decide

/-! ### Calls that return `Ok` -/

/-- The file reads as the map. -/
def Synced (store : CertificateStore) : Prop := StoreFile.read store.file = .ok store.records

theorem synced_openFile {file : Option StoreFile} (h : openFile file = .ok store) :
    store.Synced := by
  rw [openFile] at h
  cases hread : StoreFile.read file with
  | error e =>
    rw [hread] at h
    cases h
  | ok records =>
    rw [hread] at h
    cases h
    exact hread

/-- A call that returns `Ok` leaves the file and the map equal, unless it found no record and
they were not equal before. -/
theorem synced_call_iff (store : CertificateStore) (call : StoreCall)
    (fault : Option PersistFault) :
    ((store.call fault call).1 = .ok () → (store.call fault call).2.Synced) ↔
      (call.change store.records = none → store.Synced) := by
  cases hchange : call.change store.records with
  | none => simp only [call_of_change_eq_none hchange, true_implies]
  | some changed =>
    rw [call_of_change_eq_some hchange]
    refine iff_of_true (fun hok => ?_) fun h => ?_
    · rcases persist_cases { store with records := changed } fault with hp | ⟨e, hp⟩
      · rw [hp]
        rfl
      · rw [hp] at hok
        cases hok
    · cases h

/-- **When disk and memory are equal after every success.** In a run from a store that was
opened, every call that returns `Ok` leaves a file that reads as the map, exactly when no call
that finds no record is made while the file lags behind. -/
theorem synced_iff_of_run {file : Option StoreFile} {opened : CertificateStore}
    (hopen : openFile file = .ok opened) (run : storeSystem.Run opened store) :
    (opened.Synced ∧ run.AllSteps fun u a => (u.call a.2 a.1).1 = .ok () →
        (u.call a.2 a.1).2.Synced) ↔
      run.AllSteps fun u a => a.1.change u.records = none → u.Synced := by
  rw [and_iff_right (synced_openFile hopen)]
  constructor
  · intro h
    refine h.mono ?_
    intro u a
    exact (synced_call_iff u a.1 a.2).mp
  · intro h
    refine h.mono ?_
    intro u a
    exact (synced_call_iff u a.1 a.2).mpr

/-- A record is inserted; its removal fails at the renaming, and is tried again. -/
def retriedRemoval : storeSystem.Run ⟨∅, none⟩
    (((CertificateStore.mk ∅ none).call none
      (.insert (.new 1 0 "0a" "workload" [] [] true false "" "" none))).2.call
        (some .rename) (.remove 1)).2 :=
  .snoc (.snoc .nil (.insert (.new 1 0 "0a" "workload" [] [] true false "" "" none), none) rfl)
    (.remove 1, some .rename) rfl

/-- Both calls found a record, so what they report is what the file holds. -/
theorem synced_iff_of_run_retriedRemoval : retriedRemoval.AllSteps fun u a =>
    (u.call a.2 a.1).1 = .ok () → (u.call a.2 a.1).2.Synced := by
  have hopen : openFile none = .ok ⟨∅, none⟩ := rfl
  refine ((synced_iff_of_run hopen retriedRemoval).mpr ⟨⟨trivial, fun h => ?_⟩, fun h => ?_⟩).2
  · cases h
  · exact absurd h (by decide)

/-- The second removal finds no record: it returns `Ok` and leaves the record on disk. -/
theorem not_synced_retriedRemoval :
    ¬(retriedRemoval.snoc (.remove 1, none) rfl).AllSteps fun u a =>
        (u.call a.2 a.1).1 = .ok () → (u.call a.2 a.1).2.Synced := by
  intro h
  have hsynced := h.2 rfl
  rw [Synced] at hsynced
  revert hsynced
  decide

end CertificateStore

end DaemonPki
