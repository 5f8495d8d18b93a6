import DaemonPki.Api.ConcurrentPersist
import DaemonPki.Api.RevocationRuns
import DaemonPki.Foundation.Simulation

/-!
# Processes that end in the middle of a call

The calls `insert`, `revoke` and `remove` of one process, one after the other, in the single
operations of `persist` (`daemon-pki-api/src/certificates.rs`, lines 234–257): the temporary file
is opened, which empties it, filled piece by piece, and renamed. Every operation may fail, the
process may be killed between any two of them, and it may be started again, on the files as they
were left. A killed call has been done as a whole or not at all, whatever was left in the temporary
file, so that the store is one whose calls are atomic.

Killed is the process, not the machine: what was written to a file is there afterwards.

## Main definitions

* `DaemonPki.StoreAnswer`, `DaemonPki.CertificateStore.answer`: the calls with what they return.
* `DaemonPki.StoreProcess`, `DaemonPki.MachineStep`, `DaemonPki.storeMachine`: the operations.
* `DaemonPki.AtomicStep`, `DaemonPki.atomicStore`: the calls, each in one step.
* `DaemonPki.StoreMachine.Sound`, `DaemonPki.Explains`: the invariant, and how the two are related.

## Main results

* `DaemonPki.simulates_atomicStore`: the operations show what the calls show.
* `DaemonPki.atomic_of_killed_run`: so do their runs, and the file of the store always reads back.
* `DaemonPki.kept_of_killed_run`: what was acknowledged about a record is never lost.
-/

namespace DaemonPki

open Foundation

/-! ### What the calls return -/

/-- What a call returns when nothing fails. -/
inductive StoreAnswer
  | inserted (id : Uuid)
  | revoked (record : Option CertificateRecord)
  | removed (record : Option CertificateRecord)
  deriving DecidableEq, Repr

/-- The answer of a call to the map before its change. Source: `certificates.rs`, lines 111, 160–178
and 205–212. -/
def StoreCall.answer (records : Records) : StoreCall → StoreAnswer
  | .insert record => .inserted record.id
  | .revoke now id reason => .revoked ((records.revokeRecord now id reason).map Prod.fst)
  | .remove id => .removed ((records.removeRecord id).map Prod.fst)

/-- The identifier that the call is about. -/
def StoreCall.id : StoreCall → Uuid
  | .insert record => record.id
  | .revoke _ id _ => id
  | .remove id => id

/-- The call has found a record, or entered one. -/
def StoreAnswer.found : StoreAnswer → Bool
  | .inserted _ => true
  | .revoked record => record.isSome
  | .removed record => record.isSome

/-- The record that the store has after the call and its answer. -/
def StoreCall.left : StoreCall → StoreAnswer → Option CertificateRecord
  | .insert record, _ => some record
  | .revoke _ _ _, .revoked record => record
  | _, _ => none

/-- Source: `certificates.rs`, lines 60–67 and 240–254. -/
def PersistFault.error : PersistFault → CertificateStoreError
  | .serialization => .serialization
  | .createDir | .write | .rename => .io

/-- The answer of a call, and the store that it leaves behind. -/
def CertificateStore.answer (store : CertificateStore) (fault : Option PersistFault) :
    StoreCall → Except CertificateStoreError StoreAnswer × CertificateStore
  | .insert record =>
      ((store.insert record fault).1.map .inserted, (store.insert record fault).2)
  | .revoke now id reason =>
      ((store.revoke now id reason fault).1.map .revoked, (store.revoke now id reason fault).2)
  | .remove id => ((store.remove id fault).1.map .removed, (store.remove id fault).2)

namespace CertificateStore

variable {store : CertificateStore} {call : StoreCall} {changed : Records}

/-- The answers are those of `call`, with what is returned. -/
theorem answer_eq (store : CertificateStore) (fault : Option PersistFault) (call : StoreCall) :
    store.answer fault call =
      ((store.call fault call).1.map fun _ => call.answer store.records,
        (store.call fault call).2) := by
  cases call with
  | insert record =>
    rcases persist_cases { store with records := store.records.insertRecord record } fault with
      hp | ⟨e, hp⟩ <;> simp only [answer, CertificateStore.call, insert, hp] <;> rfl
  | revoke now id reason =>
    cases hrevoke : store.records.revokeRecord now id reason with
    | none => simp only [answer, CertificateStore.call, revoke, StoreCall.answer, hrevoke]; rfl
    | some pair =>
      rcases persist_cases { store with records := pair.2 } fault with hp | ⟨e, hp⟩ <;>
        simp only [answer, CertificateStore.call, revoke, StoreCall.answer, hrevoke, hp] <;> rfl
  | remove id =>
    cases hremove : store.records.removeRecord id with
    | none => simp only [answer, CertificateStore.call, remove, StoreCall.answer, hremove]; rfl
    | some pair =>
      rcases persist_cases { store with records := pair.2 } fault with hp | ⟨e, hp⟩ <;>
        simp only [answer, CertificateStore.call, remove, StoreCall.answer, hremove, hp] <;> rfl

theorem answer_of_change_eq_none (h : call.change store.records = none)
    (fault : Option PersistFault) :
    store.answer fault call = (.ok (call.answer store.records), store) := by
  rw [answer_eq, call_of_change_eq_none h]
  rfl

/-- A call that changes the map and writes the file leaves both equal. -/
theorem answer_of_change_eq_some (h : call.change store.records = some changed) :
    store.answer none call =
      (.ok (call.answer store.records), ⟨changed, some (.json changed)⟩) := by
  rw [answer_eq, call_of_change_eq_some h]
  rfl

/-- A call that changes the map and fails to write the file leaves the file as it was. -/
theorem answer_of_fault (h : call.change store.records = some changed) (fault : PersistFault) :
    store.answer (some fault) call = (.error fault.error, ⟨changed, store.file⟩) := by
  rw [answer_eq, call_of_change_eq_some h]
  cases fault <;> rfl

/-- The file after a call is that before it, or that after the call without faults. -/
theorem file_answer (store : CertificateStore) (fault : Option PersistFault) (call : StoreCall) :
    (store.answer fault call).2.file = store.file ∨
      (store.answer fault call).2.file = (store.answer none call).2.file := by
  cases fault with
  | none => exact Or.inr rfl
  | some fault =>
    left
    cases hchange : call.change store.records with
    | none => rw [answer_of_change_eq_none hchange]
    | some changed => rw [answer_of_fault hchange]

end CertificateStore

/-! ### The operations of a process -/

/-- How far a call has come: the map is changed, it is serialized, there is a directory, the
temporary file is open under a handle, it is written and closed, or the call is about to return. -/
inductive PersistStage
  | changed
  | serialized
  | directory
  | opened (handle : ℕ)
  | written
  | returning (result : Except CertificateStoreError StoreAnswer)

/-- The failure of the next operation of the call. -/
def PersistStage.fault : PersistStage → Option PersistFault
  | .changed => some .serialization
  | .serialized => some .createDir
  | .directory | .opened _ => some .write
  | .written => some .rename
  | .returning _ => none

/-- Where the process stands, with the map in its memory. A call has the answer that it returns when
nothing fails. -/
inductive StoreProcess
  | down
  | idle (records : Records)
  | calling (call : StoreCall) (records : Records) (answer : StoreAnswer) (stage : PersistStage)

structure StoreMachine where
  process : StoreProcess
  files : FileSystem StorePath StoreFile

/-- What is seen of the store: that it was opened, with what it has, or not, what a call returned,
and that the process was killed, in a call or between two. -/
inductive StoreOutcome
  | opened (records : Records)
  | refused (e : CertificateStoreError)
  | returned (call : StoreCall) (result : Except CertificateStoreError StoreAnswer)
  | killed (during : Option StoreCall)

/-- A call changes the map, a file operation is done or fails, or something is seen. -/
inductive MachineEvent
  | change (call : StoreCall)
  | operation
  | seen (outcome : StoreOutcome)

def MachineEvent.visible : MachineEvent → Bool
  | .seen _ => true
  | _ => false

/-- The steps of the process. Of the temporary file nothing is known while it is being written, and
nothing after a failure. Source: `certificates.rs`, lines 80–101, 107–125, 155–183 and 201–257. -/
inductive MachineStep : StoreMachine → MachineEvent → StoreMachine → Prop
  | openStore {files : FileSystem StorePath StoreFile} {records : Records}
      (h : StoreFile.read (files.read .store) = .ok records) :
      MachineStep ⟨.down, files⟩ (.seen (.opened records)) ⟨.idle records, files⟩
  | refuse {files : FileSystem StorePath StoreFile} {e : CertificateStoreError}
      (h : e = .io ∨ StoreFile.read (files.read .store) = .error e) :
      MachineStep ⟨.down, files⟩ (.seen (.refused e)) ⟨.down, files⟩
  | change {files : FileSystem StorePath StoreFile} {records changed : Records} {call : StoreCall}
      (h : call.change records = some changed) :
      MachineStep ⟨.idle records, files⟩ (.change call)
        ⟨.calling call changed (call.answer records) .changed, files⟩
  | absent {files : FileSystem StorePath StoreFile} {records : Records} {call : StoreCall}
      (h : call.change records = none) :
      MachineStep ⟨.idle records, files⟩ (.change call)
        ⟨.calling call records (call.answer records)
          (.returning (.ok (call.answer records))), files⟩
  | serialize {files : FileSystem StorePath StoreFile} {call : StoreCall} {records : Records}
      {answer : StoreAnswer} :
      MachineStep ⟨.calling call records answer .changed, files⟩ .operation
        ⟨.calling call records answer .serialized, files⟩
  | createDir {files : FileSystem StorePath StoreFile} {call : StoreCall} {records : Records}
      {answer : StoreAnswer} :
      MachineStep ⟨.calling call records answer .serialized, files⟩ .operation
        ⟨.calling call records answer .directory, files⟩
  | openTemporary {files : FileSystem StorePath StoreFile} {call : StoreCall} {records : Records}
      {answer : StoreAnswer} :
      MachineStep ⟨.calling call records answer .directory, files⟩ .operation
        ⟨.calling call records answer (.opened (files.openTruncate .temporary .blank).2),
          (files.openTruncate .temporary .blank).1⟩
  | writePart {files : FileSystem StorePath StoreFile} {call : StoreCall} {records : Records}
      {answer : StoreAnswer} {handle : ℕ} (contents : StoreFile) :
      MachineStep ⟨.calling call records answer (.opened handle), files⟩ .operation
        ⟨.calling call records answer (.opened handle), files.write handle contents⟩
  | writeRest {files : FileSystem StorePath StoreFile} {call : StoreCall} {records : Records}
      {answer : StoreAnswer} {handle : ℕ} :
      MachineStep ⟨.calling call records answer (.opened handle), files⟩ .operation
        ⟨.calling call records answer .written, files.write handle (.json records)⟩
  | rename {files files' : FileSystem StorePath StoreFile} {call : StoreCall} {records : Records}
      {answer : StoreAnswer} (h : files.rename .temporary .store = some files') :
      MachineStep ⟨.calling call records answer .written, files⟩ .operation
        ⟨.calling call records answer (.returning (.ok answer)), files'⟩
  | fail {files : FileSystem StorePath StoreFile} {call : StoreCall} {records : Records}
      {answer : StoreAnswer} {stage : PersistStage} {fault : PersistFault}
      (h : stage.fault = some fault) :
      MachineStep ⟨.calling call records answer stage, files⟩ .operation
        ⟨.calling call records answer (.returning (.error fault.error)), files⟩
  | respond {files : FileSystem StorePath StoreFile} {call : StoreCall} {records : Records}
      {answer : StoreAnswer} {result : Except CertificateStoreError StoreAnswer} :
      MachineStep ⟨.calling call records answer (.returning result), files⟩
        (.seen (.returned call result)) ⟨.idle records, files⟩
  | killIdle {files : FileSystem StorePath StoreFile} {records : Records} :
      MachineStep ⟨.idle records, files⟩ (.seen (.killed none)) ⟨.down, files⟩
  | killCalling {files : FileSystem StorePath StoreFile} {call : StoreCall} {records : Records}
      {answer : StoreAnswer} {stage : PersistStage} :
      MachineStep ⟨.calling call records answer stage, files⟩ (.seen (.killed (some call)))
        ⟨.down, files⟩

def storeMachine : LTS StoreMachine MachineEvent := ⟨MachineStep⟩

/-! ### The calls as single steps -/

/-- The store between two calls, or its file while there is no process. -/
inductive AtomicStore
  | down (file : Option StoreFile)
  | up (store : CertificateStore)

/-- A call is done under a fault or without one; when the process is killed, it has been done
without a fault or has not begun. -/
inductive AtomicStep : AtomicStore → StoreOutcome → AtomicStore → Prop
  | openStore {file : Option StoreFile} (store : CertificateStore)
      (h : CertificateStore.openFile file = .ok store) :
      AtomicStep (.down file) (.opened store.records) (.up store)
  | refuse {file : Option StoreFile} {e : CertificateStoreError}
      (h : e = .io ∨ CertificateStore.openFile file = .error e) :
      AtomicStep (.down file) (.refused e) (.down file)
  | call {store store' : CertificateStore} {call : StoreCall}
      {result : Except CertificateStoreError StoreAnswer} (fault : Option PersistFault)
      (h : store.answer fault call = (result, store')) :
      AtomicStep (.up store) (.returned call result) (.up store')
  | killIdle (store : CertificateStore) :
      AtomicStep (.up store) (.killed none) (.down store.file)
  | killBefore (store : CertificateStore) (call : StoreCall) :
      AtomicStep (.up store) (.killed (some call)) (.down store.file)
  | killAfter (store : CertificateStore) (call : StoreCall) :
      AtomicStep (.up store) (.killed (some call)) (.down (store.answer none call).2.file)

def atomicStore : LTS AtomicStore StoreOutcome := ⟨AtomicStep⟩

/-! ### The invariant -/

/-- What the files have where the call stands: the handle is that of the temporary file until it is
renamed, and it is renamed with the whole map in it. -/
def PersistStage.Holds (files : FileSystem StorePath StoreFile) (records : Records)
    (answer : StoreAnswer) : PersistStage → Prop
  | .opened handle => files.entry .temporary = some handle
  | .written => files.read .temporary = some (.json records)
  | .returning (.ok result) =>
      result = answer ∧ (answer.found = true → files.read .store = some (.json records))
  | _ => True

/-- The map of a call has what the call has done, and its stage holds. -/
def StoreMachine.Sound (m : StoreMachine) : Prop :=
  match m.process with
  | .calling call records answer stage =>
      (answer.found = true → records.lookup call.id = call.left answer) ∧
        stage.Holds m.files records answer
  | _ => True

namespace StoreCall

variable {call : StoreCall} {records changed : Records}

/-- A call that changes the map has found a record, and leaves what it answers. -/
theorem lookup_of_change (h : call.change records = some changed) :
    (call.answer records).found = true ∧
      changed.lookup call.id = call.left (call.answer records) := by
  cases call with
  | insert record =>
    cases h
    exact ⟨rfl, Finmap.lookup_insert _⟩
  | revoke now id reason =>
    obtain ⟨⟨updated, records'⟩, hrevoke, rfl⟩ := Option.map_eq_some_iff.mp h
    obtain ⟨record, -, -, rfl⟩ := Records.revokeRecord_eq_some hrevoke
    simp only [answer, hrevoke]
    exact ⟨rfl, Finmap.lookup_insert _⟩
  | remove id =>
    obtain ⟨⟨removed, records'⟩, hremove, rfl⟩ := Option.map_eq_some_iff.mp h
    refine ⟨by simp only [answer, hremove]; rfl, ?_⟩
    obtain ⟨-, rfl⟩ := Records.removeRecord_eq_some hremove
    exact Finmap.lookup_erase _ _

/-- A call that changes nothing has found none. -/
theorem found_answer_of_change_eq_none (h : call.change records = none) :
    (call.answer records).found = false := by
  cases call with
  | insert record => cases h
  | revoke now id reason =>
    rw [change, Option.map_eq_none_iff] at h
    simp only [answer, h]
    rfl
  | remove id =>
    rw [change, Option.map_eq_none_iff] at h
    simp only [answer, h]
    rfl

/-- A call leaves the records with other identifiers alone. -/
theorem lookup_change_of_ne (h : call.change records = some changed) {id : Uuid}
    (hid : id ≠ call.id) : changed.lookup id = records.lookup id := by
  cases call with
  | insert record =>
    cases h
    exact Finmap.lookup_insert_of_ne records hid
  | revoke now id' reason =>
    obtain ⟨⟨updated, records'⟩, hrevoke, rfl⟩ := Option.map_eq_some_iff.mp h
    obtain ⟨record, -, -, rfl⟩ := Records.revokeRecord_eq_some hrevoke
    exact Finmap.lookup_insert_of_ne records hid
  | remove id' =>
    obtain ⟨⟨removed, records'⟩, hremove, rfl⟩ := Option.map_eq_some_iff.mp h
    obtain ⟨-, rfl⟩ := Records.removeRecord_eq_some hremove
    exact Finmap.lookup_erase_ne hid

end StoreCall

variable {m m' : StoreMachine} {event : MachineEvent}

theorem sound_step (hm : m.Sound) (h : MachineStep m event m') : m'.Sound := by
  cases h with
  | openStore _ | refuse _ | respond | killIdle | killCalling => trivial
  | change hchange => exact ⟨fun _ => (StoreCall.lookup_of_change hchange).2, trivial⟩
  | absent hchange =>
    have hfound := StoreCall.found_answer_of_change_eq_none hchange
    exact ⟨fun h => absurd h (by simp [hfound]), rfl, fun h => absurd h (by simp [hfound])⟩
  | serialize | createDir => exact hm
  | openTemporary => exact ⟨hm.1, FileSystem.entry_openTruncate _⟩
  | writePart contents => exact hm
  | @writeRest files call records answer handle =>
    exact ⟨hm.1, (FileSystem.read_write _ _).trans (if_pos hm.2)⟩
  | @rename files files' call records answer hrename =>
    refine ⟨hm.1, rfl, fun _ => ?_⟩
    rw [FileSystem.read_rename hrename, if_pos rfl]
    exact hm.2
  | fail _ => exact ⟨hm.1, trivial⟩

/-- **The file of the store changes in one operation**: it is then the map of the call that is about
to return. No other operation is seen in it, whatever it writes. -/
theorem storeFile_step (hm : m.Sound) (h : MachineStep m event m') :
    m'.files.read .store = m.files.read .store ∨
      ∃ call records answer, m.process = .calling call records answer .written ∧
        m'.process = .calling call records answer (.returning (.ok answer)) ∧
        m'.files.read .store = some (.json records) := by
  cases h with
  | openTemporary =>
    left
    rw [FileSystem.read_openTruncate, if_neg (by decide)]
  | writePart contents =>
    left
    exact FileSystem.read_write_of_ne hm.2 (by decide) contents
  | writeRest =>
    left
    exact FileSystem.read_write_of_ne hm.2 (by decide) _
  | @rename files files' call records answer hrename =>
    right
    refine ⟨call, records, answer, rfl, rfl, ?_⟩
    rw [FileSystem.read_rename hrename, if_pos rfl]
    exact hm.2
  | _ => exact Or.inl rfl

/-! ### The operations and the calls -/

/-- The call has not done all its operations, and none has failed. -/
def PersistStage.Unfinished : PersistStage → Prop
  | .returning _ => False
  | _ => True

/-- The calls in single steps are behind the operations: a call is done when it returns. -/
inductive Explains : StoreMachine → AtomicStore → Prop
  | down (files : FileSystem StorePath StoreFile) :
      Explains ⟨.down, files⟩ (.down (files.read .store))
  | idle (records : Records) (files : FileSystem StorePath StoreFile) :
      Explains ⟨.idle records, files⟩ (.up ⟨records, files.read .store⟩)
  | persisting {files : FileSystem StorePath StoreFile} {call : StoreCall}
      {records changed : Records} {stage : PersistStage} (hstage : stage.Unfinished)
      (h : call.change records = some changed) :
      Explains ⟨.calling call changed (call.answer records) stage, files⟩
        (.up ⟨records, files.read .store⟩)
  | returning {files : FileSystem StorePath StoreFile} {call : StoreCall} {records : Records}
      {answer : StoreAnswer} {result : Except CertificateStoreError StoreAnswer}
      {store : CertificateStore} (fault : Option PersistFault)
      (h : store.answer fault call = (result, ⟨records, files.read .store⟩)) :
      Explains ⟨.calling call records answer (.returning result), files⟩ (.up store)

variable {t : AtomicStore} {outcome : StoreOutcome}

/-- A call goes on as before while the file of the store reads the same. -/
theorem Explains.persisting_of_read_eq {files files' : FileSystem StorePath StoreFile}
    {call : StoreCall} {records changed : Records} {stage : PersistStage}
    (hfile : files'.read .store = files.read .store) (hstage : stage.Unfinished)
    (h : call.change records = some changed) :
    Explains ⟨.calling call changed (call.answer records) stage, files'⟩
      (.up ⟨records, files.read .store⟩) := by
  rw [← hfile]
  exact .persisting hstage h

/-- What is not seen is not a step of the calls. -/
theorem explains_silent (hm : m.Sound) (ht : Explains m t) (h : MachineStep m event m')
    (hsilent : event.visible = false) : Explains m' t := by
  have hfile := storeFile_step hm h
  cases h with
  | openStore _ | refuse _ | respond | killIdle | killCalling => cases hsilent
  | change hchange =>
    cases ht
    exact .persisting trivial hchange
  | absent hchange =>
    cases ht
    exact .returning none (CertificateStore.answer_of_change_eq_none hchange none)
  | serialize | createDir | openTemporary | writePart _ | writeRest =>
    cases ht with
    | persisting _ hchange =>
      have hsame := hfile.resolve_right (by rintro ⟨_, _, _, hprocess, -⟩; cases hprocess)
      exact .persisting_of_read_eq hsame trivial hchange
  | rename hrename =>
    cases ht with
    | @persisting _ call records changed _ _ hchange =>
      refine .returning none ?_
      rw [CertificateStore.answer_of_change_eq_some hchange, FileSystem.read_rename hrename,
        if_pos rfl, hm.2]
  | @fail _ _ _ _ _ fault hfault =>
    cases ht with
    | persisting _ hchange =>
      exact .returning (some fault) (CertificateStore.answer_of_fault hchange fault)
    | returning _ _ => cases hfault

/-- What is seen is a step of the calls. -/
theorem explains_visible (ht : Explains m t) (h : MachineStep m (.seen outcome) m') :
    ∃ t', AtomicStep t outcome t' ∧ Explains m' t' := by
  cases h with
  | @openStore files records hread =>
    cases ht
    refine ⟨_, .openStore ⟨records, files.read .store⟩ ?_, .idle records files⟩
    rw [CertificateStore.openFile, hread]
    rfl
  | @refuse files e he =>
    cases ht
    refine ⟨_, .refuse (he.imp_right fun hread => ?_), .down files⟩
    rw [CertificateStore.openFile, hread]
    rfl
  | @respond files call records answer result =>
    cases ht with
    | persisting hstage _ => exact hstage.elim
    | returning fault hanswer => exact ⟨_, .call fault hanswer, .idle records files⟩
  | killIdle =>
    cases ht
    exact ⟨_, .killIdle _, .down _⟩
  | @killCalling files call records answer stage =>
    cases ht with
    | persisting _ _ => exact ⟨_, .killBefore _ call, .down files⟩
    | @returning _ _ _ _ _ store fault hanswer =>
      have hfile : (store.answer fault call).2.file = files.read .store := by rw [hanswer]
      rcases store.file_answer fault call with hbefore | hafter
      · refine ⟨_, .killBefore store call, ?_⟩
        rw [← hbefore, hfile]
        exact .down files
      · refine ⟨_, .killAfter store call, ?_⟩
        rw [← hafter, hfile]
        exact .down files

/-- **The operations show what the calls show.** -/
theorem simulates_atomicStore :
    storeMachine.Simulates atomicStore (fun m t => m.Sound ∧ Explains m t) MachineEvent.visible
      fun event outcome => event = .seen outcome where
  visible_step := by
    rintro m event m' t ⟨hm, ht⟩ h hvisible
    cases event with
    | seen outcome =>
      obtain ⟨t', hstep, ht'⟩ := explains_visible ht h
      exact ⟨outcome, t', rfl, hstep, sound_step hm h, ht'⟩
    | change call => cases hvisible
    | operation => cases hvisible
  silent_step := by
    rintro m event m' t ⟨hm, ht⟩ h hsilent
    exact ⟨sound_step hm h, explains_silent hm ht h hsilent⟩

/-! ### Runs -/

/-- The file of the store reads back. -/
def StoreMachine.Readable (m : StoreMachine) : Prop :=
  ∃ records, StoreFile.read (m.files.read .store) = .ok records

theorem readable_step (hm : m.Sound ∧ m.Readable) (h : MachineStep m event m') :
    m'.Sound ∧ m'.Readable := by
  refine ⟨sound_step hm.1 h, ?_⟩
  rcases storeFile_step hm.1 h with hsame | ⟨_, records, _, -, -, hfile⟩
  · rw [StoreMachine.Readable, hsame]
    exact hm.2
  · exact ⟨records, by rw [hfile]; rfl⟩

/-- **Killed processes leave calls whole.** In every run of the operations from files whose store
reads back, with any temporary file, the file of the store reads back at the end, and what was seen
is what is seen in a run of calls that are done as a whole or not at all. -/
theorem atomic_of_killed_run {files : FileSystem StorePath StoreFile} {records : Records}
    (hread : StoreFile.read (files.read .store) = .ok records)
    (run : storeMachine.Run ⟨.down, files⟩ m) :
    (∃ onDisk, StoreFile.read (m.files.read .store) = .ok onDisk) ∧
      ∃ t, ∃ run' : atomicStore.Run (.down (files.read .store)) t, Explains m t ∧
        run.labels.filter MachineEvent.visible = run'.labels.map .seen := by
  have hsound : StoreMachine.Sound ⟨.down, files⟩ := trivial
  refine ⟨(LTS.Run.invariant (fun _ _ _ => readable_step) ⟨hsound, records, hread⟩ run).2, ?_⟩
  obtain ⟨t, run', ⟨-, ht⟩, hlabels⟩ :=
    simulates_atomicStore.exists_run ⟨hsound, .down files⟩ run
  refine ⟨t, run', ht, ?_⟩
  rw [← List.forall₂_eq_eq_eq, List.forall₂_map_right_iff]
  exact hlabels

/-- The insertion of the certificate with an identifier. -/
def insertion (id : Uuid) : StoreCall :=
  .insert (.new id 0 "0a" "workload" [] [] true false "" "" none)

/-- A process is killed while it writes the record of its first insertion, and is started again. -/
theorem atomic_of_killed_run_insertion : ∃ m, ∃ run : storeMachine.Run ⟨.down, .empty⟩ m,
    m.files.read .temporary = some .malformed ∧ (∃ t, ∃ run' : atomicStore.Run (.down none) t,
      Explains m t ∧ run.labels.filter MachineEvent.visible = run'.labels.map .seen) := by
  have opened : storeMachine.Run ⟨.down, .empty⟩ ⟨.idle ∅, .empty⟩ :=
    .snoc .nil _ (.openStore rfl)
  have writing := (((opened.snoc (.change (insertion 1)) (.change rfl)).snoc _ .serialize).snoc
    _ .createDir).snoc _ .openTemporary
  have killed := ((writing.snoc _ (.writePart .malformed)).snoc _ .killCalling).snoc _
    (.openStore rfl)
  exact ⟨_, killed, rfl, (atomic_of_killed_run rfl killed).2⟩

/-! ### Acknowledged calls -/

/-- The map in the memory of the process. -/
def StoreProcess.map : StoreProcess → Option Records
  | .down => none
  | .idle records => some records
  | .calling _ records _ _ => some records

/-- The file of the store, and the map while there is a process, have `left` under the
identifier. -/
structure StoreMachine.Keeps (id : Uuid) (left : Option CertificateRecord) (m : StoreMachine) :
    Prop where
  file : ∃ onDisk, StoreFile.read (m.files.read .store) = .ok onDisk ∧ onDisk.lookup id = left
  memory : ∀ records, m.process.map = some records → records.lookup id = left

/-- The step changes nothing of what the map has under the identifier: it is no change of the map,
or that of a call about another identifier, or one that leaves the record as it was. -/
def StoreMachine.Spares (id : Uuid) (m : StoreMachine) (event : MachineEvent) : Prop :=
  ∀ call before changed, event = .change call → m.process.map = some before →
    call.change before = some changed → changed.lookup id = before.lookup id

variable {id : Uuid} {left : Option CertificateRecord}

/-- What a step makes of the map in memory: it is changed by a call or read from the file, or it is
as before or gone. -/
theorem map_step (h : MachineStep m event m') {records : Records}
    (hrecords : m'.process.map = some records) :
    m.process.map = some records ∨ StoreFile.read (m.files.read .store) = .ok records ∨
      ∃ call before, event = .change call ∧ m.process.map = some before ∧
        call.change before = some records := by
  cases h with
  | openStore hread =>
    cases hrecords
    exact Or.inr (Or.inl hread)
  | @change _ before _ call hchange =>
    cases hrecords
    exact Or.inr (Or.inr ⟨call, before, rfl, rfl, hchange⟩)
  | refuse _ | killIdle | killCalling => cases hrecords
  | _ => exact Or.inl hrecords

/-- A step keeps what the store has under an identifier, unless it is the change of a call that
changes it. -/
theorem keeps_step (hm : m.Sound) (hkeeps : m.Keeps id left) (h : MachineStep m event m')
    (hspares : m.Spares id event) : m'.Keeps id left := by
  obtain ⟨⟨onDisk, hread, hdisk⟩, hmemory⟩ := hkeeps
  constructor
  · rcases storeFile_step hm h with hsame | ⟨call, records, answer, hprocess, -, hfile⟩
    · exact ⟨onDisk, by rw [hsame, hread], hdisk⟩
    · refine ⟨records, by rw [hfile]; rfl, hmemory records ?_⟩
      rw [hprocess]
      rfl
  · intro records hrecords
    rcases map_step h hrecords with hsame | hopened | ⟨call, before, rfl, hbefore, hchange⟩
    · exact hmemory records hsame
    · obtain rfl : onDisk = records := Except.ok.inj (hread.symm.trans hopened)
      exact hdisk
    · rw [hspares call before records rfl hbefore hchange]
      exact hmemory before hbefore

/-- A call that has found a record and returns `Ok` leaves it in the map and in the file. -/
theorem keeps_of_returned {call : StoreCall} {answer : StoreAnswer} (hm : m.Sound)
    (h : MachineStep m (.seen (.returned call (.ok answer))) m') (hfound : answer.found = true) :
    m'.Keeps call.id (call.left answer) := by
  cases h with
  | @respond files _ records =>
    obtain ⟨hlookup, rfl, hfile⟩ := hm
    refine ⟨⟨records, by rw [hfile hfound]; rfl, hlookup hfound⟩, ?_⟩
    rintro _ ⟨⟩
    exact hlookup hfound

/-- **What was acknowledged is not lost.** Once a call that has found a record has returned `Ok`,
the store has under its identifier what the call has left there, in the file and in the map, until
a later call changes what the map has there: whatever fails, and whenever the process is killed and
started again. -/
theorem kept_of_killed_run {files : FileSystem StorePath StoreFile} {m'' : StoreMachine}
    {call : StoreCall} {answer : StoreAnswer} (run : storeMachine.Run ⟨.down, files⟩ m)
    (hreturned : storeMachine.step m (.seen (.returned call (.ok answer))) m')
    (hfound : answer.found = true) (later : storeMachine.Run m' m'')
    (hspares : later.AllSteps fun u event => u.Spares call.id event) :
    m''.Keeps call.id (call.left answer) := by
  have hstart : StoreMachine.Sound ⟨.down, files⟩ := trivial
  have hsound : m.Sound := LTS.Run.invariant (fun _ _ _ => sound_step) hstart run
  have hall : later.AllStates fun u => u.Sound ∧ u.Keeps call.id (call.left answer) := by
    refine LTS.Run.allStates_of_allSteps ?_
      ⟨sound_step hsound hreturned, keeps_of_returned hsound hreturned hfound⟩ later hspares
    rintro u event v ⟨hu, hkeeps⟩ hspare h
    exact ⟨sound_step hu h, keeps_step hu hkeeps h hspare⟩
  exact hall.last.2

/-- A call is killed while it writes, and the store is opened again. -/
theorem exists_killed_run {files : FileSystem StorePath StoreFile}
    {records changed onDisk : Records} {call : StoreCall}
    (hchange : call.change records = some changed)
    (hread : StoreFile.read (files.read .store) = .ok onDisk) :
    ∃ m, ∃ run : storeMachine.Run ⟨.idle records, files⟩ m, m.process = .idle onDisk ∧
      m.files.read .temporary = some .malformed ∧
      run.AllSteps fun _ event => ∀ other, event = .change other → other = call := by
  have hopened : (files.openTruncate .temporary .blank).1.entry .temporary =
      some (files.openTruncate .temporary .blank).2 := FileSystem.entry_openTruncate _
  have hsame : StoreFile.read (((files.openTruncate .temporary .blank).1.write
      (files.openTruncate .temporary .blank).2 .malformed).read .store) = .ok onDisk := by
    rw [FileSystem.read_write_of_ne hopened (by decide), FileSystem.read_openTruncate,
      if_neg (by decide), hread]
  refine ⟨_, (((((((LTS.Run.nil : storeMachine.Run ⟨.idle records, files⟩ _).snoc _
    (.change hchange)).snoc _ .serialize).snoc _ .createDir).snoc _ .openTemporary).snoc _
      (.writePart .malformed)).snoc _ .killCalling).snoc _ (.openStore hsame), rfl, ?_, ?_⟩
  · exact (FileSystem.read_write _ _).trans (if_pos hopened)
  · refine ⟨⟨⟨⟨⟨⟨⟨trivial, ?_⟩, ?_⟩, ?_⟩, ?_⟩, ?_⟩, ?_⟩, ?_⟩ <;> rintro other ⟨⟩
    rfl

/-- A second insertion is killed while it writes; the first is there when the store is opened
again. -/
theorem kept_of_killed_run_insertion : ∃ m : StoreMachine,
    m.files.read .temporary = some .malformed ∧ m.process.map.isSome = true ∧
      m.Keeps 1 (some (.new 1 0 "0a" "workload" [] [] true false "" "" none)) := by
  obtain ⟨changed, hchange⟩ : ∃ changed, (insertion 1).change ∅ = some changed := ⟨_, rfl⟩
  have opened : storeMachine.Run ⟨.down, .empty⟩ ⟨.idle ∅, .empty⟩ :=
    .snoc .nil _ (.openStore rfl)
  obtain ⟨files, written, hfile⟩ : ∃ files, ∃ _ : storeMachine.Run ⟨.down, .empty⟩
      ⟨.calling (insertion 1) changed (.inserted 1) (.returning (.ok (.inserted 1))), files⟩,
      files.read .store = some (.json changed) :=
    ⟨_, (((((opened.snoc _ (.change hchange)).snoc _ .serialize).snoc _ .createDir).snoc _
      .openTemporary).snoc _ .writeRest).snoc _ (.rename rfl), rfl⟩
  have hread : StoreFile.read (files.read .store) = .ok changed := by rw [hfile]; rfl
  have hsecond : (insertion 2).change changed = some _ := rfl
  obtain ⟨m, later, hprocess, hmalformed, hothers⟩ := exists_killed_run hsecond hread
  refine ⟨m, hmalformed, by rw [hprocess]; rfl, kept_of_killed_run written .respond rfl later ?_⟩
  refine hothers.mono fun u event h other before changed' hother _ hchange' => ?_
  rw [h other hother] at hchange'
  exact StoreCall.lookup_change_of_ne hchange' (by decide)

end DaemonPki
