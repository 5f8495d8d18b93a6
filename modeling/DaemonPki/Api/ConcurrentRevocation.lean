import DaemonPki.Api.Server
import DaemonPki.Foundation.Interleaving

/-!
# Concurrent revocations

Requests to revoke a certificate, any number of them in progress at once (`http.rs`, lines
626–659, with `refresh` of `tls/manager.rs` and `generate_and_persist` of `crl.rs`). A request
marks its record and writes the file of the store; then it draws a number, takes a snapshot of
the records, signs the list of the revoked ones, writes the list to its file, and installs an
acceptor with it. Each of these is atomic, and no lock is held from one to the next: between the
snapshot of one request and its installation, another may mark a record, install a newer list,
and be answered.

## Main definitions

* `DaemonPki.RevokePc`, `DaemonPki.RevokeStep`, `DaemonPki.concurrentRevocation`.
* `DaemonPki.Enforced`: what was acknowledged is on the list that is installed.
* `DaemonPki.NotOvertaken`: nothing was acknowledged that the snapshot does not have.
* `DaemonPki.Node.Extends`, `DaemonPki.RevokePc.Assertion`, `DaemonPki.Carried`: the invariant.

## Main results

* `DaemonPki.exists_run_of_handleRevokeCertificate`: the handler, run alone, takes these steps.
* `DaemonPki.enforced_step_iff`: what a step does to what is enforced.
* `DaemonPki.enforced_iff_notOvertaken`: the runs that enforce every acknowledged revocation.
-/

namespace DaemonPki

open Foundation

/-- Where a request to revoke stands. The record is the one that the store answered with;
`taken` is the map at the time of the snapshot, kept for the statements. -/
inductive RevokePc
  | received (id : Uuid) (reason : Option String)
  | marked (certificate : CertificateRecord)
  | persisted (certificate : CertificateRecord)
  | counted (certificate : CertificateRecord) (current : ℕ)
  | numbered (certificate : CertificateRecord) (crlNumber : ℕ)
  | listed (certificate : CertificateRecord) (crlNumber : ℕ) (crl : CertificateRevocationList)
      (taken : Records)
  | signed (certificate : CertificateRecord) (crlDer : CertificateRevocationListParams)
      (taken : Records)
  | written (certificate : CertificateRecord) (crlDer : CertificateRevocationListParams)
      (taken : Records)
  | answered (certificate : CertificateRecord)
  | notFound

inductive RevokeAction
  | mark
  | persist
  | readNumber
  | writeNumber
  | snapshot
  | sign
  | writeCrl
  | install
  deriving DecidableEq, Repr

/-- The steps of a request to revoke, none of which fails. With the installation the refresh
returns, and the request is answered with 200. Source: `http.rs`, lines 626–659; `tls/manager.rs`,
lines 48–82; `crl.rs`, lines 36–132. -/
inductive RevokeStep : Node → RevokePc → RevokeAction → Node → RevokePc → Prop
  | mark {node : Node} {id : Uuid} {reason : Option String} {now : OffsetDateTime}
      {certificate : CertificateRecord} {records : Records}
      (h : node.store.records.revokeRecord now id (reason.getD "revoked by operator") =
        some (certificate, records)) :
      RevokeStep node (.received id reason) .mark
        { node with store := { node.store with records := records } } (.marked certificate)
  | absent {node : Node} {id : Uuid} {reason : Option String}
      (h : node.store.records.lookup id = none) :
      RevokeStep node (.received id reason) .mark node .notFound
  | persist {node : Node} {certificate : CertificateRecord} :
      RevokeStep node (.marked certificate) .persist
        { node with store := { node.store with file := some (.json node.store.records) } }
        (.persisted certificate)
  | readNumber {node : Node} {certificate : CertificateRecord} {reads : Bool} {current : ℕ}
      (h : CrlManager.currentCrlNumber node.crlFiles.number reads = .ok current) :
      RevokeStep node (.persisted certificate) .readNumber node (.counted certificate current)
  | writeNumber {node : Node} {certificate : CertificateRecord} {current : ℕ}
      (h : current + 1 < 2 ^ 64) :
      RevokeStep node (.counted certificate current) .writeNumber
        { node with crlFiles := { node.crlFiles with number := some (toString (current + 1)) } }
        (.numbered certificate (current + 1))
  | snapshot {node : Node} {certificate : CertificateRecord} {crlNumber : ℕ}
      (env : CrlEnvironment) :
      RevokeStep node (.numbered certificate crlNumber) .snapshot node
        (.listed certificate crlNumber (CrlManager.revocationList env node.store.records)
          node.store.records)
  | sign {node : Node} {certificate : CertificateRecord} {crlNumber : ℕ}
      {crl : CertificateRevocationList} {taken : Records} {signs : Bool}
      {crlDer : CertificateRevocationListParams}
      (h : crl.signedDer crlNumber signs = .returned (.ok crlDer)) :
      RevokeStep node (.listed certificate crlNumber crl taken) .sign node
        (.signed certificate crlDer taken)
  | writeCrl {node : Node} {certificate : CertificateRecord}
      {crlDer : CertificateRevocationListParams} {taken : Records} :
      RevokeStep node (.signed certificate crlDer taken) .writeCrl
        { node with crlFiles := { node.crlFiles with crl := some (.signed crlDer) } }
        (.written certificate crlDer taken)
  | install {node : Node} {certificate : CertificateRecord}
      {crlDer : CertificateRevocationListParams} {taken : Records} :
      RevokeStep node (.written certificate crlDer taken) .install
        { node with installed := crlDer } (.answered certificate)

variable {ι : Type*}

/-- The interleavings of the requests. -/
def concurrentRevocation [DecidableEq ι] : LTS (Threads ι Node RevokePc) (ι × RevokeAction) :=
  interleave fun _ => RevokeStep

/-! ### One request without interruption -/

section Uninterrupted

variable [DecidableEq ι] {c : Threads ι Node RevokePc} {i : ι} {node' : Node} {id : Uuid}
  {reason : Option String} {now : OffsetDateTime} {fault : Option PersistFault}
  {certificate : CertificateRecord} {store : CertificateStore} {files : CrlFiles}
  {crlDer : CertificateRevocationListParams}

/-- A request that is not interrupted gets to its installation when the store revokes and the
list is produced. -/
theorem exists_run_written (hi : c.locals i = .received id reason)
    (hrevoke : c.shared.store.revoke now id (reason.getD "revoked by operator") fault =
      (.ok (some certificate), store)) {env : CrlEnvironment}
    (hgenerate : CrlManager.generateAndPersist env store.records c.shared.crlFiles =
      (.returned (.ok crlDer), files)) :
    ∃ run : concurrentRevocation.Run c (c.move i ⟨store, files, c.shared.installed⟩
      (.written certificate crlDer store.records)), run.AllSteps fun _ a => a.2 ≠ .install := by
  obtain ⟨records, hmark, rfl⟩ := CertificateStore.revoke_eq_some hrevoke
  obtain ⟨current, hcurrent, hlt, hsigned, rfl⟩ := CrlManager.generateAndPersist_eq_ok hgenerate
  have hfirst : concurrentRevocation.step c (i, .mark)
      (c.move i { c.shared with store := { c.shared.store with records := records } }
        (.marked certificate)) := interleave_step hi (.mark hmark)
  refine ⟨((((((LTS.Run.nil.snoc _ hfirst).snoc _
    (interleave_move_step .persist)).snoc _
    (interleave_move_step (.readNumber hcurrent))).snoc _
    (interleave_move_step (.writeNumber hlt))).snoc _
    (interleave_move_step (.snapshot env))).snoc _
    (interleave_move_step (.sign hsigned))).snoc _
    (interleave_move_step .writeCrl), ?_⟩
  simp [LTS.Run.AllSteps]

/-- **The handler**, when it answers with 200, takes the steps of a request that is not
interrupted. -/
theorem exists_run_of_handleRevokeCertificate (hi : c.locals i = .received id reason)
    {authorized : Bool} {env : RefreshEnvironment} {response : HttpResponse}
    (h : HttpApi.handle c.shared (.revoke authorized (some id) (some reason) now fault env) =
      (.returned response, node')) (hok : response.status = 200) :
    ∃ certificate, response.body = .certificate certificate ∧
      Nonempty (concurrentRevocation.Run c (c.move i node' (.answered certificate))) := by
  rw [HttpApi.handle] at h
  rcases HttpApi.handleRevokeCertificate_cases authorized (some id) (some reason) now fault env
    c.shared with ⟨result, node'', hresult, -, hstatus, -⟩ |
      ⟨key, text, certificate, store, files, crlDer, hkey, htext, hrevoke, hresult, hgenerate⟩
  · rw [hresult] at h
    cases h
    exact absurd hok (hstatus response rfl)
  · cases hkey
    cases htext
    rw [hresult] at h
    cases h
    obtain ⟨run, -⟩ := exists_run_written hi hrevoke hgenerate
    exact ⟨certificate, rfl, ⟨run.snoc _ (interleave_move_step .install)⟩⟩

end Uninterrupted

/-! ### What is enforced, and when -/

/-- A record with this serial number is revoked. -/
def Records.Revokes (records : Records) (serialNumber : String) : Prop :=
  ∃ id record, records.lookup id = some record ∧ record.revoked = true ∧
    hexToBytes record.serialNumber = hexToBytes serialNumber

/-- The serial number is on the list. -/
def CertificateRevocationListParams.Lists (crlDer : CertificateRevocationListParams)
    (serialNumber : String) : Prop :=
  ∃ serial ∈ crlDer.serials, hexToBytes serialNumber = .returned (some serial)

def RevokePc.Finished : RevokePc → Prop
  | .answered _ | .notFound => True
  | _ => False

/-- Every revocation that was answered with 200 is on the list that is installed, and when all
requests have finished, so is every revoked record of the store. -/
structure Enforced (c : Threads ι Node RevokePc) : Prop where
  acknowledged : ∀ i certificate, c.locals i = .answered certificate →
    c.shared.installed.Lists certificate.serialNumber
  finished : (∀ i, (c.locals i).Finished) → ∀ id record,
    c.shared.store.records.lookup id = some record → record.revoked = true →
    c.shared.installed.Lists record.serialNumber

/-- If the step is an installation, then every certificate that was acknowledged before it was
revoked in the map of which the snapshot was taken. -/
def NotOvertaken (c : Threads ι Node RevokePc) (a : ι × RevokeAction) : Prop :=
  a.2 = .install → ∀ certificate crlDer taken,
    c.locals a.1 = .written certificate crlDer taken →
    ∀ i acknowledged, c.locals i = .answered acknowledged →
      taken.Revokes acknowledged.serialNumber

/-! ### The invariant -/

/-- What holds of the server throughout: the records revoked at the start are revoked, and the
list that is installed has them. -/
def Node.Extends (initial : Records) (node : Node) : Prop :=
  initial.KeepsRevoked node.store.records ∧
    ∀ serialNumber, initial.Revokes serialNumber → node.installed.Lists serialNumber

/-- What holds where a request stands. From the snapshot on it has the map of that time, in which
its own record is revoked, and its list is the list of that map. -/
def RevokePc.Assertion (initial : Records) (node : Node) : RevokePc → Prop
  | .received _ _ | .answered _ | .notFound => True
  | .marked certificate | .persisted certificate | .counted certificate _
  | .numbered certificate _ => node.store.records.Revokes certificate.serialNumber
  | .listed certificate _ crl taken => initial.KeepsRevoked taken ∧
      taken.Revokes certificate.serialNumber ∧ ∃ env, crl = CrlManager.revocationList env taken
  | .signed certificate crlDer taken | .written certificate crlDer taken =>
      initial.KeepsRevoked taken ∧ taken.Revokes certificate.serialNumber ∧
        ∀ serialNumber, crlDer.Lists serialNumber ↔ taken.Revokes serialNumber

/-- The record that the request has been answered with by the store. -/
def RevokePc.certificate : RevokePc → Option CertificateRecord
  | .received _ _ | .notFound => none
  | .marked certificate | .persisted certificate | .counted certificate _
  | .numbered certificate _ | .listed certificate _ _ _ | .signed certificate _ _
  | .written certificate _ _ | .answered certificate => some certificate

/-- A record that is revoked was so at the start, or a request has revoked it. -/
def Carried (initial : Records) (c : Threads ι Node RevokePc) : Prop :=
  ∀ serialNumber, c.shared.store.records.Revokes serialNumber →
    initial.Revokes serialNumber ∨ ∃ i certificate,
      (c.locals i).certificate = some certificate ∧
      hexToBytes certificate.serialNumber = hexToBytes serialNumber

variable {records records' initial : Records} {serialNumber : String}
  {crlDer : CertificateRevocationListParams} {node node' : Node} {pc pc' : RevokePc}
  {action : RevokeAction}

theorem Records.KeepsRevoked.revokes (h : records.KeepsRevoked records')
    (hr : records.Revokes serialNumber) : records'.Revokes serialNumber := by
  obtain ⟨id, record, hrecord, hrevoked, hserial⟩ := hr
  obtain ⟨record', hrecord', hrevoked', heq⟩ := h id record hrecord hrevoked
  exact ⟨id, record', hrecord', hrevoked', by rw [heq, hserial]⟩

/-- A signed list has the serial numbers that are revoked in the map it was made from. -/
theorem CrlManager.lists_iff_revokes {env : CrlEnvironment} {crlNumber : ℕ} {signs : Bool}
    (h : (revocationList env records).signedDer crlNumber signs = .returned (.ok crlDer)) :
    crlDer.Lists serialNumber ↔ records.Revokes serialNumber := by
  constructor
  · rintro ⟨serial, hserial, hdecodes⟩
    obtain ⟨id, record, hrecord, hrevoked, hdecodes'⟩ :=
      (mem_serials_of_signedDer_revocationList h serial).mp hserial
    exact ⟨id, record, hrecord, hrevoked, hdecodes'.trans hdecodes.symm⟩
  · rintro ⟨id, record, hrecord, hrevoked, hsame⟩
    obtain ⟨serial, hserial, hdecodes⟩ :=
      exists_serial_of_signedDer_revocationList h hrecord hrevoked
    exact ⟨serial, hserial, hsame.symm.trans hdecodes⟩

/-- A revocation revokes the record it answers with, and no other. -/
theorem Records.revokes_of_revokeRecord {now : OffsetDateTime} {id : Uuid} {reason : String}
    {certificate : CertificateRecord}
    (h : records.revokeRecord now id reason = some (certificate, records')) :
    records'.Revokes serialNumber ↔ records.Revokes serialNumber ∨
      hexToBytes certificate.serialNumber = hexToBytes serialNumber := by
  constructor
  · obtain ⟨record, -, rfl, rfl⟩ := revokeRecord_eq_some h
    rintro ⟨key, other, hother, hrevoked, hserial⟩
    rw [HashMap.lookup_insert_eq_ite] at hother
    split_ifs at hother
    · cases hother
      exact Or.inr hserial
    · exact Or.inl ⟨key, other, hother, hrevoked, hserial⟩
  · rintro (hr | hserial)
    · exact (keepsRevoked_revokeRecord h).revokes hr
    · obtain ⟨record, -, rfl, rfl⟩ := revokeRecord_eq_some h
      exact ⟨id, _, Finmap.lookup_insert _, revoked_markRevoked now reason record, hserial⟩

/-! ### What a step does -/

/-- A step leaves the records alone, or it marks one. -/
theorem revokeStep_records (h : RevokeStep node pc action node' pc') :
    (node'.store.records = node.store.records ∧ pc'.certificate = pc.certificate) ∨
      ∃ now id reason certificate, pc.certificate = none ∧
        node.store.records.revokeRecord now id reason =
          some (certificate, node'.store.records) ∧ pc'.certificate = some certificate := by
  cases h with
  | mark hmark => exact Or.inr ⟨_, _, _, _, rfl, hmark, rfl⟩
  | _ => exact Or.inl ⟨rfl, rfl⟩

/-- A step leaves the list that is installed alone and answers nothing with 200, or it is an
installation. -/
theorem revokeStep_installed (h : RevokeStep node pc action node' pc') :
    (action ≠ .install ∧ node'.installed = node.installed ∧
        ∀ certificate, pc' ≠ .answered certificate) ∨
      ∃ certificate crlDer taken, action = .install ∧ pc = .written certificate crlDer taken ∧
        node'.installed = crlDer ∧ pc' = .answered certificate := by
  cases h with
  | install => exact Or.inr ⟨_, _, _, rfl, rfl, rfl, rfl⟩
  | _ => exact Or.inl ⟨by decide, rfl, fun _ h => by cases h⟩

theorem revokeStep_keepsRevoked (h : RevokeStep node pc action node' pc') :
    node.store.records.KeepsRevoked node'.store.records := by
  rcases revokeStep_records h with ⟨hsame, -⟩ | ⟨now, id, reason, certificate, -, hmark, -⟩
  · rw [hsame]
    exact .refl _
  · exact Records.keepsRevoked_revokeRecord hmark

/-- A step of another request keeps an assertion. -/
theorem RevokePc.Assertion.mono (h : pc.Assertion initial node)
    (hkeeps : node.store.records.KeepsRevoked node'.store.records) :
    pc.Assertion initial node' := by
  cases pc with
  | marked certificate => exact hkeeps.revokes h
  | persisted certificate => exact hkeeps.revokes h
  | counted certificate current => exact hkeeps.revokes h
  | numbered certificate crlNumber => exact hkeeps.revokes h
  | _ => exact h

/-- A step of a request keeps what holds throughout and its own assertion. -/
theorem revokeStep_own (hnode : node.Extends initial) (hpc : pc.Assertion initial node)
    (h : RevokeStep node pc action node' pc') :
    node'.Extends initial ∧ pc'.Assertion initial node' := by
  have hkeeps : initial.KeepsRevoked node'.store.records :=
    hnode.1.trans (revokeStep_keepsRevoked h)
  cases h with
  | mark hmark =>
    exact ⟨⟨hkeeps, hnode.2⟩, (Records.revokes_of_revokeRecord hmark).mpr (Or.inr rfl)⟩
  | absent _ => exact ⟨hnode, hpc⟩
  | persist => exact ⟨hnode, hpc⟩
  | readNumber _ => exact ⟨hnode, hpc⟩
  | writeNumber _ => exact ⟨hnode, hpc⟩
  | snapshot env => exact ⟨hnode, hnode.1, hpc, env, rfl⟩
  | sign hsigned =>
    obtain ⟨htaken, hown, env, rfl⟩ := hpc
    exact ⟨hnode, htaken, hown, fun _ => CrlManager.lists_iff_revokes hsigned⟩
  | writeCrl => exact ⟨hnode, hpc⟩
  | install =>
    obtain ⟨htaken, -, hlists⟩ := hpc
    exact ⟨⟨hkeeps, fun serialNumber hr => (hlists serialNumber).mpr (htaken.revokes hr)⟩, trivial⟩

variable [DecidableEq ι] {c c' : Threads ι Node RevokePc} {a : ι × RevokeAction}

theorem carried_step (hc : Carried initial c) (hstep : concurrentRevocation.step c a c') :
    Carried initial c' := by
  obtain ⟨node', pc', h, rfl⟩ := hstep
  intro serialNumber hr
  rw [Threads.move_shared] at hr
  rcases revokeStep_records h with ⟨hsame, hcertificate⟩ | ⟨now, id, reason, marked, hnone, hmark,
    hcertificate⟩
  · rw [hsame] at hr
    rcases hc serialNumber hr with hinitial | ⟨i, certificate, hi, hserial⟩
    · exact Or.inl hinitial
    · refine Or.inr ⟨i, certificate, ?_, hserial⟩
      by_cases hmoved : i = a.1
      · subst hmoved
        rw [Threads.move_locals_self, hcertificate, hi]
      · rw [Threads.move_locals_of_ne hmoved, hi]
  · rcases (Records.revokes_of_revokeRecord hmark).mp hr with hr | hserial
    · rcases hc serialNumber hr with hinitial | ⟨i, certificate, hi, hserial⟩
      · exact Or.inl hinitial
      · refine Or.inr ⟨i, certificate, ?_, hserial⟩
        -- The request that marks a record had none before.
        have hmoved : i ≠ a.1 := by
          rintro rfl
          rw [hnone] at hi
          cases hi
        rw [Threads.move_locals_of_ne hmoved, hi]
    · exact Or.inr ⟨a.1, marked, by rw [Threads.move_locals_self, hcertificate], hserial⟩

/-- The invariant of the whole. -/
def RevocationInvariant (initial : Records) (c : Threads ι Node RevokePc) : Prop :=
  c.Holds (Node.Extends initial) (fun _ node pc => pc.Assertion initial node) ∧ Carried initial c

/-- **Every step keeps the invariant.** -/
theorem revocationInvariant_step (c : Threads ι Node RevokePc) (a : ι × RevokeAction)
    (c' : Threads ι Node RevokePc) (hc : RevocationInvariant initial c)
    (hstep : concurrentRevocation.step c a c') : RevocationInvariant initial c' := by
  refine ⟨interleave_holds ?_ ?_ c a c' hc.1 hstep, carried_step hc.2 hstep⟩
  · intro i node pc action node' pc' hnode hpc h
    exact revokeStep_own hnode hpc h
  · intro i j node pc pcj action node' pc' _ _ _ hpcj h
    exact hpcj.mono (revokeStep_keepsRevoked h)

/-! ### What a step does to what is enforced -/

omit [DecidableEq ι] in
/-- When the acknowledged revocations are enforced, then at the end all of them are. -/
theorem RevocationInvariant.enforced (hc : RevocationInvariant initial c)
    (hacknowledged : ∀ i certificate, c.locals i = .answered certificate →
      c.shared.installed.Lists certificate.serialNumber) : Enforced c := by
  refine ⟨hacknowledged, fun hfinished key record hrecord hrevoked => ?_⟩
  rcases hc.2 record.serialNumber ⟨key, record, hrecord, hrevoked, rfl⟩ with
    hinitial | ⟨i, certificate, hi, hserial⟩
  · exact hc.1.1.2 _ hinitial
  · have hdone := hfinished i
    cases hlocal : c.locals i with
    | answered answer =>
      rw [hlocal] at hi
      cases hi
      obtain ⟨serial, hmem, hdecodes⟩ := hacknowledged i _ hlocal
      exact ⟨serial, hmem, hserial.symm.trans hdecodes⟩
    | notFound =>
      rw [hlocal] at hi
      cases hi
    | _ =>
      rw [hlocal] at hdone
      exact absurd hdone id

/-- **A step keeps what is enforced** exactly when it does not install a list that lacks an
acknowledged revocation. -/
theorem enforced_step_iff (hc : RevocationInvariant initial c) (henforced : Enforced c)
    (hstep : concurrentRevocation.step c a c') : Enforced c' ↔ NotOvertaken c a := by
  have hc' : RevocationInvariant initial c' := revocationInvariant_step c a c' hc hstep
  obtain ⟨i, action⟩ := a
  obtain ⟨node', pc', h, rfl⟩ := hstep
  have hother {j : ι} {certificate : CertificateRecord} (hj : j ≠ i) :
      (c.move i node' pc').locals j = .answered certificate ↔
        c.locals j = .answered certificate := by
    rw [Threads.move_locals_of_ne hj]
  rcases revokeStep_installed h with ⟨haction, hsame, hnot⟩ |
    ⟨certificate, crlDer, taken, rfl, hpc, hinstalled, rfl⟩
  · refine iff_of_true (hc'.enforced fun j answer hj => ?_) fun hinstall => absurd hinstall haction
    rw [Threads.move_shared, hsame]
    by_cases hji : j = i
    · subst hji
      rw [Threads.move_locals_self] at hj
      exact absurd hj (hnot answer)
    · exact henforced.acknowledged j answer ((hother hji).mp hj)
  · have hassertion := hc.1.2 i
    simp only at hpc
    rw [hpc] at hassertion
    obtain ⟨-, hown, hlists⟩ := hassertion
    constructor
    · intro hnext _ certificate' crlDer' taken' hwritten j acknowledged hj
      obtain ⟨rfl, rfl, rfl⟩ := RevokePc.written.inj (hpc.symm.trans hwritten)
      have hji : j ≠ i := by
        rintro rfl
        rw [hpc] at hj
        cases hj
      have hlisted := hnext.acknowledged j acknowledged ((hother hji).mpr hj)
      rw [Threads.move_shared, hinstalled] at hlisted
      exact (hlists _).mp hlisted
    · intro hnot
      refine hc'.enforced fun j answer hj => ?_
      rw [Threads.move_shared, hinstalled, hlists]
      by_cases hji : j = i
      · subst hji
        rw [Threads.move_locals_self] at hj
        cases hj
        exact hown
      · exact hnot rfl certificate crlDer taken hpc j answer ((hother hji).mp hj)

/-- Requests before their first step, on a server whose acceptor has the revoked records of the
store, as a start of the server leaves it. -/
structure RevocationStart (initial : Records) (c : Threads ι Node RevokePc) : Prop where
  records_eq : c.shared.store.records = initial
  listed : ∀ id record, initial.lookup id = some record → record.revoked = true →
    c.shared.installed.Lists record.serialNumber
  received : ∀ i, ∃ id reason, c.locals i = .received id reason

omit [DecidableEq ι] in
theorem RevocationStart.invariant (h : RevocationStart initial c) :
    RevocationInvariant initial c := by
  refine ⟨⟨⟨?_, ?_⟩, fun i => ?_⟩, fun serialNumber hr => Or.inl ?_⟩
  · rw [h.records_eq]
    exact .refl initial
  · rintro serialNumber ⟨id, record, hrecord, hrevoked, hserial⟩
    obtain ⟨serial, hmem, hdecodes⟩ := h.listed id record hrecord hrevoked
    exact ⟨serial, hmem, hserial.symm.trans hdecodes⟩
  · obtain ⟨id, reason, hi⟩ := h.received i
    rw [hi]
    trivial
  · rwa [h.records_eq] at hr

omit [DecidableEq ι] in
theorem RevocationStart.enforced (h : RevocationStart initial c) : Enforced c := by
  refine h.invariant.enforced fun i certificate hi => ?_
  obtain ⟨id, reason, hreceived⟩ := h.received i
  rw [hreceived] at hi
  cases hi

/-- **Acknowledged revocations under concurrency.** In a run of any number of requests, every
acknowledged revocation is enforced in every state, and all revocations are when all requests
have finished, exactly when no installation overtakes an acknowledged revocation: what was
acknowledged before the installation was revoked before the snapshot. -/
theorem enforced_iff_notOvertaken (hstart : RevocationStart initial c)
    (run : concurrentRevocation.Run c c') :
    run.AllStates Enforced ↔ run.AllSteps NotOvertaken := by
  refine run.allStates_iff_allSteps revocationInvariant_step ?_ hstart.invariant hstart.enforced
  intro u a v hu henforced hstep
  exact enforced_step_iff hu henforced hstep

/-- No record is revoked. -/
def Records.NoneRevoked (records : Records) : Prop :=
  ∀ id record, records.lookup id = some record → record.revoked = false

theorem Records.noneRevoked_empty : Records.NoneRevoked ∅ :=
  fun id record hrecord => by simp at hrecord

theorem Records.NoneRevoked.insertRecord (h : records.NoneRevoked) {record : CertificateRecord}
    (hrecord : record.revoked = false) : (records.insertRecord record).NoneRevoked := by
  intro id other hother
  rw [Records.insertRecord, HashMap.lookup_insert_eq_ite] at hother
  split_ifs at hother
  · cases hother
    exact hrecord
  · exact h id other hother

omit [DecidableEq ι] in
theorem RevocationStart.of_noneRevoked (h : c.shared.store.records.NoneRevoked)
    (hreceived : ∀ i, ∃ id reason, c.locals i = .received id reason) :
    RevocationStart c.shared.store.records c :=
  ⟨rfl, fun id record hrecord hrevoked => by simp [h id record hrecord] at hrevoked, hreceived⟩

/-- Two requests and what they share. -/
def twoRequests (node : Node) (first second : RevokePc) : Threads Bool Node RevokePc :=
  ⟨node, fun i => bif i then second else first⟩

theorem twoRequests_first {second : RevokePc} (h : RevokeStep node pc action node' pc') :
    concurrentRevocation.step (twoRequests node pc second) (false, action)
      (twoRequests node' pc' second) := interleave_first h

theorem twoRequests_second {first : RevokePc} (h : RevokeStep node pc action node' pc') :
    concurrentRevocation.step (twoRequests node first pc) (true, action)
      (twoRequests node' first pc') := interleave_second h

/-- The server after it issued two certificates, with the serial numbers ten and eleven. -/
def twoIssuedNode : Node :=
  (HttpApi.handle issuedNode
    (.issue ⟨"client", [], [], true, false⟩ (.signed 2 0 "0b" "" 0) none)).2

/-- Two requests before their first step. -/
def bothReceived : Threads Bool Node RevokePc :=
  twoRequests twoIssuedNode (.received 1 none) (.received 2 none)

theorem noneRevoked_twoIssuedNode : twoIssuedNode.store.records.NoneRevoked :=
  (Records.noneRevoked_empty.insertRecord rfl).insertRecord rfl

theorem revocationStart_bothReceived :
    RevocationStart twoIssuedNode.store.records bothReceived :=
  RevocationStart.of_noneRevoked (c := bothReceived) noneRevoked_twoIssuedNode
    (Bool.rec ⟨1, none, rfl⟩ ⟨2, none, rfl⟩)

theorem notOvertaken_first {second : RevokePc} (h : RevokeStep node pc action node' pc')
    (haction : action ≠ .install) :
    (concurrentRevocation.restrict NotOvertaken).step (twoRequests node pc second) (false, action)
      (twoRequests node' pc' second) :=
  ⟨fun hinstall => absurd hinstall haction, twoRequests_first h⟩

theorem notOvertaken_second {first : RevokePc} (h : RevokeStep node pc action node' pc')
    (haction : action ≠ .install) :
    (concurrentRevocation.restrict NotOvertaken).step (twoRequests node first pc) (true, action)
      (twoRequests node' first pc') :=
  ⟨fun hinstall => absurd hinstall haction, twoRequests_second h⟩

/-- Both requests mark their records before either has the snapshot taken, so that each list has
both serial numbers; the one that took its snapshot last installs first. -/
theorem enforced_iff_notOvertaken_bothReceived :
    ∃ (c : Threads Bool Node RevokePc) (run : concurrentRevocation.Run bothReceived c),
      (∃ certificate, c.locals false = .answered certificate ∧
        certificate.serialNumber = "0a") ∧
      (∃ certificate, c.locals true = .answered certificate ∧ certificate.serialNumber = "0b") ∧
      run.AllStates Enforced := by
  have hmark : (concurrentRevocation.restrict NotOvertaken).step bothReceived (false, .mark) _ :=
    notOvertaken_first (@RevokeStep.mark _ _ _ 5 _ _ rfl) (by decide)
  have counted := ((((LTS.Run.nil.snoc _ hmark).snoc (true, .mark)
    (notOvertaken_second (@RevokeStep.mark _ _ _ 6 _ _ rfl) (by decide))).snoc _
    (notOvertaken_first .persist (by decide))).snoc _
    (notOvertaken_second .persist (by decide))).snoc _
    (notOvertaken_first (@RevokeStep.readNumber _ _ true _ rfl) (by decide))
  have snapshots := ((((counted.snoc _
    (notOvertaken_first (.writeNumber (by decide)) (by decide))).snoc _
    (notOvertaken_second (@RevokeStep.readNumber _ _ true _ rfl) (by decide))).snoc _
    (notOvertaken_second (.writeNumber (by decide)) (by decide))).snoc _
    (notOvertaken_first (.snapshot faultlessEnvironment.crl) (by decide))).snoc _
    (notOvertaken_second (.snapshot faultlessEnvironment.crl) (by decide))
  have written := (((snapshots.snoc _
    (notOvertaken_first (@RevokeStep.sign _ _ _ _ _ true _ rfl) (by decide))).snoc _
    (notOvertaken_second (@RevokeStep.sign _ _ _ _ _ true _ rfl) (by decide))).snoc _
    (notOvertaken_first .writeCrl (by decide))).snoc _
    (notOvertaken_second .writeCrl (by decide))
  have installed := written.snoc (true, .install) ⟨?_, twoRequests_second .install⟩
  have run := installed.snoc (false, .install) ⟨?_, twoRequests_first .install⟩
  · exact ⟨_, run.ofRestrict, ⟨_, rfl, rfl⟩, ⟨_, rfl, rfl⟩,
      (enforced_iff_notOvertaken revocationStart_bothReceived _).mpr
        (LTS.Run.allSteps_ofRestrict run)⟩
  -- The second certificate was revoked in the map of the first snapshot.
  · intro _ certificate crlDer taken hwritten i acknowledged hi
    cases hwritten
    cases i with
    | false => cases hi
    | true =>
      cases hi
      exact ⟨2, _, rfl, rfl, rfl⟩
  · intro _ certificate crlDer taken _ i acknowledged hi
    cases i <;> cases hi

/-- The second request is answered between the snapshot of the first and its installation, which
takes the second serial number off the list again. -/
theorem not_enforced_of_overtaking : ∃ (c : Threads Bool Node RevokePc)
    (run : concurrentRevocation.Run bothReceived c),
    RevocationStart twoIssuedNode.store.records bothReceived ∧
      (∃ certificate, c.locals true = .answered certificate ∧
        certificate.serialNumber = "0b" ∧ ¬ c.shared.installed.Lists "0b") ∧
      (∀ i, (c.locals i).Finished) ∧ ¬ run.AllStates Enforced := by
  have hmark : concurrentRevocation.step bothReceived (false, .mark) _ :=
    twoRequests_first (@RevokeStep.mark _ _ _ 5 _ _ rfl)
  have snapshot := ((((LTS.Run.nil.snoc _ hmark).snoc _ (twoRequests_first .persist)).snoc _
    (twoRequests_first (@RevokeStep.readNumber _ _ true _ rfl))).snoc _
    (twoRequests_first (.writeNumber (by decide)))).snoc _
    (twoRequests_first (.snapshot faultlessEnvironment.crl))
  have answered := (((((((snapshot.snoc (true, .mark)
    (twoRequests_second (@RevokeStep.mark _ _ _ 6 _ _ rfl))).snoc _
    (twoRequests_second .persist)).snoc _
    (twoRequests_second (@RevokeStep.readNumber _ _ true _ rfl))).snoc _
    (twoRequests_second (.writeNumber (by decide)))).snoc _
    (twoRequests_second (.snapshot faultlessEnvironment.crl))).snoc _
    (twoRequests_second (@RevokeStep.sign _ _ _ _ _ true _ rfl))).snoc _
    (twoRequests_second .writeCrl)).snoc _ (twoRequests_second .install)
  have run := ((answered.snoc _ (twoRequests_first (@RevokeStep.sign _ _ _ _ _ true _ rfl))).snoc _
    (twoRequests_first .writeCrl)).snoc _ (twoRequests_first .install)
  have hserials : ∀ serial ∈ [[(10 : UInt8)]], hexToBytes "0b" ≠ .returned (some serial) := by
    decide
  refine ⟨_, run, revocationStart_bothReceived, ⟨_, rfl, rfl, ?_⟩, ?_, fun hall => ?_⟩
  · rintro ⟨serial, hmem, hdecodes⟩
    exact hserials serial hmem hdecodes
  · exact Bool.rec trivial trivial
  · obtain ⟨serial, hmem, hdecodes⟩ := hall.last.acknowledged true _ rfl
    exact hserials serial hmem hdecodes

end DaemonPki
