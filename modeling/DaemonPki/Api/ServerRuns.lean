import DaemonPki.Api.CrlNumbers
import DaemonPki.Api.RevocationRuns
import DaemonPki.Api.Server

/-!
# What a client can rely on over runs of the server

Runs of the server (`daemon-pki-api/src/http.rs`, `src/bin/server.rs`) under requests that are
handled one after the other, faults at any step, and restarts. What a client was told has to
outlive all of them. A request reaches the store by one call at most, so what the calls keep in
the map and in the file, the server keeps whether it runs or not.

The lists that are installed one after the other are made from the map, and the map may be ahead
of the file. But a list is only installed after the map was written or read, so what is on a list
is in the file too, and comes back after a restart.

## Main definitions

* `DaemonPki.Request.storeCall`: the call of the store that a request makes.
* `DaemonPki.Server.Durably`: a property of all copies of the records.
* `DaemonPki.ServerEvent.Revokes`, `DaemonPki.CertificateRecord.RevokedBy`.

## Main results

* `DaemonPki.Server.durably_step`: what the calls of the store keep, the server keeps.
* `DaemonPki.issued_of_run`: an issued certificate is not forgotten.
* `DaemonPki.installed_of_run`: a list is followed by one with a higher number that has all of it.
-/

namespace DaemonPki

open Foundation

/-! ### The calls of the store -/

/-- The call of the store that a request makes, if it gets there, and what becomes of the file. -/
def Request.storeCall : Request → Option (StoreCall × Option PersistFault)
  | .issue request (.signed id now serialNumber certificatePem notAfter) fault =>
    some (.insert (HttpApi.issuedRecord request id now serialNumber certificatePem notAfter), fault)
  | .revoke true (some id) (some reason) now fault _ =>
    some (.revoke now id (reason.getD "revoked by operator"), fault)
  | _ => none

def ServerEvent.storeCall : ServerEvent → Option StoreCall
  | .request handled => handled.storeCall.map Prod.fst
  | .restart _ _ => none

/-- A request does to the store what its call does. -/
theorem HttpApi.store_handle (node : Node) (request : Request) :
    (handle node request).2.store =
      match request.storeCall with
      | none => node.store
      | some (call, fault) => (node.store.call fault call).2 := by
  cases request with
  | list authorized iteration => rfl
  | get authorized id => rfl
  | issue request attempt fault =>
    cases attempt with
    | refused status message => rfl
    | signed id now serialNumber certificatePem notAfter =>
      rw [handle, handleIssue]
      rcases hinsert : node.store.insert
        (issuedRecord request id now serialNumber certificatePem notAfter) fault with
        ⟨e | _, store⟩ <;>
      simp only [hinsert, Request.storeCall, CertificateStore.call]
  | revoke authorized id body now fault env =>
    rw [handle]
    rcases authorized with - | -
    · rfl
    rcases id with - | id
    · rfl
    rcases body with - | reason
    · rfl
    rw [handleRevokeCertificate]
    simp only [Request.storeCall, CertificateStore.call, Bool.not_true, Bool.false_eq_true,
      if_false]
    rcases hrevoke : node.store.revoke now id (reason.getD "revoked by operator") fault with
      ⟨e | certificate | certificate, store⟩
    · rfl
    · rfl
    · simp only
      rcases TlsAcceptorManager.refresh_cases env { node with store := store } with
        ⟨result, files, hrefresh, -⟩ | ⟨files, crlDer, hrefresh, -⟩ <;> rw [hrefresh]
      · rcases result with (e | _) | _ <;> rfl

/-- The call of a request that draws a fresh identifier is admissible. -/
theorem Request.admissible_storeCall {node : Node} {request : Request} {call : StoreCall}
    {fault : Option PersistFault} (hfresh : request.Fresh node)
    (h : request.storeCall = some (call, fault)) : call.Admissible node.store.records := by
  unfold Request.storeCall at h
  split at h
  · cases h
    exact ⟨⟨_, _, _, _, _, _, _, _, _, _, _, rfl⟩, hfresh⟩
  · cases h
    trivial
  · cases h

namespace Server

variable {server server' : Server} {event : ServerEvent} {P Q : Records → Prop}

/-- The map of a server that runs has a property, and so has what the file reads as. -/
def Durably (P : Records → Prop) : Server → Prop
  | down file _ => ∃ onDisk, StoreFile.read file = .ok onDisk ∧ P onDisk
  | up node => node.store.Durably P

theorem Durably.onDisk (h : server.Durably P) :
    ∃ onDisk, StoreFile.read server.file = .ok onDisk ∧ P onDisk := by
  cases server with
  | down file crlFiles => exact h
  | up node => exact h.2

/-- **What the calls of the store keep, the server keeps**, in the map and in the file. The
property may change with the step, so that it can speak of the steps before. -/
theorem durably_step (hPQ : ∀ records, P records → Q records)
    (hcall : ∀ call records changed, event.storeCall = some call → call.Admissible records →
      call.change records = some changed → P records → Q changed)
    (hstep : ServerStep server event server') (h : server.Durably P) : server'.Durably Q := by
  cases hstep with
  | @request node request hfresh =>
    obtain ⟨hmemory, onDisk, hread, hdisk⟩ := h
    rw [Durably, HttpApi.store_handle]
    cases hstore : request.storeCall with
    | none => exact ⟨hPQ _ hmemory, onDisk, hread, hPQ _ hdisk⟩
    | some calls =>
      obtain ⟨call, fault⟩ := calls
      simp only
      cases hchange : call.change node.store.records with
      | none =>
        rw [CertificateStore.call_of_change_eq_none hchange]
        exact ⟨hPQ _ hmemory, onDisk, hread, hPQ _ hdisk⟩
      | some changed =>
        have hchanged : Q changed := hcall call node.store.records changed
          (by rw [ServerEvent.storeCall, hstore, Option.map_some])
          (Request.admissible_storeCall hfresh hstore) hchange hmemory
        rw [CertificateStore.call_of_change_eq_some hchange]
        rcases CertificateStore.persist_cases { node.store with records := changed } fault with
          hp | ⟨e, hp⟩ <;> rw [hp]
        · exact ⟨hchanged, changed, rfl, hchanged⟩
        · exact ⟨hchanged, onDisk, hread, hPQ _ hdisk⟩
  | restart _ opens env =>
    obtain ⟨onDisk, hread, hdisk⟩ := h.onDisk
    rcases server.restart_cases opens env with
      ⟨files, hrestart⟩ | ⟨records, files, crlDer, crlNumber, hrecords, hrestart, -⟩ <;>
      rw [hrestart]
    · exact ⟨onDisk, hread, hPQ _ hdisk⟩
    · obtain rfl : onDisk = records := Except.ok.inj (hread.symm.trans hrecords)
      exact ⟨hPQ _ hdisk, onDisk, hread, hPQ _ hdisk⟩

/-- The records stay coherent. -/
theorem coherent_step (hstep : ServerStep server event server')
    (h : server.Durably Records.Coherent) : server'.Durably Records.Coherent :=
  durably_step (fun _ => id) (fun _ _ _ _ => Records.coherent_change) hstep h

end Server

/-! ### Issued certificates -/

/-- The event is a request to revoke the certificate that reaches the store. -/
def ServerEvent.Revokes (id : Uuid) (now : OffsetDateTime) (reason : String)
    (event : ServerEvent) : Prop :=
  event.storeCall = some (.revoke now id reason)

/-- The record is the one that was issued, or one of the requests of the run has revoked it. -/
def CertificateRecord.RevokedBy {start server : Server} (run : serverSystem.Run start server)
    (issued record : CertificateRecord) : Prop :=
  record = issued ∨ ∃ now reason,
    run.SomeStep (fun _ event => event.Revokes issued.id now reason) ∧
      record = Records.markRevoked now reason issued

namespace Records

variable {start server server' : Server} {run : serverSystem.Run start server}
  {issued : CertificateRecord}

/-- The map has the certificate, revoked by the run or not. -/
def HasIssued (run : serverSystem.Run start server) (issued : CertificateRecord)
    (records : Records) : Prop :=
  ∃ record, records.lookup issued.id = some record ∧ issued.RevokedBy run record

theorem HasIssued.snoc {records : Records} (h : records.HasIssued run issued)
    (event : ServerEvent) (hstep : serverSystem.step server event server') :
    records.HasIssued (run.snoc event hstep) issued := by
  obtain ⟨record, hrecord, rfl | ⟨now, reason, hrevokes, rfl⟩⟩ := h
  · exact ⟨record, hrecord, Or.inl rfl⟩
  · exact ⟨_, hrecord, Or.inr ⟨now, reason, Or.inl hrevokes, rfl⟩⟩

/-- A call leaves the certificate as it is, or it is a request to revoke it. -/
theorem HasIssued.change {records changed : Records} {call : StoreCall} {event : ServerEvent}
    (hstep : serverSystem.step server event server') (hevent : event.storeCall = some call)
    (hcall : call.Admissible records) (hchange : call.change records = some changed)
    (h : records.HasIssued run issued) : changed.HasIssued (run.snoc event hstep) issued := by
  obtain ⟨record, hrecord, hrevoked⟩ := h
  cases call with
  | insert other =>
    cases hchange
    have hne : issued.id ≠ other.id := fun e => by
      rw [e, hcall.2] at hrecord
      cases hrecord
    refine HasIssued.snoc ⟨record, ?_, hrevoked⟩ event hstep
    exact (Finmap.lookup_insert_of_ne records hne).trans hrecord
  | revoke now id reason =>
    obtain ⟨⟨updated, records'⟩, hrevoke, rfl⟩ := Option.map_eq_some_iff.mp hchange
    obtain ⟨old, hold, rfl, rfl⟩ := revokeRecord_eq_some hrevoke
    by_cases hid : id = issued.id
    · subst hid
      obtain rfl : old = record := Option.some.inj (hold.symm.trans hrecord)
      refine ⟨_, Finmap.lookup_insert _, ?_⟩
      rcases hrevoked with rfl | ⟨now', reason', hrevokes, rfl⟩
      · exact Or.inr ⟨now, reason, Or.inr hevent, rfl⟩
      · refine Or.inr ⟨now', reason', Or.inl hrevokes, ?_⟩
        exact markRevoked_of_revoked (revoked_markRevoked now' reason' issued) now reason
    · refine HasIssued.snoc ⟨record, ?_, hrevoked⟩ event hstep
      exact (Finmap.lookup_insert_of_ne records (Ne.symm hid)).trans hrecord
  | remove id => exact hcall.elim

end Records

/-- An issuance that is answered with 201 has its record in the map and in the file. -/
theorem HttpApi.durably_of_issue {node node' : Node} {request : IssueCertificateRequest}
    {id : Uuid} {now : OffsetDateTime} {serialNumber certificatePem : String}
    {notAfter : OffsetDateTime} {fault : Option PersistFault} {response : HttpResponse}
    (h : handle node
        (.issue request (.signed id now serialNumber certificatePem notAfter) fault) =
      (.returned response, node')) (hok : response.status = 201) :
    node'.store.Durably fun records => records.lookup id =
      some (issuedRecord request id now serialNumber certificatePem notAfter) := by
  rw [handle, handleIssue, CertificateStore.insert] at h
  rcases CertificateStore.persist_cases { node.store with
    records := node.store.records.insertRecord
      (issuedRecord request id now serialNumber certificatePem notAfter) } fault with
    hp | ⟨e, hp⟩ <;> rw [hp] at h <;> cases h
  · exact ⟨Finmap.lookup_insert _, _, rfl, Finmap.lookup_insert _⟩
  · exact absurd hok (by simp)

/-- What an authorized client is told about a certificate: the record, when it asks for it and in
the list of all, in whatever order the table is visited. -/
def Node.Tells (node : Node) (id : Uuid) (record : CertificateRecord) : Prop :=
  HttpApi.handle node (.get true (some id)) = (.returned ⟨200, .certificate record⟩, node) ∧
    ∀ iteration, ∃ records, record ∈ records ∧
      HttpApi.handle node (.list true iteration) = (.returned ⟨200, .certificates records⟩, node)

theorem Node.tells_of_lookup {node : Node} {id : Uuid} {record : CertificateRecord}
    (h : node.store.records.lookup id = some record) : node.Tells id record := by
  refine ⟨?_, fun iteration => ⟨_, Records.mem_list.mpr ⟨id, h⟩, rfl⟩⟩
  have hget : node.store.get id = some record := h
  rw [HttpApi.handle, HttpApi.handleGetCertificate, hget]
  rfl

/-- **An issued certificate is not forgotten.** Once an issuance is answered with 201, at the end
of every further run of requests and restarts, with faults at any step, the store can be read and
has the record of the certificate, in the file and, when the server runs, in the map, as it was
issued or as one of the requests of the run has revoked it; and this is what an authorized client
is told. -/
theorem issued_of_run {node node' : Node} {request : IssueCertificateRequest} {id : Uuid}
    {now : OffsetDateTime} {serialNumber certificatePem : String} {notAfter : OffsetDateTime}
    {fault : Option PersistFault} {response : HttpResponse} {server : Server}
    (hissue : HttpApi.handle node
        (.issue request (.signed id now serialNumber certificatePem notAfter) fault) =
      (.returned response, node')) (hok : response.status = 201)
    (run : serverSystem.Run (.up node') server) :
    (∃ onDisk record, StoreFile.read server.file = .ok onDisk ∧
      onDisk.lookup id = some record ∧ (HttpApi.issuedRecord request id now serialNumber
        certificatePem notAfter).RevokedBy run record) ∧
    ∀ reached, server = .up reached → ∃ record, reached.Tells id record ∧
      (HttpApi.issuedRecord request id now serialNumber certificatePem notAfter).RevokedBy run
        record := by
  have hdurably : server.Durably (Records.HasIssued run
      (HttpApi.issuedRecord request id now serialNumber certificatePem notAfter)) := by
    induction run with
    | nil =>
      obtain ⟨hmemory, onDisk, hread, hdisk⟩ := HttpApi.durably_of_issue hissue hok
      exact ⟨⟨_, hmemory, Or.inl rfl⟩, onDisk, hread, ⟨_, hdisk, Or.inl rfl⟩⟩
    | snoc run event hstep ih =>
      refine Server.durably_step (fun records h => h.snoc event hstep) ?_ hstep ih
      intro call records changed hevent hcall hchange h
      exact h.change hstep hevent hcall hchange
  constructor
  · obtain ⟨onDisk, hread, record, hrecord, hrevoked⟩ := hdurably.onDisk
    exact ⟨onDisk, record, hread, hrecord, hrevoked⟩
  · rintro reached rfl
    obtain ⟨record, hrecord, hrevoked⟩ := hdurably.1
    exact ⟨record, Node.tells_of_lookup hrecord, hrevoked⟩

/-- A request to revoke the certificate that fails at the renaming. -/
def failedRevocation : Request :=
  .revoke true (some 1) (some none) 5 (some .rename) faultlessEnvironment

/-- After the certificate was issued, its revocation fails, and the server is started again. -/
def failedRevocationRun : serverSystem.Run (.up issuedNode)
    ((Server.up (HttpApi.handle issuedNode failedRevocation).2).restart true
      faultlessEnvironment) :=
  (LTS.Run.nil.snoc (.request failedRevocation) (ServerStep.request failedRevocation trivial)).snoc
    (.restart true faultlessEnvironment) (ServerStep.restart _ _ _)

/-- The client learns of the certificate again; the revocation was not acknowledged, and may be
lost. -/
theorem issued_of_run_failedRevocation : ∃ reached record,
    (Server.up (HttpApi.handle issuedNode failedRevocation).2).restart true
        faultlessEnvironment = .up reached ∧
      reached.Tells 1 record ∧ (HttpApi.issuedRecord ⟨"workload", [], [], true, false⟩ 1 0 "0a" ""
        0).RevokedBy failedRevocationRun record := by
  have hissue : HttpApi.handle startedNode
      (.issue ⟨"workload", [], [], true, false⟩ (.signed 1 0 "0a" "" 0) none) =
        (.returned ⟨201, .issued "" "Daemon PKI Intermediate CA"
          ⟨"workload", [], [], true, false⟩⟩, issuedNode) := rfl
  obtain ⟨record, htells, hrevoked⟩ := (issued_of_run hissue rfl failedRevocationRun).2 _ rfl
  exact ⟨_, record, rfl, htells, hrevoked⟩

/-! ### The lists that are installed -/

/-- What the signer is handed for an entry, when its serial number can be decoded. -/
def CrlEntry.cert (entry : CrlEntry) : Option RevokedCertParams :=
  match hexToBytes entry.serialNumber with
  | .returned (some serialNumber) =>
    some ⟨serialNumber, entry.revokedAt, some (mapReason entry.reason), none⟩
  | _ => none

theorem CertificateRevocationList.revokedCertParams_eq_filterMap {entries : List CrlEntry}
    {certs : List RevokedCertParams} (h : revokedCertParams entries = .returned (.ok certs)) :
    certs = entries.filterMap CrlEntry.cert := by
  induction entries generalizing certs with
  | nil =>
    cases h
    rfl
  | cons entry entries ih =>
    rw [revokedCertParams] at h
    split at h
    · cases h
    · cases h
    next serialNumber hserial =>
      split at h
      next rest hrest =>
        cases h
        have hcert : entry.cert =
            some ⟨serialNumber, entry.revokedAt, some (mapReason entry.reason), none⟩ := by
          rw [CrlEntry.cert, hserial]
        rw [List.filterMap_cons_some hcert, ← ih hrest]
      next hfailed => exact absurd h (hfailed certs)

namespace Records

/-- The map has a revoked record that is on a list as the certificate, whenever the list is
made. -/
def Lists (records : Records) (cert : RevokedCertParams) : Prop :=
  ∃ id record, records.HasRevoked id record ∧
    ∀ now, (CrlManager.revocationEntry now record).cert = some cert

/-- The entry of a record with a time of its revocation does not depend on the clock. -/
theorem revocationEntry_congr {record : CertificateRecord} (h : record.Coherent)
    (hrevoked : record.revoked = true) (now now' : OffsetDateTime) :
    CrlManager.revocationEntry now record = CrlManager.revocationEntry now' record := by
  obtain ⟨revokedAt, hrevokedAt⟩ := Option.isSome_iff_exists.mp (h.revokedAt.mp hrevoked)
  simp only [CrlManager.revocationEntry, CrlManager.revocationRecord, hrevokedAt,
    Option.getD_some]

/-- A signed list has the certificates of the revoked records. -/
theorem mem_revokedCerts_iff {env : CrlEnvironment} {records : Records} {crlNumber : ℕ}
    {signs : Bool} {der : CertificateRevocationListParams} (hcoherent : records.Coherent)
    (h : (CrlManager.revocationList env records).signedDer crlNumber signs =
      .returned (.ok der)) (cert : RevokedCertParams) :
    cert ∈ der.revokedCerts ↔ records.Lists cert := by
  obtain ⟨-, certs, hcerts, rfl⟩ := CertificateRevocationList.signedDer_eq_ok_iff.mp h
  rw [CertificateRevocationList.revokedCertParams_eq_filterMap hcerts, List.mem_filterMap]
  constructor
  · rintro ⟨entry, hentry, hcert⟩
    obtain ⟨id, record, hrecord, hrevoked, rfl⟩ := CrlManager.mem_entries_iff.mp hentry
    refine ⟨id, record, ⟨hrecord, hrevoked⟩, fun now => ?_⟩
    rw [revocationEntry_congr (hcoherent id record hrecord) hrevoked now env.now, hcert]
  · rintro ⟨id, record, ⟨hrecord, hrevoked⟩, hcert⟩
    exact ⟨_, CrlManager.mem_entries_iff.mpr ⟨id, record, hrecord, hrevoked, rfl⟩, hcert env.now⟩

theorem Lists.change {records changed : Records} {call : StoreCall} {cert : RevokedCertParams}
    (hcall : call.Admissible records) (hchange : call.change records = some changed)
    (h : records.Lists cert) : changed.Lists cert := by
  obtain ⟨id, record, hrevoked, hcert⟩ := h
  exact ⟨id, record, hasRevoked_change hcall hchange hrevoked, hcert⟩

end Records

/-- The number in the counter file is not below what it was, as far as it can be read. -/
def CrlFiles.NotBelow (files files' : CrlFiles) : Prop :=
  ∀ n, CrlManager.currentCrlNumber files'.number true = .ok n →
    ∃ current, CrlManager.currentCrlNumber files.number true = .ok current ∧ current ≤ n

theorem CrlFiles.NotBelow.refl (files : CrlFiles) : files.NotBelow files :=
  fun n hn => ⟨n, hn, le_rfl⟩

theorem CrlManager.notBelow_generateAndPersist (env : CrlEnvironment) (records : Records)
    (files : CrlFiles) : files.NotBelow (generateAndPersist env records files).2 := by
  intro n hn
  rw [number_generateAndPersist] at hn
  exact le_nextCrlNumber (Prod.eta _).symm hn

/-- The node has a new list, made from its map, which is also in its file, with the number after
the one in the counter file. -/
structure Node.Installs (files : CrlFiles) (node : Node) : Prop where
  read : StoreFile.read node.store.file = .ok node.store.records
  signed : ∃ (env : CrlEnvironment) (current : ℕ),
    CrlManager.currentCrlNumber files.number true = .ok current ∧ current + 1 < 2 ^ 64 ∧
    (CrlManager.revocationList env node.store.records).signedDer (current + 1) env.signs =
      .returned (.ok node.installed) ∧
    node.crlFiles.number = some (toString (current + 1))

theorem Node.installs_of_generateAndPersist {env : CrlEnvironment} {records : Records}
    {file : Option StoreFile} {files files' : CrlFiles} {der : CertificateRevocationListParams}
    (hread : StoreFile.read file = .ok records)
    (h : CrlManager.generateAndPersist env records files = (.returned (.ok der), files')) :
    (Node.mk ⟨records, file⟩ files' der).Installs files := by
  obtain ⟨current, hcurrent, hlt, hsigned, rfl⟩ := CrlManager.generateAndPersist_eq_ok h
  exact ⟨hread, env, current, CrlManager.currentCrlNumber_of_reads hcurrent, hlt, hsigned, rfl⟩

/-- A refresh keeps the list, or installs a new one; the counter does not fall. -/
theorem TlsAcceptorManager.refresh_installs (env : RefreshEnvironment) {node : Node}
    (hread : StoreFile.read node.store.file = .ok node.store.records) :
    node.crlFiles.NotBelow (refresh env node).2.crlFiles ∧
      ((refresh env node).2.installed = node.installed ∨
        (refresh env node).2.Installs node.crlFiles) := by
  have hcounter : node.crlFiles.NotBelow (refresh env node).2.crlFiles := by
    have hfiles : (refresh env node).2.crlFiles =
        (CrlManager.generateAndPersist env.crl node.store.records node.crlFiles).2 := by
      rw [refresh]
      rcases CrlManager.generateAndPersist env.crl node.store.records node.crlFiles with
        ⟨(e | crlDer) | _, files⟩
      · rfl
      · simp only
        split_ifs <;> rfl
      · rfl
    rw [hfiles]
    exact CrlManager.notBelow_generateAndPersist _ _ _
  refine ⟨hcounter, ?_⟩
  rcases refresh_cases env node with ⟨result, files, hrefresh, -⟩ |
    ⟨files, crlDer, hrefresh, hgenerate⟩ <;> rw [hrefresh]
  · exact Or.inl rfl
  · exact Or.inr (Node.installs_of_generateAndPersist hread hgenerate)

/-- A request keeps the list, or installs a new one; the counter does not fall. -/
theorem HttpApi.handle_installs (node : Node) (request : Request) :
    node.crlFiles.NotBelow (handle node request).2.crlFiles ∧
      ((handle node request).2.installed = node.installed ∨
        (handle node request).2.Installs node.crlFiles) := by
  have hkept {node' : Node} (hfiles : node'.crlFiles = node.crlFiles)
      (hinstalled : node'.installed = node.installed) :
      node.crlFiles.NotBelow node'.crlFiles ∧
        (node'.installed = node.installed ∨ node'.Installs node.crlFiles) :=
    ⟨hfiles ▸ .refl _, Or.inl hinstalled⟩
  cases request with
  | list authorized iteration => exact hkept rfl rfl
  | get authorized id => exact hkept rfl rfl
  | issue request attempt fault =>
    cases attempt with
    | refused status message => exact hkept rfl rfl
    | signed id now serialNumber certificatePem notAfter =>
      rw [handle, handleIssue]
      rcases node.store.insert
        (issuedRecord request id now serialNumber certificatePem notAfter) fault with
        ⟨e | _, store⟩ <;> exact hkept rfl rfl
  | revoke authorized id body now fault env =>
    rw [handle]
    rcases authorized with - | -
    · exact hkept rfl rfl
    rcases id with - | id
    · exact hkept rfl rfl
    rcases body with - | reason
    · exact hkept rfl rfl
    rw [handleRevokeCertificate]
    simp only [Bool.not_true, Bool.false_eq_true, if_false]
    rcases hrevoke : node.store.revoke now id (reason.getD "revoked by operator") fault with
      ⟨e | certificate | certificate, store⟩
    · exact hkept rfl rfl
    · exact hkept rfl rfl
    · obtain ⟨records, -, rfl⟩ := CertificateStore.revoke_eq_some hrevoke
      have hread : StoreFile.read (some (.json records)) = .ok records := rfl
      have hrefreshed := @TlsAcceptorManager.refresh_installs env
        { node with store := ⟨records, some (.json records)⟩ } hread
      rcases hrefresh : TlsAcceptorManager.refresh env
        { node with store := ⟨records, some (.json records)⟩ } with ⟨(e | _) | _, node'⟩ <;>
        rw [hrefresh] at hrefreshed <;> simp only [hrefresh] <;> exact hrefreshed

namespace Server

variable {server server' : Server} {event : ServerEvent}

/-- **A step keeps the list, or installs a new one**; the counter does not fall. -/
theorem step_installs (hstep : ServerStep server event server') :
    server.crlFiles.NotBelow server'.crlFiles ∧ ∀ node', server' = up node' →
      (∃ node, server = up node ∧ node'.installed = node.installed) ∨
        node'.Installs server.crlFiles := by
  cases hstep with
  | @request node request hfresh =>
    obtain ⟨hcounter, hinstalls⟩ := HttpApi.handle_installs node request
    refine ⟨hcounter, ?_⟩
    rintro node' ⟨⟩
    exact hinstalls.imp_left fun heq => ⟨node, rfl, heq⟩
  | restart _ opens env =>
    unfold restart
    split
    next records hread =>
      have hcounter := CrlManager.notBelow_generateAndPersist env.crl records server.crlFiles
      split
      next crlDer files hgenerate =>
        rw [hgenerate] at hcounter
        split_ifs
        · refine ⟨hcounter, ?_⟩
          rintro node' ⟨⟩
          exact Or.inr (Node.installs_of_generateAndPersist hread hgenerate)
        · exact ⟨hcounter, by rintro node' ⟨⟩⟩
      next outcome files hfailed hgenerate =>
        rw [hgenerate] at hcounter
        exact ⟨hcounter, by rintro node' ⟨⟩⟩
    · exact ⟨.refl _, by rintro node' ⟨⟩⟩

end Server

/-- A list that takes the place of another: it has a higher number, or is the same, and has all
certificates of the other, with their times and their reasons. -/
structure CertificateRevocationListParams.Succeeds
    (list' list : CertificateRevocationListParams) : Prop where
  number : list' = list ∨ list.crlNumber < list'.crlNumber
  certs : list.revokedCerts ⊆ list'.revokedCerts

namespace Server

variable {server server' : Server} {event : ServerEvent} {list : CertificateRevocationListParams}

/-- The server goes on from a list: its counter is not below the number of the list, the
certificates of the list are revoked in the map and in the file, and the list that is installed
succeeds it. -/
structure Follows (list : CertificateRevocationListParams) (server : Server) : Prop where
  counter : ∀ n, CrlManager.currentCrlNumber server.crlFiles.number true = .ok n →
    list.crlNumber ≤ n
  coherent : server.Durably Records.Coherent
  certs : server.Durably fun records => ∀ cert ∈ list.revokedCerts, records.Lists cert
  installed : ∀ node, server = up node → node.installed.Succeeds list

/-- A server goes on from the list that it installs. -/
theorem follows_of_installs {files : CrlFiles} {node : Node} (h : node.Installs files)
    (hcoherent : (up node).Durably Records.Coherent) :
    Follows node.installed (up node) := by
  obtain ⟨env, current, -, hlt, hsigned, hnumber⟩ := h.signed
  have hlists : ∀ cert ∈ node.installed.revokedCerts, node.store.records.Lists cert :=
    fun cert => (Records.mem_revokedCerts_iff hcoherent.1 hsigned cert).mp
  have hcrlNumber : node.installed.crlNumber = current + 1 := by
    obtain ⟨-, certs, -, heq⟩ := CertificateRevocationList.signedDer_eq_ok_iff.mp hsigned
    rw [heq]
  refine ⟨fun n hn => ?_, hcoherent, ⟨hlists, _, h.read, hlists⟩, ?_⟩
  · rw [crlFiles, hnumber, CrlManager.currentCrlNumber_toString hlt] at hn
    rw [hcrlNumber]
    exact (Except.ok.inj hn).le
  · rintro node' ⟨⟩
    exact ⟨Or.inl rfl, List.Subset.refl _⟩

/-- **A step goes on from every list that the server went on from.** -/
theorem Follows.step (hstep : ServerStep server event server') (h : server.Follows list) :
    server'.Follows list := by
  obtain ⟨hcounter, hinstalls⟩ := step_installs hstep
  have hcoherent := coherent_step hstep h.coherent
  have hcerts : server'.Durably fun records => ∀ cert ∈ list.revokedCerts, records.Lists cert :=
    durably_step (fun _ => id) (fun call records changed _ hcall hchange hlists cert hcert =>
      (hlists cert hcert).change hcall hchange) hstep h.certs
  refine ⟨fun n hn => ?_, hcoherent, hcerts, fun node' hup => ?_⟩
  · obtain ⟨current, hcurrent, hle⟩ := hcounter n hn
    exact (h.counter current hcurrent).trans hle
  · rcases hinstalls node' hup with ⟨node, hnode, hsame⟩ | hnew
    · exact hsame ▸ h.installed node hnode
    · subst hup
      obtain ⟨env, current, hcurrent, hlt, hsigned, -⟩ := hnew.signed
      obtain ⟨-, certs, -, heq⟩ := CertificateRevocationList.signedDer_eq_ok_iff.mp hsigned
      refine ⟨Or.inr ?_, fun cert hcert => ?_⟩
      · rw [heq]
        exact Nat.lt_succ_of_le (h.counter current hcurrent)
      · exact (Records.mem_revokedCerts_iff hcoherent.1 hsigned cert).mpr (hcerts.1 cert hcert)

/-- The records are coherent, and a server that runs goes on from its own list. -/
structure Current (server : Server) : Prop where
  coherent : server.Durably Records.Coherent
  follows : ∀ node, server = up node → server.Follows node.installed

theorem Current.step (hstep : ServerStep server event server') (h : server.Current) :
    server'.Current := by
  have hcoherent := coherent_step hstep h.coherent
  refine ⟨hcoherent, ?_⟩
  rintro node' rfl
  rcases (step_installs hstep).2 node' rfl with ⟨node, rfl, hsame⟩ | hnew
  · exact hsame ▸ (h.follows node rfl).step hstep
  · exact follows_of_installs hnew hcoherent

end Server

/-- **A list is followed by one with a higher number that has all of it.** In every run from files
with coherent records, and every continuation of it, with faults at any step and restarts: the
list that is installed later is the same as the one before, or has a higher number, and has every
certificate of it with the same time and reason, each of which is revoked in the file. -/
theorem installed_of_run {file : Option StoreFile} {crlFiles : CrlFiles} {records : Records}
    {node node' : Node} (hread : StoreFile.read file = .ok records)
    (hcoherent : records.Coherent) (run : serverSystem.Run (.down file crlFiles) (.up node))
    (later : serverSystem.Run (.up node) (.up node')) :
    node'.installed.Succeeds node.installed ∧
      ∃ onDisk, StoreFile.read node'.store.file = .ok onDisk ∧
        ∀ cert ∈ node.installed.revokedCerts, onDisk.Lists cert := by
  have hstart : (Server.down file crlFiles).Current :=
    ⟨⟨records, hread, hcoherent⟩, by rintro node ⟨⟩⟩
  have hcurrent : (Server.up node).Current :=
    run.invariant (fun _ _ _ h hstep => h.step hstep) hstart
  have hfollows : (Server.up node').Follows node.installed :=
    later.invariant (fun _ _ _ h hstep => h.step hstep) (hcurrent.follows node rfl)
  exact ⟨hfollows.installed node' rfl, hfollows.certs.2⟩

def operatorRevocation : Request :=
  .revoke true (some 1) (some none) 5 none faultlessEnvironment

/-- The server after it revoked its certificate. -/
def revokedNode : Node := (HttpApi.handle issuedNode operatorRevocation).2

def revokedRun : serverSystem.Run (.down none ⟨none, none⟩) (.up revokedNode) :=
  issuedRun.snoc (.request operatorRevocation) (ServerStep.request operatorRevocation trivial)

def restartedRun : serverSystem.Run (.up revokedNode)
    ((Server.up revokedNode).restart true faultlessEnvironment) :=
  LTS.Run.nil.snoc (.restart true faultlessEnvironment) (ServerStep.restart _ _ _)

/-- After a restart the certificate is revoked by a list with a higher number. -/
theorem installed_of_run_restarted : ∃ node',
    (Server.up revokedNode).restart true faultlessEnvironment = .up node' ∧
      node'.installed.Succeeds revokedNode.installed ∧
      revokedNode.installed.crlNumber = 2 ∧ node'.installed.crlNumber = 3 := by
  have hcoherent : Records.Coherent ∅ := fun id record h => by
    rw [Finmap.lookup_empty] at h
    cases h
  exact ⟨_, rfl, (installed_of_run rfl hcoherent revokedRun restartedRun).1, rfl, rfl⟩

end DaemonPki
