import DaemonPki.Api.IssuedRecords
import DaemonPki.Api.Startup

/-!
# The certificates signed by the intermediate authority

Three programs sign certificates with the key of the intermediate authority: the service behind
the API (`daemon-pki-api/src/issuance.rs`), the start of the server, which signs a certificate for
the server itself (`daemon-pki-api/src/bin/server.rs`), and the bootstrap of a first client
(`daemon-pki-api/src/bin/bootstrap-client.rs`). The service enters a record of what it issues into
the store, which is what a revocation needs. The other two do not.

## Main definitions

* `DaemonPki.Installation`, `DaemonPki.installation`: one data directory under starts of the
  server, issue requests and runs of `bootstrap-client`, none of which fails.
* `DaemonPki.Records.Revocable`: a revocation puts the serial number on the revocation list.
* `DaemonPki.Installation.Tracked`: every client certificate that was signed is revocable.
* `DaemonPki.SignsByService`: the events in which only the service signs.

## Main results

* `DaemonPki.tracked_of_run`: the certificates stay revocable while only the service signs.
-/

namespace DaemonPki

open Foundation

/-- A certificate that was signed, and what it was signed from. -/
structure SignedCertificate where
  params : CertificateParams
  certificate : Certificate
  deriving DecidableEq, Repr

/-- The certificate is good for client authentication. -/
def SignedCertificate.IsClient (signed : SignedCertificate) : Prop :=
  .clientAuth ∈ signed.params.extendedKeyUsages

/-- The certificate that an issuance that succeeds had signed. -/
def CertificateIssuer.signed (env : IssuerEnvironment) (request : CertificateRequest) :
    Option SignedCertificate :=
  match signedParams env request, issue env request with
  | some params, .ok certificate => some ⟨params, certificate⟩
  | _, _ => none

/-- The certificate that the service had signed for a request. -/
def IssuanceService.signed (env : IssuerEnvironment) (request : IssueCertificateRequest) :
    Option SignedCertificate :=
  match certificateRequest request with
  | .error _ => none
  | .ok toIssue => CertificateIssuer.signed env toIssue

/-- The certificate that a start had signed for the server. Source: `server.rs`, lines 117–126. -/
def serverCertificateSigned (env : ServerCertificateEnvironment) (files : PairFiles) :
    Option SignedCertificate :=
  match files.certificate, files.key with
  | none, none => CertificateIssuer.signed env.issuer serverCertificateRequest
  | _, _ => none

/-- The request of a first client. Source: `bootstrap-client.rs`, lines 76–79. -/
def bootstrapClientRequest : CertificateRequest := .new "daemon-pki-bootstrap-client"

/-! ### One data directory -/

/-- The server with its files, the certificate of the server, the audit trail, and the
certificates signed so far with the key of the intermediate authority. -/
structure Installation where
  server : Server
  serverFiles : PairFiles
  audit : AuditStore
  signed : List SignedCertificate

/-- A start of the server, an issue request that it serves, or a run of `bootstrap-client`. -/
inductive InstallationEvent
  | start (env : ServerCertificateEnvironment) (refresh : RefreshEnvironment)
  | issue (principal : AuthenticatedPrincipal) (request : IssueCertificateRequest)
      (env : IssuanceEnvironment)
  | bootstrap (env : IssuerEnvironment)

/-- What an event that does not fail leads to; `parse` reads a certificate. -/
inductive InstallationStep (parse : List UInt8 → Except String X509Certificate) :
    Installation → InstallationEvent → Installation → Prop
  | start {s : Installation} {env : ServerCertificateEnvironment} {refresh : RefreshEnvironment}
      {pem : String × String} {files : PairFiles} {node : Node}
      (hcertificate : loadOrCreateServerCertificate env s.serverFiles = (.ok pem, files))
      (hserver : s.server.restart true refresh = .up node) :
      InstallationStep parse s (.start env refresh)
        { server := .up node
          serverFiles := files
          audit := ⟨[]⟩
          signed := s.signed ++ (serverCertificateSigned env s.serverFiles).toList }
  | issue {s : Installation} {node : Node} {principal : AuthenticatedPrincipal}
      {request : IssueCertificateRequest} {env : IssuanceEnvironment}
      {response : IssueCertificateResponse × IssuanceAuditEvent} {state : IssuanceState}
      (hserver : s.server = .up node) (hparse : env.parse = parse)
      -- Identifiers are drawn at random.
      (hfresh : node.store.records.lookup env.recordId = none)
      (hissue : IssuanceService.issue .default principal request env ⟨node.store, s.audit, []⟩ =
        (.ok response, state)) :
      InstallationStep parse s (.issue principal request env)
        { server := .up { node with store := state.store }
          serverFiles := s.serverFiles
          audit := state.audit
          signed := s.signed ++ (IssuanceService.signed env.issuer request).toList }
  | bootstrap {s : Installation} {env : IssuerEnvironment} {certificate : Certificate}
      (hissue : CertificateIssuer.issue env bootstrapClientRequest = .ok certificate) :
      InstallationStep parse s (.bootstrap env)
        { s with
          signed := s.signed ++ (CertificateIssuer.signed env bootstrapClientRequest).toList }

/-- One data directory under events that do not fail. -/
def installation (parse : List UInt8 → Except String X509Certificate) :
    LTS Installation InstallationEvent := ⟨InstallationStep parse⟩

namespace Installation

/-- The records of the running server, or those in the file when it does not run. -/
def records (s : Installation) : Records :=
  match s.server with
  | .up node => node.store.records
  | .down file _ =>
    match StoreFile.read file with
    | .ok records => records
    | .error _ => ∅

end Installation

/-! ### Revocable certificates -/

/-- There is a record with the serial number, and its revocation puts it on every list that is
signed afterwards, which can be signed. -/
def Records.Revocable (records : Records) (serial : ℕ) : Prop :=
  ∃ id record, records.lookup id = some record ∧ record.serialNumber = serialText serial ∧
    ∀ now reason, ∃ updated records',
      records.revokeRecord now id reason = some (updated, records') ∧
      ∀ env crlNumber, ∃ der,
        (CrlManager.revocationList env records').signedDer crlNumber true = .returned (.ok der) ∧
        toBytesBe serial ∈ der.serials

/-- Every client certificate that was signed can be revoked. -/
def Installation.Tracked (parse : List UInt8 → Except String X509Certificate)
    (s : Installation) : Prop :=
  ∀ signed ∈ s.signed, signed.IsClient →
    ∃ parsed, parse signed.certificate.der = .ok parsed ∧ s.records.Revocable parsed.serial

/-- Only the service signs: the start finds a certificate of the server, and there is no run of
`bootstrap-client`. -/
def SignsByService (s : Installation) : InstallationEvent → Prop
  | .start _ _ => s.serverFiles.certificate.isSome ∧ s.serverFiles.key.isSome
  | .issue _ _ _ => True
  | .bootstrap _ => False

/-- A record of issued ones is revocable. -/
theorem Records.revocable_of_issued {records : Records} {serials : Uuid → ℕ}
    (h : records.Issued serials) {id : Uuid} {record : CertificateRecord} {serial : ℕ}
    (hrecord : records.lookup id = some record)
    (hserial : record.serialNumber = serialText serial) : records.Revocable serial := by
  refine ⟨id, record, hrecord, hserial, fun now reason => ?_⟩
  have hrevoke : records.revokeRecord now id reason =
      some (markRevoked now reason record, records.insert id (markRevoked now reason record)) := by
    rw [revokeRecord, hrecord]
  refine ⟨_, _, hrevoke, fun env crlNumber => ?_⟩
  have hdecodes : ∀ entry ∈ (CrlManager.revocationList env (records.insert id
      (markRevoked now reason record))).entries, ∃ bytes,
      hexToBytes entry.serialNumber = .returned (some bytes) := fun _ hentry =>
    CrlManager.decodes_of_issued (h.revokeRecord hrevoke) hentry
  obtain ⟨certs, hcerts⟩ := CertificateRevocationList.exists_revokedCertParams hdecodes
  obtain ⟨der, hsigned⟩ : ∃ der, (CrlManager.revocationList env (records.insert id
      (markRevoked now reason record))).signedDer crlNumber true = .returned (.ok der) :=
    ⟨_, CertificateRevocationList.signedDer_eq_ok_iff.mpr ⟨rfl, certs, hcerts, rfl⟩⟩
  obtain ⟨bytes, hmem, hbytes⟩ := CrlManager.exists_serial_of_signedDer_revocationList hsigned
    (Finmap.lookup_insert records) (revoked_markRevoked now reason record)
  rw [serialNumber_markRevoked, hserial, hexToBytes_serialText, Outcome.returned.injEq,
    Option.some.injEq] at hbytes
  exact ⟨_, hsigned, hbytes ▸ hmem⟩

/-! ### What the three programs sign -/

theorem CertificateIssuer.signed_of_issue {env : IssuerEnvironment} {request : CertificateRequest}
    {certificate : Certificate} (h : issue env request = .ok certificate) :
    ∃ params, signed env request = some ⟨params, certificate⟩ := by
  obtain ⟨params, hparams, -⟩ := signedParams_of_issue h
  exact ⟨params, by rw [signed, hparams, h]⟩

/-- A certificate that was signed for the service is the one that was delivered. -/
theorem IssuanceService.signed_of_delivers {policy : IssuancePolicy}
    {principal : AuthenticatedPrincipal} {request : IssueCertificateRequest}
    {env : IssuerEnvironment} {certificate : Certificate}
    (h : Delivers policy principal request env certificate) :
    ∃ params, signed env request = some ⟨params, certificate⟩ := by
  obtain ⟨-, -, toIssue, htoIssue, hissue⟩ := h
  obtain ⟨params, hparams⟩ := CertificateIssuer.signed_of_issue hissue
  exact ⟨params, by rw [signed, htoIssue]; exact hparams⟩

/-- A start that finds a certificate of the server signs none. -/
theorem serverCertificateSigned_eq_none {env : ServerCertificateEnvironment} {files : PairFiles}
    (h : files.certificate.isSome) : serverCertificateSigned env files = none := by
  obtain ⟨certificate, hcertificate⟩ := Option.isSome_iff_exists.mp h
  rw [serverCertificateSigned, hcertificate]

/-! ### The invariant -/

/-- **The invariant**: memory and the file agree, all records are those of issued certificates, and
every client certificate that was signed has one. -/
structure Installation.Sound (parse : List UInt8 → Except String X509Certificate)
    (s : Installation) : Prop where
  file : StoreFile.read s.server.file = .ok s.records
  issued : ∃ serials, s.records.Issued serials
  signed : ∀ signed ∈ s.signed, signed.IsClient → ∃ parsed id record,
    parse signed.certificate.der = .ok parsed ∧ s.records.lookup id = some record ∧
      record.serialNumber = serialText parsed.serial

theorem Installation.Sound.tracked {parse : List UInt8 → Except String X509Certificate}
    {s : Installation} (h : s.Sound parse) : s.Tracked parse := by
  intro signed hsigned hclient
  obtain ⟨parsed, id, record, hparsed, hrecord, hserial⟩ := h.signed signed hsigned hclient
  obtain ⟨serials, hissued⟩ := h.issued
  exact ⟨parsed, hparsed, Records.revocable_of_issued hissued hrecord hserial⟩

/-- What a start that comes up has in memory, the file holds. -/
theorem Server.read_of_restart {server : Server} {opens : Bool} {env : RefreshEnvironment}
    {node : Node} (h : server.restart opens env = .up node) :
    StoreFile.read server.file = .ok node.store.records ∧ node.store.file = server.file := by
  rcases server.restart_cases opens env with
    ⟨files, hrestart⟩ | ⟨records, files, crlDer, crlNumber, hread, hrestart, -⟩
  · cases hrestart.symm.trans h
  · cases hrestart.symm.trans h
    exact ⟨hread, rfl⟩

/-- What an insertion that succeeds has in memory, the file holds. -/
theorem CertificateStore.read_of_insert {store store' : CertificateStore}
    {record : CertificateRecord} {fault : Option PersistFault} {id : Uuid}
    (h : store.insert record fault = (.ok id, store')) :
    StoreFile.read store'.file = .ok store'.records := by
  rw [insert] at h
  rcases persist_cases { store with records := store.records.insertRecord record } fault with
    hp | ⟨e, hp⟩ <;> rw [hp] at h <;> cases h
  rfl

namespace Installation.Sound

variable {parse : List UInt8 → Except String X509Certificate} {s t : Installation}

/-- The invariant of a server that runs is one of its store. -/
theorem of_up {node : Node} {files : PairFiles} {audit : AuditStore}
    {certificates : List SignedCertificate}
    (hfile : StoreFile.read node.store.file = .ok node.store.records)
    (hissued : ∃ serials, node.store.records.Issued serials)
    (hsigned : ∀ signed ∈ certificates, signed.IsClient → ∃ parsed id record,
      parse signed.certificate.der = .ok parsed ∧ node.store.records.lookup id = some record ∧
        record.serialNumber = serialText parsed.serial) :
    Sound parse ⟨.up node, files, audit, certificates⟩ :=
  ⟨hfile, hissued, hsigned⟩

/-- A start that signs no certificate leaves the records as they are. -/
theorem start (h : s.Sound parse) {refresh : RefreshEnvironment} {node : Node} {files : PairFiles}
    {audit : AuditStore} (hserver : s.server.restart true refresh = .up node) :
    Sound parse ⟨.up node, files, audit, s.signed⟩ := by
  obtain ⟨hread, hfile⟩ := Server.read_of_restart hserver
  have hrecords : node.store.records = s.records := Except.ok.inj (hread.symm.trans h.file)
  refine of_up (by rw [hfile, hread]) ?_ ?_ <;> rw [hrecords]
  · exact h.issued
  · exact h.signed

/-- **The service enters what it has signed into the store.** -/
theorem issue (h : s.Sound parse) {node : Node} {policy : IssuancePolicy}
    {principal : AuthenticatedPrincipal} {request : IssueCertificateRequest}
    {env : IssuanceEnvironment} {response : IssueCertificateResponse × IssuanceAuditEvent}
    {state : IssuanceState} (hserver : s.server = .up node) (hparse : env.parse = parse)
    (hfresh : node.store.records.lookup env.recordId = none)
    (hissue : IssuanceService.issue policy principal request env ⟨node.store, s.audit, []⟩ =
      (.ok response, state)) :
    Sound parse ⟨.up { node with store := state.store }, s.serverFiles, state.audit,
      s.signed ++ (IssuanceService.signed env.issuer request).toList⟩ := by
  have hends := IssuanceService.issue_ends policy principal request env ⟨node.store, s.audit, []⟩
  rw [hissue] at hends
  cases hends with
  | @issued certificate parsed id store signed hdelivers hparsed hinsert =>
    have hrecords : s.records = node.store.records := by rw [records, hserver]
    have hstored := CertificateStore.records_of_insert hinsert
    obtain ⟨serials, hissued⟩ := h.issued
    rw [hrecords] at hissued
    refine of_up (CertificateStore.read_of_insert hinsert) (hissued.insert hinsert) ?_
    intro signed hsigned hclient
    rw [hstored]
    rcases List.mem_append.mp hsigned with hold | hnew
    · obtain ⟨parsed', id', record, hparsed', hrecord, hserial⟩ := h.signed signed hold hclient
      rw [hrecords] at hrecord
      refine ⟨parsed', id', record, hparsed', ?_, hserial⟩
      refine (Finmap.lookup_insert_of_ne _ fun hid => ?_).trans hrecord
      rw [hid] at hrecord
      cases hfresh.symm.trans hrecord
    · obtain ⟨params, hparams⟩ := IssuanceService.signed_of_delivers hdelivers
      rw [hparams, Option.toList_some, List.mem_singleton] at hnew
      rw [hnew, ← hparse]
      exact ⟨parsed, env.recordId, _, hparsed, Finmap.lookup_insert _, rfl⟩

/-- **The step lemma**: an event in which only the service signs keeps the invariant. -/
theorem step (h : s.Sound parse) {event : InstallationEvent} (hservice : SignsByService s event)
    (hstep : InstallationStep parse s event t) : t.Sound parse := by
  cases hstep with
  | start hcertificate hserver =>
    rw [serverCertificateSigned_eq_none hservice.1, Option.toList_none, List.append_nil]
    exact h.start hserver
  | issue hserver hparse hfresh hissue => exact h.issue hserver hparse hfresh hissue
  | bootstrap hissue => exact hservice.elim

end Installation.Sound

/-- A data directory before the run: nothing was signed in the run, and the store can be read and
holds the records of issued certificates, if any. -/
structure Installation.Initial (s : Installation) : Prop where
  signed : s.signed = []
  file : StoreFile.read s.server.file = .ok s.records
  issued : ∃ serials, s.records.Issued serials

/-- **The certificates stay revocable while only the service signs**: after every event every
client certificate that was signed has a record, in memory and in the file, whose revocation puts
it on the list. -/
theorem tracked_of_run {parse : List UInt8 → Except String X509Certificate} {s t : Installation}
    (hinitial : s.Initial) (run : (installation parse).Run s t)
    (hservice : run.AllSteps SignsByService) :
    run.AllStates fun u => u.Tracked parse ∧ StoreFile.read u.server.file = .ok u.records := by
  have hsound : s.Sound parse := by
    refine ⟨hinitial.file, hinitial.issued, fun signed hsigned => ?_⟩
    rw [hinitial.signed] at hsigned
    cases hsigned
  have hall := LTS.Run.allStates_of_allSteps
    (fun _ _ _ h hservice hstep => h.step hservice hstep) hsound run hservice
  exact hall.mono fun u h => ⟨h.tracked, h.file⟩

/-! ### A run with, and one without, a certificate of the server -/

/-- An issuer that delivers the same certificate each time. -/
def sampleIssuer : IssuerEnvironment := ⟨fun _ => true, .ok (), fun _ => .ok ⟨"", []⟩⟩

/-- A directory without a store, with the given files of the server. -/
def sampleInstallation (files : PairFiles) : Installation :=
  ⟨.down none ⟨none, none⟩, files, ⟨[]⟩, []⟩

def sampleStart : InstallationEvent :=
  .start ⟨⟨true, true, .completed, .completed⟩, sampleIssuer, "KEY"⟩ faultlessEnvironment

theorem initial_sampleInstallation (files : PairFiles) : (sampleInstallation files).Initial where
  signed := rfl
  file := rfl
  issued := ⟨fun _ => 0, Records.issued_empty _⟩

/-- The server finds its certificate, and issues one. -/
def servedRun := ((LTS.Run.nil (T := installation (IssuanceService.sampleEnvironment none).parse)
    (s := sampleInstallation ⟨some "CERTIFICATE", some "KEY"⟩)).snoc sampleStart
      (.start rfl restart_eq_startedNode)).snoc
    (.issue IssuanceService.samplePrincipal IssuanceService.sampleRequest
      (IssuanceService.sampleEnvironment none)) (.issue rfl rfl rfl rfl)

theorem tracked_of_run_servedRun :
    servedRun.AllStates fun u => u.Tracked (IssuanceService.sampleEnvironment none).parse ∧
      StoreFile.read u.server.file = .ok u.records :=
  tracked_of_run (initial_sampleInstallation _) servedRun ⟨⟨trivial, rfl, rfl⟩, trivial⟩

/-- The first start on a directory without any files, and a run of `bootstrap-client`. -/
def bootstrapRun := ((LTS.Run.nil (T := installation (IssuanceService.sampleEnvironment none).parse)
    (s := sampleInstallation .absent)).snoc sampleStart
      (.start rfl restart_eq_startedNode)).snoc (.bootstrap sampleIssuer) (.bootstrap rfl)

/-- Two client certificates were signed, and there is no record. -/
theorem not_tracked_bootstrapRun : ¬ bootstrapRun.AllStates fun u =>
    u.Tracked (IssuanceService.sampleEnvironment none).parse := by
  intro hall
  obtain ⟨parsed, -, id, record, hrecord, -⟩ := hall.last _ List.mem_cons_self
    (show ExtendedKeyUsagePurpose.clientAuth ∈ [.serverAuth, .clientAuth] by decide)
  cases hrecord

end DaemonPki
