import DaemonPki.Api.IssuedRecords
import DaemonPki.Api.RevocationRuns
import DaemonPki.Foundation.Simulation

/-!
# What the server is for

Seen from outside, the server (`daemon-pki-api/src/http.rs`, `src/bin/server.rs`) is a registry of
certificates: a certificate is entered when it is issued, and it is revoked at most once. The
registry has no files, no counter and no acceptor, and it never restarts. As long as nothing fails,
what the server answers is what the registry answers, whenever the server was restarted in between;
and the acceptor refuses exactly the certificates that the registry has revoked.

## Main definitions

* `DaemonPki.RegistryEntry`, `DaemonPki.certificateRegistry`: the registry.
* `DaemonPki.ServiceEvent`, `DaemonPki.serviceSystem`: the server while nothing fails.
* `DaemonPki.Represents`, `DaemonPki.Shows`: how the server shows the registry.

## Main results

* `DaemonPki.simulates_registry`: the steps of the server are those of the registry.
* `DaemonPki.registry_of_run`: the runs of the server are those of the registry.
-/

namespace DaemonPki

open Foundation

/-! ### The registry -/

/-- A certificate of the registry: as it was issued, and when and why it was revoked. -/
structure RegistryEntry where
  issued : CertificateRecord
  revocation : Option (OffsetDateTime × String)
  unrevoked : issued.revoked = false

/-- The certificates by identifier. -/
abbrev Registry := Uuid → Option RegistryEntry

namespace RegistryEntry

/-- The record that is kept of the certificate. -/
def record (entry : RegistryEntry) : CertificateRecord :=
  match entry.revocation with
  | none => entry.issued
  | some (now, reason) => Records.markRevoked now reason entry.issued

/-- A certificate is revoked once. -/
def revoke (now : OffsetDateTime) (reason : String) (entry : RegistryEntry) : RegistryEntry :=
  match entry.revocation with
  | none => { entry with revocation := some (now, reason) }
  | some _ => entry

end RegistryEntry

/-- What happens to the registry, with the answer that is given. -/
inductive RegistryEvent
  | issued (entry : RegistryEntry)
  | listed (entries : List RegistryEntry)
  | got (id : Uuid) (entry : Option RegistryEntry)
  | revoked (id : Uuid) (now : OffsetDateTime) (reason : String) (entry : Option RegistryEntry)

/-- The steps of the registry. The list has every entry once, the last issued first. -/
inductive RegistryStep : Registry → RegistryEvent → Registry → Prop
  | issue (registry : Registry) (entry : RegistryEntry) (hfresh : registry entry.issued.id = none)
      (hnew : entry.revocation = none) :
      RegistryStep registry (.issued entry) (Function.update registry entry.issued.id (some entry))
  | list (registry : Registry) (entries : List RegistryEntry) (ids : List Uuid) (hnodup : ids.Nodup)
      (hids : ∀ id, id ∈ ids ↔ (registry id).isSome = true)
      (hentries : entries.Perm (ids.filterMap registry))
      (hsorted : entries.Pairwise fun a b => b.issued.issuedAt ≤ a.issued.issuedAt) :
      RegistryStep registry (.listed entries) registry
  | get (registry : Registry) (id : Uuid) : RegistryStep registry (.got id (registry id)) registry
  | revoke (registry : Registry) (id : Uuid) (now : OffsetDateTime) (reason : String) :
      RegistryStep registry (.revoked id now reason ((registry id).map (.revoke now reason)))
        (Function.update registry id ((registry id).map (.revoke now reason)))

def certificateRegistry : LTS Registry RegistryEvent := ⟨RegistryStep⟩

/-! ### The server while nothing fails -/

/-- Nothing fails when the acceptor is refreshed, and the counter has not reached its end. -/
structure RefreshEnvironment.Faultless (env : RefreshEnvironment) (files : CrlFiles) : Prop where
  readsNumber : env.crl.readsNumber = true
  counter : ∃ current, CrlManager.currentCrlNumber files.number true = .ok current ∧
    current + 1 < 2 ^ 64
  writesNumber : env.crl.writesNumber = .succeeded
  signs : env.crl.signs = true
  writesCrl : env.crl.writesCrl = .succeeded
  configures : env.configures = true

/-- Nothing fails while the request is handled; a certificate has the serial number that it was
signed with, as text. -/
def Request.Faultless (files : CrlFiles) : Request → Prop
  | .issue _ attempt fault => fault = none ∧ ∀ id now serialNumber certificatePem notAfter,
      attempt = .signed id now serialNumber certificatePem notAfter →
        ∃ n, serialNumber = serialText n
  | .list _ _ | .get _ _ => True
  | .revoke _ _ _ _ fault env => fault = none ∧ env.Faultless files

/-- What happens to the server, with the answer that is given. -/
inductive ServiceEvent
  | answered (request : Request) (outcome : Outcome HttpResponse)
  | restarted

/-- The steps of the server while nothing fails. -/
inductive ServiceStep : Server → ServiceEvent → Server → Prop
  | answer {node node' : Node} {request : Request} {outcome : Outcome HttpResponse}
      (hfresh : request.Fresh node) (hfaultless : request.Faultless node.crlFiles)
      (h : HttpApi.handle node request = (outcome, node')) :
      ServiceStep (.up node) (.answered request outcome) (.up node')
  | restart (server : Server) (env : RefreshEnvironment) (h : env.Faultless server.crlFiles) :
      ServiceStep server .restarted (server.restart true env)

def serviceSystem : LTS Server ServiceEvent := ⟨ServiceStep⟩

/-- Whether the event reaches the certificates: requests that are not authorized, or cannot be
parsed, do not, and restarts are invisible. -/
def ServiceEvent.reaches : ServiceEvent → Bool
  | .answered (.issue _ (.signed _ _ _ _ _) _) _ => true
  | .answered (.list authorized _) _ => authorized
  | .answered (.get authorized id) _ => authorized && id.isSome
  | .answered (.revoke authorized id body _ _ _) _ => authorized && id.isSome && body.isSome
  | _ => false

/-- The request and its answer are those of the registry. -/
inductive Shows : ServiceEvent → RegistryEvent → Prop
  | issue {request : IssueCertificateRequest} {id : Uuid} {now : OffsetDateTime}
      {serialNumber certificatePem : String} {notAfter : OffsetDateTime}
      {fault : Option PersistFault} {entry : RegistryEntry}
      (h : entry.issued =
        HttpApi.issuedRecord request id now serialNumber certificatePem notAfter) :
      Shows (.answered (.issue request (.signed id now serialNumber certificatePem notAfter) fault)
        (.returned ⟨201, .issued certificatePem "Daemon PKI Intermediate CA" request⟩))
        (.issued entry)
  | list (iteration : HashMap.Iteration Uuid CertificateRecord) (entries : List RegistryEntry) :
      Shows (.answered (.list true iteration)
        (.returned ⟨200, .certificates (entries.map RegistryEntry.record)⟩)) (.listed entries)
  | get (id : Uuid) (entry : RegistryEntry) :
      Shows (.answered (.get true (some id)) (.returned ⟨200, .certificate entry.record⟩))
        (.got id (some entry))
  | getNone (id : Uuid) :
      Shows (.answered (.get true (some id)) (.returned ⟨404, .error "certificate not found"⟩))
        (.got id none)
  | revoke (id : Uuid) (reason : Option String) (now : OffsetDateTime)
      (fault : Option PersistFault) (env : RefreshEnvironment) (entry : RegistryEntry) :
      Shows (.answered (.revoke true (some id) (some reason) now fault env)
        (.returned ⟨200, .certificate entry.record⟩))
        (.revoked id now (reason.getD "revoked by operator") (some entry))
  | revokeNone (id : Uuid) (reason : Option String) (now : OffsetDateTime)
      (fault : Option PersistFault) (env : RefreshEnvironment) :
      Shows (.answered (.revoke true (some id) (some reason) now fault env)
        (.returned ⟨404, .error "certificate not found"⟩))
        (.revoked id now (reason.getD "revoked by operator") none)

/-- The map has the records of the registry. -/
def Records.Keeps (records : Records) (registry : Registry) : Prop :=
  ∀ id, records.lookup id = (registry id).map RegistryEntry.record

/-- The serial numbers that the registry has revoked. -/
def Registry.revokedSerials (registry : Registry) : Set (List UInt8) :=
  {serial | ∃ id entry, registry id = some entry ∧ entry.revocation.isSome = true ∧
    hexToBytes entry.issued.serialNumber = .returned (some serial)}

/-- The file of the server has the records of the registry, and a server that runs has them in its
map and enforces exactly the revocations of the registry. -/
structure Represents (server : Server) (registry : Registry) : Prop where
  serials : ∀ id entry, registry id = some entry →
    ∃ n, entry.issued.serialNumber = serialText n
  file : ∃ records, StoreFile.read server.file = .ok records ∧ records.Keeps registry
  memory : ∀ node, server = .up node → node.store.records.Keeps registry
  enforced : ∀ node, server = .up node →
    ∀ serial, serial ∈ node.installed.serials ↔ serial ∈ registry.revokedSerials

namespace RegistryEntry

theorem revoked_record (entry : RegistryEntry) :
    entry.record.revoked = entry.revocation.isSome := by
  rw [record]
  cases entry.revocation with
  | none => exact entry.unrevoked
  | some revocation => exact Records.revoked_markRevoked ..

theorem serialNumber_record (entry : RegistryEntry) :
    entry.record.serialNumber = entry.issued.serialNumber := by
  rw [record]
  cases entry.revocation with
  | none => rfl
  | some revocation => exact Records.serialNumber_markRevoked ..

theorem issuedAt_record (entry : RegistryEntry) :
    entry.record.issuedAt = entry.issued.issuedAt := by
  rw [record]
  cases entry.revocation with
  | none => rfl
  | some revocation =>
    simp only [Records.markRevoked]
    split_ifs <;> rfl

/-- A revocation of the certificate is one of its record. -/
theorem record_revoke (now : OffsetDateTime) (reason : String) (entry : RegistryEntry) :
    (entry.revoke now reason).record = Records.markRevoked now reason entry.record := by
  rcases entry with ⟨issued, - | ⟨now', reason'⟩, hunrevoked⟩
  · rfl
  · exact (Records.markRevoked_of_revoked (Records.revoked_markRevoked now' reason' issued) now
      reason).symm

theorem issued_revoke (now : OffsetDateTime) (reason : String) (entry : RegistryEntry) :
    (entry.revoke now reason).issued = entry.issued := by
  rw [revoke]
  split <;> rfl

end RegistryEntry

namespace Records.Keeps

variable {records : Records} {registry : Registry} {id : Uuid} {entry : RegistryEntry}

/-- The registry has as revoked what the map has. -/
theorem revokedSerials_eq (h : records.Keeps registry) :
    records.revokedSerials = registry.revokedSerials := by
  ext serial
  constructor
  · rintro ⟨id, record, hrecord, hrevoked, hserial⟩
    rw [h] at hrecord
    obtain ⟨entry, hentry, rfl⟩ := Option.map_eq_some_iff.mp hrecord
    rw [entry.revoked_record] at hrevoked
    rw [entry.serialNumber_record] at hserial
    exact ⟨id, entry, hentry, hrevoked, hserial⟩
  · rintro ⟨id, entry, hentry, hrevoked, hserial⟩
    refine ⟨id, entry.record, by rw [h, hentry, Option.map_some], ?_, ?_⟩
    · rw [entry.revoked_record, hrevoked]
    · rw [entry.serialNumber_record, hserial]

theorem insert (h : records.Keeps registry) (id : Uuid) (entry : RegistryEntry) :
    Records.Keeps (records.insert id entry.record) (Function.update registry id (some entry)) := by
  intro k
  rw [HashMap.lookup_insert_eq_ite]
  split_ifs with hk
  · rw [hk, Function.update_self, Option.map_some]
  · rw [Function.update_of_ne hk, h]

/-- The records in the order of a visit are those of the entries. -/
theorem values_eq (h : records.Keeps registry) (order : records.Order) :
    order.values = (order.keys.filterMap registry).map RegistryEntry.record := by
  rw [HashMap.Order.values, List.map_filterMap]
  exact List.filterMap_congr fun id _ => h id

/-- The list of the records is that of the entries. -/
theorem list_eq (h : records.Keeps registry) (order : records.Order) :
    ∃ entries : List RegistryEntry, entries.Perm (order.keys.filterMap registry) ∧
      (entries.Pairwise fun a b => b.issued.issuedAt ≤ a.issued.issuedAt) ∧
      records.list order = entries.map RegistryEntry.record := by
  have htotal : Std.Total fun a b : RegistryEntry => b.issued.issuedAt ≤ a.issued.issuedAt :=
    ⟨fun a b => Int.le_total b.issued.issuedAt a.issued.issuedAt⟩
  have htrans : IsTrans RegistryEntry fun a b => b.issued.issuedAt ≤ a.issued.issuedAt :=
    ⟨fun _ _ _ hab hbc => Int.le_trans hbc hab⟩
  refine ⟨(order.keys.filterMap registry).insertionSort fun a b =>
    b.issued.issuedAt ≤ a.issued.issuedAt, List.perm_insertionSort _ _,
    List.pairwise_insertionSort _ _, ?_⟩
  rw [Records.list, h.values_eq]
  refine (List.map_insertionSort _ _ _ _ fun a _ b _ => ?_).symm
  rw [a.issuedAt_record, b.issuedAt_record]

end Records.Keeps

/-! ### The server shows the registry -/

/-- When nothing fails and the serial numbers can be decoded, a list is produced and signed. -/
theorem CrlManager.generateAndPersist_of_faultless {env : RefreshEnvironment} {files : CrlFiles}
    {records : Records} (henv : env.Faultless files)
    (hserials : ∀ id record, records.lookup id = some record →
      ∃ n, record.serialNumber = serialText n) :
    ∃ der files' crlNumber,
      generateAndPersist env.crl records files = (.returned (.ok der), files') ∧
      (revocationList env.crl records).signedDer crlNumber true = .returned (.ok der) := by
  obtain ⟨current, hcurrent, hlt⟩ := henv.counter
  have hnumber : nextCrlNumber files.number env.crl.readsNumber env.crl.writesNumber =
      (.ok (current + 1), some (toString (current + 1))) := by
    rw [nextCrlNumber, henv.readsNumber, henv.writesNumber, hcurrent]
    exact if_pos hlt
  have hdecodes : ∀ entry ∈ (revocationList env.crl records).entries,
      ∃ serial, hexToBytes entry.serialNumber = .returned (some serial) := by
    intro entry hentry
    obtain ⟨id, record, hrecord, -, rfl⟩ := mem_entries_iff.mp hentry
    obtain ⟨n, hn⟩ := hserials id record hrecord
    exact ⟨toBytesBe n, by rw [revocationEntry, revocationRecord, hn, hexToBytes_serialText]⟩
  obtain ⟨certs, hcerts⟩ := CertificateRevocationList.exists_revokedCertParams hdecodes
  let der : CertificateRevocationListParams := ⟨(revocationList env.crl records).generatedAt,
    (revocationList env.crl records).nextUpdate, current + 1, certs⟩
  have hsigned : (revocationList env.crl records).signedDer (current + 1) true =
      .returned (.ok der) :=
    CertificateRevocationList.signedDer_eq_ok_iff.mpr ⟨rfl, certs, hcerts, rfl⟩
  refine ⟨der, ⟨some (toString (current + 1)), some (.signed der)⟩, current + 1, ?_, hsigned⟩
  rw [generateAndPersist, hnumber]
  simp only [henv.signs, hsigned, henv.writesCrl, WriteResult.file]

namespace Represents

variable {server : Server} {node : Node} {registry : Registry}

/-- All records have the text of a number as their serial number. -/
theorem serialNumbers (h : Represents server registry) {records : Records}
    (hkeeps : records.Keeps registry) :
    ∀ id record, records.lookup id = some record → ∃ n, record.serialNumber = serialText n := by
  intro id record hrecord
  rw [hkeeps] at hrecord
  obtain ⟨entry, hentry, rfl⟩ := Option.map_eq_some_iff.mp hrecord
  rw [entry.serialNumber_record]
  exact h.serials id entry hentry

/-- A server whose map and file are the records of the registry, with a list made from them. -/
theorem of_signed {records : Records} {files : CrlFiles} {file : Option StoreFile}
    {env : CrlEnvironment} {crlNumber : ℕ} {signs : Bool} {der : CertificateRevocationListParams}
    (hserials : ∀ id entry, registry id = some entry →
      ∃ n, entry.issued.serialNumber = serialText n)
    (hread : StoreFile.read file = .ok records) (hkeeps : records.Keeps registry)
    (hsigned : (CrlManager.revocationList env records).signedDer crlNumber signs =
      .returned (.ok der)) :
    Represents (.up ⟨⟨records, file⟩, files, der⟩) registry where
  serials := hserials
  file := ⟨records, hread, hkeeps⟩
  memory := by
    rintro node ⟨⟩
    exact hkeeps
  enforced := by
    rintro node ⟨⟩ serial
    rw [CrlManager.mem_serials_of_signedDer_revocationList hsigned, hkeeps.revokedSerials_eq]

/-- A restart is invisible. -/
theorem restart (h : Represents server registry) {env : RefreshEnvironment}
    (henv : env.Faultless server.crlFiles) : Represents (server.restart true env) registry := by
  obtain ⟨records, hread, hkeeps⟩ := h.file
  obtain ⟨der, files, crlNumber, hgenerate, hsigned⟩ :=
    CrlManager.generateAndPersist_of_faultless henv (h.serialNumbers hkeeps)
  have hrestart : server.restart true env = .up ⟨⟨records, server.file⟩, files, der⟩ := by
    simp only [Server.restart, hread, hgenerate, henv.configures, if_true]
  rw [hrestart]
  exact of_signed h.serials hread hkeeps hsigned

/-- An issuance enters a certificate. -/
theorem issue (h : Represents (.up node) registry) {entry : RegistryEntry}
    (hfresh : registry entry.issued.id = none) (hnew : entry.revocation = none)
    (hserial : ∃ n, entry.issued.serialNumber = serialText n) :
    Represents (.up { node with store :=
        ⟨node.store.records.insertRecord entry.issued,
          some (.json (node.store.records.insertRecord entry.issued))⟩ })
      (Function.update registry entry.issued.id (some entry)) := by
  have hrecord : entry.record = entry.issued := by rw [RegistryEntry.record, hnew]
  have hkeeps : (node.store.records.insertRecord entry.issued).Keeps
      (Function.update registry entry.issued.id (some entry)) := by
    have hinsert := (h.memory node rfl).insert entry.issued.id entry
    rwa [hrecord] at hinsert
  have hrevoked : Registry.revokedSerials
      (Function.update registry entry.issued.id (some entry)) = registry.revokedSerials := by
    ext serial
    constructor
    · rintro ⟨id, other, hother, hrevoked, hserial⟩
      by_cases hid : id = entry.issued.id
      · rw [hid, Function.update_self] at hother
        cases hother
        rw [hnew] at hrevoked
        cases hrevoked
      · rw [Function.update_of_ne hid] at hother
        exact ⟨id, other, hother, hrevoked, hserial⟩
    · rintro ⟨id, other, hother, hrevoked, hserial⟩
      have hid : id ≠ entry.issued.id := fun e => by rw [e, hfresh] at hother; cases hother
      exact ⟨id, other, by rw [Function.update_of_ne hid, hother], hrevoked, hserial⟩
  refine ⟨?_, ⟨_, rfl, hkeeps⟩, ?_, ?_⟩
  · intro id other hother
    by_cases hid : id = entry.issued.id
    · rw [hid, Function.update_self] at hother
      cases hother
      exact hserial
    · rw [Function.update_of_ne hid] at hother
      exact h.serials id other hother
  · rintro node' ⟨⟩
    exact hkeeps
  · rintro node' ⟨⟩ serial
    rw [hrevoked]
    exact h.enforced node rfl serial

/-- A revocation marks the certificate, and the acceptor has a list with it. -/
theorem revoke (h : Represents (.up node) registry) {id : Uuid} {entry : RegistryEntry}
    (hentry : registry id = some entry) (now : OffsetDateTime) (reason : Option String)
    {env : RefreshEnvironment} (henv : env.Faultless node.crlFiles) :
    ∃ node', HttpApi.handle node (.revoke true (some id) (some reason) now none env) =
        (.returned ⟨200, .certificate
          (entry.revoke now (reason.getD "revoked by operator")).record⟩, node') ∧
      Represents (.up node') (Function.update registry id
        (some (entry.revoke now (reason.getD "revoked by operator")))) := by
  set revoked := entry.revoke now (reason.getD "revoked by operator") with hrevoked
  have hkeeps := (h.memory node rfl).insert id revoked
  have hrevoke : node.store.revoke now id (reason.getD "revoked by operator") none =
      (.ok (some revoked.record), ⟨node.store.records.insert id revoked.record,
        some (.json (node.store.records.insert id revoked.record))⟩) := by
    have hrecord : node.store.records.lookup id = some entry.record := by
      rw [h.memory node rfl, hentry, Option.map_some]
    rw [CertificateStore.revoke, Records.revokeRecord, hrecord, hrevoked,
      RegistryEntry.record_revoke]
    rfl
  have hserials : ∀ k other, Function.update registry id (some revoked) k = some other →
      ∃ n, other.issued.serialNumber = serialText n := by
    intro k other hother
    by_cases hk : k = id
    · rw [hk, Function.update_self] at hother
      cases hother
      rw [hrevoked, RegistryEntry.issued_revoke]
      exact h.serials id entry hentry
    · rw [Function.update_of_ne hk] at hother
      exact h.serials k other hother
  have htexts : ∀ k record, (node.store.records.insert id revoked.record).lookup k = some record →
      ∃ n, record.serialNumber = serialText n := by
    intro k record hrecord
    rw [hkeeps] at hrecord
    obtain ⟨other, hother, rfl⟩ := Option.map_eq_some_iff.mp hrecord
    rw [other.serialNumber_record]
    exact hserials k other hother
  obtain ⟨der, files, crlNumber, hgenerate, hsigned⟩ :=
    CrlManager.generateAndPersist_of_faultless henv htexts
  refine ⟨⟨⟨node.store.records.insert id revoked.record,
    some (.json (node.store.records.insert id revoked.record))⟩, files, der⟩, ?_,
    of_signed hserials rfl hkeeps hsigned⟩
  simp only [HttpApi.handle, HttpApi.handleRevokeCertificate, hrevoke, TlsAcceptorManager.refresh,
    hgenerate, henv.configures, Bool.not_true, Bool.false_eq_true, if_false, if_true]

/-! ### One request -/

variable {node' : Node} {outcome : Outcome HttpResponse}

/-- A request that does not reach the certificates changes nothing. -/
theorem silent (h : Represents (.up node) registry) {request : Request}
    (hanswer : HttpApi.handle node request = (outcome, node'))
    (hsilent : (ServiceEvent.answered request outcome).reaches = false) :
    Represents (.up node') registry := by
  cases request with
  | issue request attempt fault =>
    cases attempt with
    | refused status message =>
      cases hanswer
      exact h
    | signed id now serialNumber certificatePem notAfter => cases hsilent
  | list authorized iteration =>
    cases hanswer
    exact h
  | get authorized id =>
    cases hanswer
    exact h
  | revoke authorized id body now fault env =>
    rcases authorized with - | -
    · cases hanswer
      exact h
    rcases id with - | id
    · cases hanswer
      exact h
    rcases body with - | reason
    · cases hanswer
      exact h
    cases hsilent

theorem shows_issue (h : Represents (.up node) registry) {request : IssueCertificateRequest}
    {id : Uuid} {now : OffsetDateTime} {serialNumber certificatePem : String}
    {notAfter : OffsetDateTime} (hfresh : node.store.records.lookup id = none)
    (hserial : ∃ n, serialNumber = serialText n)
    (hanswer : HttpApi.handle node
      (.issue request (.signed id now serialNumber certificatePem notAfter) none) =
        (outcome, node')) :
    ∃ event registry', Shows (.answered
        (.issue request (.signed id now serialNumber certificatePem notAfter) none) outcome) event ∧
      RegistryStep registry event registry' ∧ Represents (.up node') registry' := by
  let entry : RegistryEntry :=
    ⟨HttpApi.issuedRecord request id now serialNumber certificatePem notAfter, none, rfl⟩
  have hnone : registry entry.issued.id = none := by
    rw [h.memory node rfl] at hfresh
    exact Option.map_eq_none_iff.mp hfresh
  cases hanswer
  exact ⟨.issued entry, _, .issue rfl, .issue registry entry hnone rfl, h.issue hnone rfl hserial⟩

theorem shows_list (h : Represents (.up node) registry)
    {iteration : HashMap.Iteration Uuid CertificateRecord}
    (hanswer : HttpApi.handle node (.list true iteration) = (outcome, node')) :
    ∃ event registry', Shows (.answered (.list true iteration) outcome) event ∧
      RegistryStep registry event registry' ∧ Represents (.up node') registry' := by
  have hmemory := h.memory node rfl
  obtain ⟨entries, hperm, hsorted, hlist⟩ := hmemory.list_eq (iteration node.store.records)
  cases hanswer
  refine ⟨.listed entries, registry, ?_, .list registry entries
    (iteration node.store.records).keys (iteration node.store.records).nodup ?_ hperm hsorted, h⟩
  · rw [HttpApi.handleListCertificates, hlist]
    exact .list iteration entries
  · intro id
    rw [(iteration node.store.records).mem_keys, ← Finmap.lookup_isSome, hmemory, Option.isSome_map]

theorem shows_get (h : Represents (.up node) registry) {id : Uuid}
    (hanswer : HttpApi.handle node (.get true (some id)) = (outcome, node')) :
    ∃ event registry', Shows (.answered (.get true (some id)) outcome) event ∧
      RegistryStep registry event registry' ∧ Represents (.up node') registry' := by
  have hget : node.store.get id = (registry id).map RegistryEntry.record := h.memory node rfl id
  cases hanswer
  refine ⟨.got id (registry id), registry, ?_, .get registry id, h⟩
  rw [HttpApi.handleGetCertificate, hget]
  cases registry id with
  | none => exact .getNone id
  | some entry => exact .get id entry

theorem shows_revoke (h : Represents (.up node) registry) {id : Uuid} {reason : Option String}
    {now : OffsetDateTime} {env : RefreshEnvironment} (henv : env.Faultless node.crlFiles)
    (hanswer : HttpApi.handle node (.revoke true (some id) (some reason) now none env) =
      (outcome, node')) :
    ∃ event registry', Shows
        (.answered (.revoke true (some id) (some reason) now none env) outcome) event ∧
      RegistryStep registry event registry' ∧ Represents (.up node') registry' := by
  have hstep := RegistryStep.revoke registry id now (reason.getD "revoked by operator")
  cases hentry : registry id with
  | none =>
    have hlookup : node.store.records.lookup id = none := by
      rw [h.memory node rfl, hentry, Option.map_none]
    have hnone : HttpApi.handle node (.revoke true (some id) (some reason) now none env) =
        (.returned ⟨404, .error "certificate not found"⟩, node) := by
      simp only [HttpApi.handle, HttpApi.handleRevokeCertificate, CertificateStore.revoke,
        Records.revokeRecord, hlookup, Bool.not_true, Bool.false_eq_true, if_false]
    have hsame : Function.update registry id none = registry := by
      rw [← hentry, Function.update_eq_self]
    rw [hnone] at hanswer
    cases hanswer
    rw [hentry, Option.map_none, hsame] at hstep
    exact ⟨_, _, .revokeNone id reason now none env, hstep, h⟩
  | some entry =>
    obtain ⟨revoked, hrevoke, hrepresents⟩ := h.revoke hentry now reason henv
    rw [hrevoke] at hanswer
    cases hanswer
    rw [hentry, Option.map_some] at hstep
    exact ⟨_, _, .revoke id reason now none env _, hstep, hrepresents⟩

end Represents

/-- **The steps of the server are those of the registry.** -/
theorem simulates_registry :
    LTS.Simulates serviceSystem certificateRegistry Represents ServiceEvent.reaches Shows where
  silent_step := by
    intro server event server' registry h hstep hsilent
    cases hstep with
    | restart _ env henv => exact h.restart henv
    | answer hfresh hfaultless hanswer => exact h.silent hanswer hsilent
  visible_step := by
    intro server event server' registry h hstep hvisible
    cases hstep with
    | restart _ env henv => cases hvisible
    | @answer node node' request outcome hfresh hfaultless hanswer =>
      cases request with
      | issue request attempt fault =>
        cases attempt with
        | refused status message => cases hvisible
        | signed id now serialNumber certificatePem notAfter =>
          obtain ⟨rfl, hserial⟩ := hfaultless
          exact h.shows_issue hfresh (hserial id now serialNumber certificatePem notAfter rfl)
            hanswer
      | list authorized iteration =>
        cases hvisible
        exact h.shows_list hanswer
      | get authorized id =>
        obtain ⟨rfl, hid⟩ := Bool.and_eq_true_iff.mp hvisible
        obtain ⟨id, rfl⟩ := Option.isSome_iff_exists.mp hid
        exact h.shows_get hanswer
      | revoke authorized id body now fault env =>
        obtain ⟨hparsed, hbody⟩ := Bool.and_eq_true_iff.mp hvisible
        obtain ⟨rfl, hid⟩ := Bool.and_eq_true_iff.mp hparsed
        obtain ⟨id, rfl⟩ := Option.isSome_iff_exists.mp hid
        obtain ⟨reason, rfl⟩ := Option.isSome_iff_exists.mp hbody
        obtain ⟨rfl, henv⟩ := hfaultless
        exact h.shows_revoke henv hanswer

/-- Empty files show the empty registry. -/
theorem represents_empty : Represents (.down none ⟨none, none⟩) fun _ => none :=
  ⟨by rintro id entry ⟨⟩, ⟨∅, rfl, fun id => Finmap.lookup_empty id⟩, by rintro node ⟨⟩,
    by rintro node ⟨⟩⟩

/-- **The runs of the server are those of the registry.** In every run from empty files in which
nothing fails, restarts included: the requests that reach the certificates and their answers are
those of a run of the registry, in the same order; the file, and when the server runs the map, have
the records of that registry; and the acceptor refuses exactly the certificates that it has
revoked. -/
theorem registry_of_run {server : Server}
    (run : serviceSystem.Run (.down none ⟨none, none⟩) server) :
    ∃ registry, ∃ run' : certificateRegistry.Run (fun _ => none) registry,
      List.Forall₂ Shows (run.labels.filter ServiceEvent.reaches) run'.labels ∧
        Represents server registry := by
  obtain ⟨registry, run', hrepresents, hshows⟩ :=
    simulates_registry.exists_run represents_empty run
  exact ⟨registry, run', hshows, hrepresents⟩

end DaemonPki
