import DaemonPki.Api.CrlManager
import DaemonPki.Foundation.Transition

/-!
# The API server, one request after the other

The state of revocation is kept in three places: the records in memory, the file of the store,
and the revocation list inside the TLS acceptor that is installed. The handlers of the API
(`daemon-pki-api/src/http.rs`) and the start of the server (`src/bin/server.rs`) change them in
several steps, each of which may fail, and memory may run ahead of the file.

The system of this file is the server under requests that are handled one after the other and
under restarts. Its invariant ties the three together: what the acceptor enforces is revoked in
the file, and what is revoked in the file is revoked in memory.

## Main definitions

* `DaemonPki.Node`, `DaemonPki.TlsAcceptorManager.refresh`.
* `DaemonPki.HttpApi.handleIssue`, `handleListCertificates`, `handleGetCertificate`,
  `handleRevokeCertificate`, `handle`.
* `DaemonPki.Server`, `DaemonPki.Server.restart`, `DaemonPki.serverSystem`.
* `DaemonPki.Node.Sound`, `DaemonPki.Server.enforced`.

## Main results

* `DaemonPki.HttpApi.sound_handle`, `DaemonPki.Server.sound_restart`: the invariant.
* `DaemonPki.enforcement_of_run`: enforced revocation is never undone.
-/

namespace DaemonPki

open Foundation

/-- A running server and its files: the store of the certificates, the files of the revocation
list, and the list inside the acceptor that is installed. -/
structure Node where
  store : CertificateStore
  crlFiles : CrlFiles
  installed : CertificateRevocationListParams

/-! ### The acceptor -/

inductive RefreshError
  | regenerate (error : CrlManagerError)
  | rebuild
  deriving DecidableEq, Repr

/-- What the environment does to one refresh of the acceptor. -/
structure RefreshEnvironment where
  crl : CrlEnvironment
  /-- Whether the TLS configuration can be built from the list. -/
  configures : Bool

/-- Produce a revocation list from the store and install an acceptor with it. Source:
`tls/manager.rs`, lines 60–82. -/
def TlsAcceptorManager.refresh (env : RefreshEnvironment) (node : Node) :
    Outcome (Except RefreshError Unit) × Node :=
  match CrlManager.generateAndPersist env.crl node.store.records node.crlFiles with
  | (.panicked, files) => (.panicked, { node with crlFiles := files })
  | (.returned (.error e), files) =>
    (.returned (.error (.regenerate e)), { node with crlFiles := files })
  | (.returned (.ok crlDer), files) =>
    if env.configures then
      (.returned (.ok ()), { node with crlFiles := files, installed := crlDer })
    else (.returned (.error .rebuild), { node with crlFiles := files })

/-! ### The handlers -/

/-- Source: `issuance.rs`, `IssueCertificateRequest`. -/
structure IssueCertificateRequest where
  commonName : String
  dnsNames : List String
  ipAddresses : List String
  clientAuth : Bool
  serverAuth : Bool
  deriving DecidableEq, Repr

/-- How an issuance ends before its record is stored: it is refused, or a certificate was signed
and its record drew an identifier and the time. -/
inductive IssueAttempt
  | refused (status : ℕ) (message : String)
  | signed (id : Uuid) (now : OffsetDateTime) (serialNumber certificatePem : String)
      (notAfter : OffsetDateTime)

inductive ResponseBody
  | issued (certificatePem issuer : String) (request : IssueCertificateRequest)
  | certificates (records : List CertificateRecord)
  | certificate (record : CertificateRecord)
  | error (message : String)
  | storeError (error : CertificateStoreError)
  deriving DecidableEq, Repr

structure HttpResponse where
  status : ℕ
  body : ResponseBody
  deriving DecidableEq, Repr

/-- A request as its handler sees it: whether the caller is authorized, the identifier in the
path and the body, as far as they could be parsed, and what the environment does to it. -/
inductive Request
  | issue (request : IssueCertificateRequest) (attempt : IssueAttempt)
      (fault : Option PersistFault)
  | list (authorized : Bool) (iteration : HashMap.Iteration Uuid CertificateRecord)
  | get (authorized : Bool) (id : Option Uuid)
  | revoke (authorized : Bool) (id : Option Uuid) (body : Option (Option String))
      (now : OffsetDateTime) (fault : Option PersistFault) (env : RefreshEnvironment)

namespace HttpApi

/-- Source: `issuance.rs`, lines 325–336. -/
def issuedRecord (request : IssueCertificateRequest) (id : Uuid) (now : OffsetDateTime)
    (serialNumber certificatePem : String) (notAfter : OffsetDateTime) : CertificateRecord :=
  .new id now serialNumber request.commonName request.dnsNames request.ipAddresses
    request.clientAuth request.serverAuth "Daemon PKI Intermediate CA" certificatePem
    (some notAfter)

/-- Source: `http.rs`, lines 364–448, and the end of `issue` in `issuance.rs`. -/
def handleIssue (request : IssueCertificateRequest) (attempt : IssueAttempt)
    (fault : Option PersistFault) (node : Node) : HttpResponse × Node :=
  match attempt with
  | .refused status message => (⟨status, .error message⟩, node)
  | .signed id now serialNumber certificatePem notAfter =>
    match node.store.insert
        (issuedRecord request id now serialNumber certificatePem notAfter) fault with
    | (.error e, store) => (⟨400, .storeError e⟩, { node with store := store })
    | (.ok _, store) =>
      (⟨201, .issued certificatePem "Daemon PKI Intermediate CA" request⟩,
        { node with store := store })

/-- Source: `http.rs`, lines 450–485. -/
def handleListCertificates (authorized : Bool)
    (iteration : HashMap.Iteration Uuid CertificateRecord) (node : Node) : HttpResponse :=
  if !authorized then ⟨403, .error "certificate inventory access is not authorized"⟩
  else ⟨200, .certificates (node.store.records.list (iteration node.store.records))⟩

/-- Source: `http.rs`, lines 487–557. -/
def handleGetCertificate (authorized : Bool) (id : Option Uuid) (node : Node) : HttpResponse :=
  if !authorized then ⟨403, .error "certificate inventory access is not authorized"⟩
  else
    match id with
    | none => ⟨400, .error "invalid certificate id"⟩
    | some id =>
      match node.store.get id with
      | some certificate => ⟨200, .certificate certificate⟩
      | none => ⟨404, .error "certificate not found"⟩

/-- Source: `http.rs`, lines 559–687. -/
def handleRevokeCertificate (authorized : Bool) (id : Option Uuid)
    (body : Option (Option String)) (now : OffsetDateTime) (fault : Option PersistFault)
    (env : RefreshEnvironment) (node : Node) : Outcome HttpResponse × Node :=
  if !authorized then
    (.returned ⟨403, .error "certificate revocation is not authorized"⟩, node)
  else
    match id, body with
    | none, _ => (.returned ⟨400, .error "invalid certificate id"⟩, node)
    | some _, none => (.returned ⟨400, .error "invalid JSON request body"⟩, node)
    | some id, some reason =>
      match node.store.revoke now id (reason.getD "revoked by operator") fault with
      | (.ok (some certificate), store) =>
        match TlsAcceptorManager.refresh env { node with store := store } with
        | (.panicked, node) => (.panicked, node)
        | (.returned (.error _), node) =>
          (.returned ⟨500, .error
            "certificate revoked but TLS revocation state could not be refreshed"⟩, node)
        | (.returned (.ok ()), node) => (.returned ⟨200, .certificate certificate⟩, node)
      | (.ok none, store) =>
        (.returned ⟨404, .error "certificate not found"⟩, { node with store := store })
      | (.error e, store) => (.returned ⟨500, .storeError e⟩, { node with store := store })

/-- The answer to a request, and the server afterwards. A handler that panics gives none. -/
def handle (node : Node) : Request → Outcome HttpResponse × Node
  | .issue request attempt fault =>
    let (response, node') := handleIssue request attempt fault node
    (.returned response, node')
  | .list authorized iteration =>
    (.returned (handleListCertificates authorized iteration node), node)
  | .get authorized id => (.returned (handleGetCertificate authorized id node), node)
  | .revoke authorized id body now fault env =>
    handleRevokeCertificate authorized id body now fault env node

end HttpApi

/-! ### Runs of the server -/

/-- The server: not running, with its files, or running. -/
inductive Server
  | down (file : Option StoreFile) (crlFiles : CrlFiles)
  | up (node : Node)

namespace Server

def file : Server → Option StoreFile
  | down file _ => file
  | up node => node.store.file

def crlFiles : Server → CrlFiles
  | down _ crlFiles => crlFiles
  | up node => node.crlFiles

/-- Start a new process on the files of the server: it opens the store, produces a revocation
list from it and installs it, or does not come up. Source: `bin/server.rs`, lines 198–253. -/
def restart (opens : Bool) (env : RefreshEnvironment) (server : Server) : Server :=
  match opens, StoreFile.read server.file with
  | true, .ok records =>
    match CrlManager.generateAndPersist env.crl records server.crlFiles with
    | (.returned (.ok crlDer), files) =>
      if env.configures then up ⟨⟨records, server.file⟩, files, crlDer⟩
      else down server.file files
    | (_, files) => down server.file files
  | _, _ => down server.file server.crlFiles

end Server

/-- The identifier that an issuance draws is not the one of a record. -/
def Request.Fresh (node : Node) : Request → Prop
  | .issue _ (.signed id _ _ _ _) _ => node.store.records.lookup id = none
  | _ => True

/-- What happens to a server: a request while it runs, or a restart. -/
inductive ServerEvent
  | request (request : Request)
  | restart (opens : Bool) (env : RefreshEnvironment)

/-- The steps of the server. -/
inductive ServerStep : Server → ServerEvent → Server → Prop
  | request {node : Node} (request : Request) (hfresh : request.Fresh node) :
      ServerStep (.up node) (.request request) (.up (HttpApi.handle node request).2)
  | restart (server : Server) (opens : Bool) (env : RefreshEnvironment) :
      ServerStep server (.restart opens env) (server.restart opens env)

/-- The server under requests one after the other, and restarts. -/
def serverSystem : LTS Server ServerEvent := ⟨ServerStep⟩

/-! ### The invariant -/

/-- The file of the store reads as `records`, and every record revoked there is revoked in
memory. -/
def CertificateStore.Holds (store : CertificateStore) (records : Records) : Prop :=
  StoreFile.read store.file = .ok records ∧ records.KeepsRevoked store.records

/-- The three copies of the revocation state of a running server: the file reads as some
records, every record revoked there is revoked in memory, and the acceptor enforces only serial
numbers that are revoked there. -/
def Node.Sound (node : Node) : Prop :=
  ∃ records, node.store.Holds records ∧
    ∀ serial ∈ node.installed.serials, serial ∈ records.revokedSerials

namespace CertificateStore

variable {store : CertificateStore} {records changed : Records}

/-- After a change that keeps what is revoked, the file holds what it held or the whole map. -/
theorem holds_persist (h : store.Holds records) (hchange : store.records.KeepsRevoked changed)
    (fault : Option PersistFault) :
    ∃ records', (persist { store with records := changed } fault).2.Holds records' ∧
      records.KeepsRevoked records' := by
  rcases persist_cases { store with records := changed } fault with hp | ⟨e, hp⟩ <;> rw [hp]
  · exact ⟨changed, ⟨rfl, .refl changed⟩, h.2.trans hchange⟩
  · exact ⟨records, ⟨h.1, h.2.trans hchange⟩, .refl records⟩

theorem holds_insert (h : store.Holds records) (record : CertificateRecord)
    (hfresh : store.records.lookup record.id = none) (fault : Option PersistFault) :
    ∃ records', (store.insert record fault).2.Holds records' ∧ records.KeepsRevoked records' := by
  have hpersist := holds_persist h (Records.keepsRevoked_insertRecord hfresh) fault
  rw [insert]
  split <;> rename_i hp <;> rwa [hp] at hpersist

theorem holds_revoke (h : store.Holds records) (now : OffsetDateTime) (id : Uuid)
    (reason : String) (fault : Option PersistFault) :
    ∃ records', (store.revoke now id reason fault).2.Holds records' ∧
      records.KeepsRevoked records' := by
  rw [revoke]
  cases hrevoke : store.records.revokeRecord now id reason with
  | none => exact ⟨records, h, .refl records⟩
  | some result =>
    have hpersist := holds_persist h (Records.keepsRevoked_revokeRecord hrevoke) fault
    simp only
    split <;> rename_i hp <;> rwa [hp] at hpersist

/-- What a revocation that is answered with a record does: it marks the record and writes the
whole map. -/
theorem revoke_eq_some {now : OffsetDateTime} {id : Uuid} {reason : String}
    {fault : Option PersistFault} {certificate : CertificateRecord} {store' : CertificateStore}
    (h : store.revoke now id reason fault = (.ok (some certificate), store')) :
    ∃ records', store.records.revokeRecord now id reason = some (certificate, records') ∧
      store' = ⟨records', some (.json records')⟩ := by
  rw [revoke] at h
  cases hrevoke : store.records.revokeRecord now id reason with
  | none =>
    rw [hrevoke] at h
    cases h
  | some result =>
    rw [hrevoke] at h
    rcases persist_cases { store with records := result.2 } fault with hp | ⟨e, hp⟩ <;>
      simp only [hp] at h <;> cases h
    exact ⟨result.2, rfl, rfl⟩

end CertificateStore

/-- A refresh fails and installs nothing, or installs the list that was signed from the records
in memory. -/
theorem TlsAcceptorManager.refresh_cases (env : RefreshEnvironment) (node : Node) :
    (∃ result files, refresh env node = (result, { node with crlFiles := files }) ∧
        result ≠ .returned (.ok ())) ∨
      ∃ files crlDer, refresh env node =
          (.returned (.ok ()), { node with crlFiles := files, installed := crlDer }) ∧
        CrlManager.generateAndPersist env.crl node.store.records node.crlFiles =
          (.returned (.ok crlDer), files) := by
  rw [refresh]
  rcases hresult : CrlManager.generateAndPersist env.crl node.store.records node.crlFiles with
    ⟨(e | crlDer) | _, files⟩
  · exact Or.inl ⟨_, files, rfl, by simp⟩
  · by_cases hconfigures : env.configures = true
    · exact Or.inr ⟨files, crlDer, if_pos hconfigures, rfl⟩
    · exact Or.inl ⟨_, files, if_neg hconfigures, by simp⟩
  · exact Or.inl ⟨_, files, rfl, by simp⟩

namespace HttpApi

/-- A revoke request leaves the acceptor alone and is not answered with 200, or it is answered
with 200, the store has written its map, and the acceptor has the list signed from that map. -/
theorem handleRevokeCertificate_cases (authorized : Bool) (id : Option Uuid)
    (body : Option (Option String)) (now : OffsetDateTime) (fault : Option PersistFault)
    (env : RefreshEnvironment) (node : Node) :
    (∃ result node', handleRevokeCertificate authorized id body now fault env node =
        (result, node') ∧ node'.installed = node.installed ∧
        (∀ response, result = .returned response → response.status ≠ 200) ∧
        (node'.store = node.store ∨
          ∃ key reason, node'.store = (node.store.revoke now key reason fault).2)) ∨
      ∃ key reason certificate store files crlDer, id = some key ∧ body = some reason ∧
        node.store.revoke now key (reason.getD "revoked by operator") fault =
          (.ok (some certificate), store) ∧
        handleRevokeCertificate authorized id body now fault env node =
          (.returned ⟨200, .certificate certificate⟩, ⟨store, files, crlDer⟩) ∧
        CrlManager.generateAndPersist env.crl store.records node.crlFiles =
          (.returned (.ok crlDer), files) := by
  unfold handleRevokeCertificate
  split_ifs with hauthorized
  · exact Or.inl ⟨_, node, rfl, rfl, by simp, Or.inl rfl⟩
  rcases id with _ | id
  · exact Or.inl ⟨_, node, rfl, rfl, by simp, Or.inl rfl⟩
  rcases body with _ | reason
  · exact Or.inl ⟨_, node, rfl, rfl, by simp, Or.inl rfl⟩
  rcases hrevoke : node.store.revoke now id (reason.getD "revoked by operator") fault with
    ⟨e | _ | certificate, store⟩
  · exact Or.inl ⟨.returned ⟨500, .storeError e⟩, { node with store := store },
      by simp only [hrevoke], rfl, by simp, Or.inr ⟨id, _, by rw [hrevoke]⟩⟩
  · exact Or.inl ⟨.returned ⟨404, .error "certificate not found"⟩, { node with store := store },
      by simp only [hrevoke], rfl, by simp, Or.inr ⟨id, _, by rw [hrevoke]⟩⟩
  rcases TlsAcceptorManager.refresh_cases env { node with store := store } with
    ⟨result, files, hrefresh, hfails⟩ | ⟨files, crlDer, hrefresh, hgenerate⟩
  · rcases result with (e | _) | _
    · exact Or.inl ⟨.returned ⟨500, .error
        "certificate revoked but TLS revocation state could not be refreshed"⟩,
        { node with store := store, crlFiles := files }, by simp only [hrevoke, hrefresh], rfl,
        by simp, Or.inr ⟨id, _, by rw [hrevoke]⟩⟩
    · exact absurd rfl hfails
    · exact Or.inl ⟨.panicked, { node with store := store, crlFiles := files },
        by simp only [hrevoke, hrefresh], rfl, by simp, Or.inr ⟨id, _, by rw [hrevoke]⟩⟩
  · exact Or.inr ⟨id, reason, certificate, store, files, crlDer, rfl, rfl, hrevoke,
      by simp only [hrevoke, hrefresh], hgenerate⟩

/-- A node whose store forgets no revocation and whose acceptor is left alone. -/
theorem sound_of_holds {node : Node} {records : Records}
    (hinstalled : ∀ serial ∈ node.installed.serials, serial ∈ records.revokedSerials)
    {store : CertificateStore} {files : CrlFiles}
    (h : ∃ records', store.Holds records' ∧ records.KeepsRevoked records') :
    (Node.mk store files node.installed).Sound := by
  obtain ⟨records', hholds', hkeeps⟩ := h
  exact ⟨records', hholds', fun serial hs => hkeeps.revokedSerials_subset (hinstalled serial hs)⟩

/-- An issuance keeps the invariant and leaves the acceptor alone. -/
theorem sound_handleIssue {node : Node} (h : node.Sound) {request : IssueCertificateRequest}
    {attempt : IssueAttempt} {fault : Option PersistFault}
    (hfresh : (Request.issue request attempt fault).Fresh node) :
    (handleIssue request attempt fault node).2.Sound ∧
      (handleIssue request attempt fault node).2.installed = node.installed := by
  cases attempt with
  | refused status message => exact ⟨h, rfl⟩
  | signed id now serialNumber certificatePem notAfter =>
    obtain ⟨records, hholds, hinstalled⟩ := h
    have hinsert := CertificateStore.holds_insert hholds
      (issuedRecord request id now serialNumber certificatePem notAfter) hfresh fault
    rcases hresult : node.store.insert
      (issuedRecord request id now serialNumber certificatePem notAfter) fault with
      ⟨e | _, store⟩ <;>
    · rw [hresult] at hinsert
      simp only [handleIssue, hresult]
      exact ⟨sound_of_holds hinstalled hinsert, trivial⟩

/-- A revocation keeps the invariant, and the acceptor enforces afterwards what it enforced
before. -/
theorem sound_handleRevokeCertificate {node : Node} (h : node.Sound) (authorized : Bool)
    (id : Option Uuid) (body : Option (Option String)) (now : OffsetDateTime)
    (fault : Option PersistFault) (env : RefreshEnvironment) :
    (handleRevokeCertificate authorized id body now fault env node).2.Sound ∧
      ∀ serial ∈ node.installed.serials,
        serial ∈ (handleRevokeCertificate authorized id body now fault env
          node).2.installed.serials := by
  obtain ⟨records, hholds, hinstalled⟩ := h
  rcases handleRevokeCertificate_cases authorized id body now fault env node with
    ⟨result, node', hresult, hsameInstalled, -, hsameStore⟩ |
      ⟨key, reason, certificate, store, files, crlDer, -, -, hrevoke, hresult, hgenerate⟩
  · rw [hresult]
    obtain ⟨store, files, installed⟩ := node'
    simp only at hsameInstalled hsameStore
    subst hsameInstalled
    refine ⟨sound_of_holds hinstalled ?_, fun _ hs => hs⟩
    rcases hsameStore with rfl | ⟨key, reason, rfl⟩
    · exact ⟨records, hholds, .refl records⟩
    · exact CertificateStore.holds_revoke hholds now key reason fault
  · obtain ⟨records', hholds', hkeeps⟩ :=
      CertificateStore.holds_revoke hholds now key (reason.getD "revoked by operator") fault
    rw [hrevoke] at hholds'
    obtain ⟨marked, -, hwritten⟩ := CertificateStore.revoke_eq_some hrevoke
    obtain ⟨crlNumber, hsigned⟩ := CrlManager.signedDer_of_generateAndPersist hgenerate
    have hserials := CrlManager.mem_serials_of_signedDer_revocationList hsigned
    rw [hresult]
    refine ⟨⟨store.records, ⟨by rw [hwritten]; rfl, .refl _⟩, fun serial hs =>
      (hserials serial).mp hs⟩, fun serial hs => (hserials serial).mpr ?_⟩
    have hlater := hkeeps.revokedSerials_subset (hinstalled serial hs)
    exact hholds'.2.revokedSerials_subset hlater

/-- **A request keeps the invariant**, and the acceptor enforces afterwards what it enforced
before. -/
theorem sound_handle {node : Node} (h : node.Sound) {request : Request}
    (hfresh : request.Fresh node) : (handle node request).2.Sound ∧
      ∀ serial ∈ node.installed.serials, serial ∈ (handle node request).2.installed.serials := by
  cases request with
  | list authorized iteration => exact ⟨h, fun _ hs => hs⟩
  | get authorized id => exact ⟨h, fun _ hs => hs⟩
  | issue request attempt fault =>
    obtain ⟨hsound, hsame⟩ := sound_handleIssue h hfresh
    exact ⟨hsound, fun serial hs => hsame.symm ▸ hs⟩
  | revoke authorized id body now fault env =>
    exact sound_handleRevokeCertificate h authorized id body now fault env

end HttpApi

/-- The serial numbers that are revoked in a file, none when it cannot be read. -/
def StoreFile.revokedSerials (file : Option StoreFile) : Set (List UInt8) :=
  match StoreFile.read file with
  | .ok records => records.revokedSerials
  | .error _ => ∅

theorem StoreFile.revokedSerials_of_read {file : Option StoreFile} {records : Records}
    (h : StoreFile.read file = .ok records) :
    StoreFile.revokedSerials file = records.revokedSerials := by
  rw [StoreFile.revokedSerials, h]

theorem Node.Sound.installed_subset {node : Node} (h : node.Sound) :
    ∀ serial ∈ node.installed.serials, serial ∈ StoreFile.revokedSerials node.store.file := by
  obtain ⟨records, hholds, hinstalled⟩ := h
  rwa [StoreFile.revokedSerials_of_read hholds.1]

namespace Server

/-- The invariant of a running server; nothing is asked of the files of one that is not. -/
def Sound : Server → Prop
  | down _ _ => True
  | up node => node.Sound

/-- The serial numbers that the server enforces, or, when it does not run, will enforce once it
comes up. -/
def enforced : Server → Set (List UInt8)
  | down file _ => StoreFile.revokedSerials file
  | up node => {serial | serial ∈ node.installed.serials}

/-- `server'` enforces all that `server` does. -/
def Extends (server server' : Server) : Prop := server.enforced ⊆ server'.enforced

theorem Extends.refl (server : Server) : server.Extends server := fun _ => id

theorem Extends.trans {s t u : Server} (h : s.Extends t) (h' : t.Extends u) : s.Extends u :=
  Set.Subset.trans h h'

/-- A restart fails, or the server comes up with the records of the file and the list signed
from them. -/
theorem restart_cases (opens : Bool) (env : RefreshEnvironment) (server : Server) :
    (∃ files, server.restart opens env = down server.file files) ∨
      ∃ records files crlDer crlNumber, StoreFile.read server.file = .ok records ∧
        server.restart opens env = up ⟨⟨records, server.file⟩, files, crlDer⟩ ∧
        (CrlManager.revocationList env.crl records).signedDer crlNumber env.crl.signs =
          .returned (.ok crlDer) := by
  unfold restart
  split
  · rename_i records hread
    split
    · rename_i crlDer files hgenerate
      obtain ⟨crlNumber, hsigned⟩ := CrlManager.signedDer_of_generateAndPersist hgenerate
      split_ifs
      · exact Or.inr ⟨records, files, crlDer, crlNumber, hread, rfl, hsigned⟩
      · exact Or.inl ⟨files, rfl⟩
    · exact Or.inl ⟨_, rfl⟩
  · exact Or.inl ⟨_, rfl⟩

/-- **A restart keeps the invariant**, and nothing that was enforced is lost. -/
theorem sound_restart {server : Server} (h : server.Sound) (opens : Bool)
    (env : RefreshEnvironment) : (server.restart opens env).Sound ∧
      server.Extends (server.restart opens env) := by
  have hfile : server.enforced ⊆ StoreFile.revokedSerials server.file := by
    cases server with
    | down file files => exact subset_rfl
    | up node => exact h.installed_subset
  rcases server.restart_cases opens env with
    ⟨files, hrestart⟩ | ⟨records, files, crlDer, crlNumber, hread, hrestart, hsigned⟩ <;>
    rw [hrestart, Extends]
  · exact ⟨trivial, hfile⟩
  · have hserials := CrlManager.mem_serials_of_signedDer_revocationList hsigned
    rw [StoreFile.revokedSerials_of_read hread] at hfile
    exact ⟨⟨records, ⟨hread, .refl records⟩, fun serial hs => (hserials serial).mp hs⟩,
      fun serial hs => (hserials serial).mpr (hfile hs)⟩

theorem sound_step {server server' : Server} {event : ServerEvent} (h : server.Sound)
    (hstep : ServerStep server event server') :
    server'.Sound ∧ server.Extends server' := by
  cases hstep with
  | request request hfresh => exact HttpApi.sound_handle h hfresh
  | restart _ opens env => exact sound_restart h opens env

theorem sound_of_run {server server' : Server} (h : server.Sound)
    (run : serverSystem.Run server server') : server'.Sound :=
  run.invariant (fun _ _ _ h hstep => (sound_step h hstep).1) h

/-- What is enforced at one point of a run is enforced at every later one. -/
theorem extends_of_run {server server' : Server} (h : server.Sound)
    (run : serverSystem.Run server server') : server.Extends server' :=
  run.rel Extends.refl (fun _ _ _ => Extends.trans) (fun _ _ _ h hstep => (sound_step h hstep).1)
    (fun _ _ _ h hstep => (sound_step h hstep).2) h

end Server

/-- After a revocation that is answered with 200, the acceptor has exactly the serial numbers of
the records revoked in memory, each of which could be decoded. -/
theorem HttpApi.installed_of_revoke_ok {node : Node} {authorized : Bool} {id : Option Uuid}
    {body : Option (Option String)} {now : OffsetDateTime} {fault : Option PersistFault}
    {env : RefreshEnvironment} {response : HttpResponse} {node' : Node}
    (h : handle node (.revoke authorized id body now fault env) = (.returned response, node'))
    (hok : response.status = 200) :
    (∀ serial, serial ∈ node'.installed.serials ↔
        serial ∈ node'.store.records.revokedSerials) ∧
      ∀ id record, node'.store.records.lookup id = some record → record.revoked = true →
        ∃ serial ∈ node'.installed.serials,
          hexToBytes record.serialNumber = .returned (some serial) := by
  rw [handle] at h
  rcases handleRevokeCertificate_cases authorized id body now fault env node with
    ⟨result, node'', hresult, -, hstatus, -⟩ |
      ⟨key, reason, certificate, store, files, crlDer, -, -, -, hresult, hgenerate⟩
  · rw [hresult] at h
    cases h
    exact absurd hok (hstatus response rfl)
  · rw [hresult] at h
    cases h
    obtain ⟨crlNumber, hsigned⟩ := CrlManager.signedDer_of_generateAndPersist hgenerate
    exact ⟨CrlManager.mem_serials_of_signedDer_revocationList hsigned,
      fun id record => CrlManager.exists_serial_of_signedDer_revocationList hsigned⟩

/-- A request that is answered with an error leaves the acceptor alone. -/
theorem HttpApi.installed_of_error {node : Node} {request : Request} {response : HttpResponse}
    {node' : Node} (h : handle node request = (.returned response, node'))
    (herror : 400 ≤ response.status) : node'.installed = node.installed := by
  cases request with
  | list authorized iteration =>
    cases h
    rfl
  | get authorized id =>
    cases h
    rfl
  | issue request attempt fault =>
    cases attempt with
    | refused status message =>
      cases h
      rfl
    | signed id now serialNumber certificatePem notAfter =>
      simp only [handle, handleIssue] at h
      split at h <;> cases h <;> rfl
  | revoke authorized id body now fault env =>
    rw [handle] at h
    rcases handleRevokeCertificate_cases authorized id body now fault env node with
      ⟨result, node'', hresult, hinstalled, -, -⟩ |
        ⟨key, reason, certificate, store, files, crlDer, -, -, -, hresult, -⟩
    · rw [hresult] at h
      cases h
      exact hinstalled
    · rw [hresult] at h
      cases h
      exact absurd herror (by simp)

/-- **Enforced revocation is never undone.** In every server that is reached from any files by
requests, one after the other, and restarts, with faults at any step: the acceptor enforces only
serial numbers that are revoked in the file; what it enforces it enforces at every later point;
a revocation answered with 200 leaves it with exactly the serial numbers that are revoked in
memory; and a request answered with an error leaves it alone. -/
theorem enforcement_of_run {file : Option StoreFile} {crlFiles : CrlFiles} {server : Server}
    (run : serverSystem.Run (.down file crlFiles) server) :
    (∀ node, server = .up node → ∀ serial ∈ node.installed.serials,
        serial ∈ StoreFile.revokedSerials node.store.file) ∧
      (∀ server' (_ : serverSystem.Run server server') node node', server = .up node →
        server' = .up node' →
        ∀ serial ∈ node.installed.serials, serial ∈ node'.installed.serials) ∧
      (∀ node, server = .up node → ∀ authorized id body now fault env response node',
        HttpApi.handle node (.revoke authorized id body now fault env) =
          (.returned response, node') → response.status = 200 →
        (∀ serial, serial ∈ node'.installed.serials ↔
          serial ∈ node'.store.records.revokedSerials) ∧
        ∀ id record, node'.store.records.lookup id = some record → record.revoked = true →
          ∃ serial ∈ node'.installed.serials,
            hexToBytes record.serialNumber = .returned (some serial)) ∧
      ∀ node, server = .up node → ∀ request response node',
        HttpApi.handle node request = (.returned response, node') → 400 ≤ response.status →
        node'.installed = node.installed := by
  have hdown : (Server.down file crlFiles).Sound := trivial
  have hsound : server.Sound := Server.sound_of_run hdown run
  refine ⟨?_, ?_, ?_, ?_⟩
  · rintro node rfl
    exact hsound.installed_subset
  · rintro server' later node node' rfl rfl
    exact Server.extends_of_run hsound later
  · intro node _ authorized id body now fault env response node' h hok
    exact HttpApi.installed_of_revoke_ok h hok
  · intro node _ request response node' h herror
    exact HttpApi.installed_of_error h herror

/-- An environment in which nothing fails. -/
def faultlessEnvironment : RefreshEnvironment :=
  ⟨⟨true, .succeeded, 0, 0, 0, Records.byId, true, .succeeded⟩, true⟩

/-- The server after its first start, without any files before. -/
def startedNode : Node :=
  ⟨⟨∅, none⟩, ⟨some "1", some (.signed ⟨0, CrlManager.updatePeriod, 1, []⟩)⟩,
    ⟨0, CrlManager.updatePeriod, 1, []⟩⟩

theorem restart_eq_startedNode :
    (Server.down none ⟨none, none⟩).restart true faultlessEnvironment = .up startedNode := rfl

def startedRun : serverSystem.Run (.down none ⟨none, none⟩) (.up startedNode) :=
  .snoc .nil (.restart true faultlessEnvironment) (restart_eq_startedNode ▸ .restart _ _ _)

def issueRequest : Request :=
  .issue ⟨"workload", [], [], true, false⟩ (.signed 1 0 "0a" "" 0) none

/-- The server after it issued a certificate with the serial number ten. -/
def issuedNode : Node := (HttpApi.handle startedNode issueRequest).2

def issuedRun : serverSystem.Run (.down none ⟨none, none⟩) (.up issuedNode) :=
  startedRun.snoc (.request issueRequest) (.request issueRequest rfl)

theorem enforcement_of_run_issuedRun :
    [10] ∈ (HttpApi.handle issuedNode
      (.revoke true (some 1) (some none) 5 none faultlessEnvironment)).2.installed.serials := by
  have hexact := ((enforcement_of_run issuedRun).2.2.1 issuedNode rfl true (some 1) (some none) 5
    none faultlessEnvironment _ _ rfl rfl).1 [10]
  exact hexact.mpr ⟨1, _, rfl, rfl, by decide⟩

end DaemonPki
