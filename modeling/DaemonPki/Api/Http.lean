import DaemonPki.Api.Issuance

/-!
# Connections to the server

What the server does with one connection of an authenticated client
(`daemon-pki-api/src/http.rs`): one read of the stream, the parser of the head, the route, and the
handler, which finds in the body whatever the read has delivered. The parsers of the head, of the
two bodies and of an identifier are those of other crates and are arguments.

## Main definitions

* `DaemonPki.AuthorizationPolicy`, `DaemonPki.Crates`, `DaemonPki.ApiState`.
* `DaemonPki.HttpApi.route`, `DaemonPki.HttpApi.handleRoute`, `DaemonPki.HttpApi.handleConnection`.
* `DaemonPki.HttpApi.BodyAgrees`: two bodies mean the same to a handler.

## Main results

* `DaemonPki.HttpApi.node_handleConnection`: a connection is a request of the server.
* `DaemonPki.HttpApi.handleConnection_unauthorized`: unauthorized clients learn and change nothing.
* `DaemonPki.HttpApi.sameEffect_iff`: when it does not matter how the bytes arrive.
-/

namespace DaemonPki

open Foundation

/-! ### Who may do what -/

/-- Source: `tls/identity.rs`, lines 6–12. -/
structure MtlsIdentity where
  id : Uuid
  name : String
  serialNumber : String
  fingerprintSha256 : String
  deriving DecidableEq, Repr

/-- Source: `http.rs`, lines 56–59. -/
structure AuthorizationPolicy where
  certificateIssueIdentities : List String
  deriving DecidableEq, Repr

namespace AuthorizationPolicy

/-- Source: `http.rs`, lines 83–92. -/
def canIssueCertificates (policy : AuthorizationPolicy) (identity : MtlsIdentity) : Bool :=
  policy.certificateIssueIdentities.any fun allowed => allowed = identity.fingerprintSha256

/-- Source: `http.rs`, lines 94–115. -/
def rolesFor (policy : AuthorizationPolicy) (identity : MtlsIdentity) : List String :=
  if policy.canIssueCertificates identity then
    ["certificate:issue", "certificate:read", "certificate:revoke"]
  else []

end AuthorizationPolicy

/-! ### The parsers of other crates -/

/-- The result of the parser of the head: the method and the path, and where the body begins. -/
inductive HeadStatus
  | error
  | incomplete
  | complete (method path : String) (bodyOffset : ℕ)
  deriving DecidableEq, Repr

/-- The parsers that the server takes from other crates. -/
structure Crates where
  parseHead : List UInt8 → HeadStatus
  decodeIssue : List UInt8 → Option IssueCertificateRequest
  decodeRevoke : List UInt8 → Option (Option String)
  parseUuid : String → Option Uuid

/-- What the parsers promise: the head is parsed from its own bytes, and a beginning of it is
incomplete; a body that begins with a complete one is the same issuance. -/
structure Crates.Lawful (crates : Crates) : Prop where
  parseHead_prefix : ∀ {bytes rest method path offset},
    crates.parseHead (bytes ++ rest) = .complete method path offset →
    offset ≤ bytes.length → crates.parseHead bytes = .complete method path offset
  parseHead_incomplete : ∀ {bytes rest method path offset},
    crates.parseHead (bytes ++ rest) = .complete method path offset →
    bytes.length < offset → crates.parseHead bytes = .incomplete
  decodeIssue_prefix : ∀ {bytes rest value value'}, crates.decodeIssue bytes = some value →
    crates.decodeIssue (bytes ++ rest) = some value' → value = value'

/-! ### The server -/

/-- What is signed: a certificate, or a revocation list with its number. -/
inductive Signing
  | certificate (params : CertificateParams)
  | crl (crlNumber : ℕ) (crl : CertificateRevocationList)
  deriving DecidableEq, Repr

/-- The running server and its audit trail. What was handed to the signer is kept for the
statements. -/
structure ApiState where
  node : Node
  audit : AuditStore
  signings : List Signing

/-- How the server is set up. -/
structure ApiConfig where
  issuance : IssuancePolicy
  authorization : AuthorizationPolicy
  deriving DecidableEq, Repr

/-- What the environment does while a connection is handled. -/
structure ConnectionEnvironment where
  issuance : IssuanceEnvironment
  iteration : HashMap.Iteration Uuid CertificateRecord
  now : OffsetDateTime
  fault : Option PersistFault
  refresh : RefreshEnvironment

/-- What the client receives: nothing, as the connection is closed or its task panics, or a
response. -/
inductive Reply
  | closed
  | panicked
  | health
  | json (response : HttpResponse)
  deriving DecidableEq, Repr

/-- A handler that panics gives no response. -/
def Reply.ofOutcome : Outcome HttpResponse → Reply
  | .panicked => .panicked
  | .returned response => .json response

/-- The routes of the server. -/
inductive Route
  | health
  | issue
  | list
  | get (path : String)
  | revoke (path : String)
  | notFound
  deriving DecidableEq, Repr

/-- What the production of a list hands to the signer, if it gets there. -/
def CrlManager.signedList (env : CrlEnvironment) (records : Records) (files : CrlFiles) :
    Option (ℕ × CertificateRevocationList) :=
  match nextCrlNumber files.number env.readsNumber env.writesNumber,
    CertificateRevocationList.revokedCertParams (revocationList env records).entries with
  | (.ok crlNumber, _), .returned (.ok _) => some (crlNumber, revocationList env records)
  | _, _ => none

namespace HttpApi

/-- Source: `http.rs`, lines 689–702. -/
def certificateIdFromPath (crates : Crates) (path : String) : Option Uuid :=
  match Text.stripPrefix "/v1/certificates/".toList path.toList with
  | none => none
  | some idText =>
    if idText.isEmpty || idText.contains '/' then none
    else crates.parseUuid (String.ofList idText)

/-- Source: `http.rs`, lines 704–718. -/
def certificateIdFromRevokePath (crates : Crates) (path : String) : Option Uuid :=
  match Text.stripPrefix "/v1/certificates/".toList path.toList with
  | none => none
  | some rest =>
    match Text.stripSuffix "/revoke".toList rest with
    | none => none
    | some idText =>
      if idText.isEmpty || idText.contains '/' then none
      else crates.parseUuid (String.ofList idText)

/-- The cases in their order. Source: `http.rs`, lines 294–359. -/
def route (method path : String) : Route :=
  if method = "GET" && path = "/health" then .health
  else if method = "POST" && path = "/v1/certificates/issue" then .issue
  else if method = "GET" && path = "/v1/certificates" then .list
  else if method = "GET" && "/v1/certificates/".toList.isPrefixOf path.toList then .get path
  else if method = "POST" && "/revoke".toList.isSuffixOf path.toList &&
      "/v1/certificates/".toList.isPrefixOf path.toList then .revoke path
  else .notFound

/-- The body of the response to an issuance. -/
def issuedBody (response : IssueCertificateResponse) : ResponseBody :=
  .issued response.certificatePem response.issuer
    ⟨response.commonName, response.dnsNames, response.ipAddresses, response.clientAuth,
      response.serverAuth⟩

/-- The response to an issuance. Source: `http.rs`, lines 411–445. -/
def issueReply :
    Except IssuanceServiceError (IssueCertificateResponse × IssuanceAuditEvent) → HttpResponse
  | .ok (response, _) => ⟨201, issuedBody response⟩
  | .error error => ⟨if error = .unauthorized then 403 else 400, .error error.toString⟩

/-- Source: `http.rs`, lines 364–448. -/
def handleIssueBody (crates : Crates) (config : ApiConfig) (body : List UInt8)
    (identity : MtlsIdentity) (env : ConnectionEnvironment) (state : ApiState) :
    HttpResponse × ApiState :=
  match crates.decodeIssue body with
  | none => (⟨400, .error "invalid JSON request body"⟩, state)
  | some request =>
    let principal : AuthenticatedPrincipal :=
      { id := identity.id
        name := identity.name
        roles := config.authorization.rolesFor identity }
    let issued := IssuanceService.issue config.issuance principal request env.issuance
      ⟨state.node.store, state.audit, []⟩
    (issueReply issued.1,
      { node := { state.node with store := issued.2.store }
        audit := issued.2.audit
        signings := state.signings ++ issued.2.signed.map .certificate })

/-- The reason in the body of a request to revoke. Source: `http.rs`, lines 602–625. -/
def revokeBody (crates : Crates) (body : List UInt8) : Option (Option String) :=
  if body.isEmpty then some none else crates.decodeRevoke body

/-- What a request to revoke hands to the signer. Source: `http.rs`, lines 628–638. -/
def revokeSignings (authorized : Bool) (id : Option Uuid) (body : Option (Option String))
    (env : ConnectionEnvironment) (node : Node) : List Signing :=
  match authorized, id, body with
  | true, some id, some reason =>
    match node.store.revoke env.now id (reason.getD "revoked by operator") env.fault with
    | (.ok (some _), store) =>
      ((CrlManager.signedList env.refresh.crl store.records node.crlFiles).map
        fun (crlNumber, crl) => Signing.crl crlNumber crl).toList
    | _ => []
  | _, _, _ => []

/-- The handler of a route. Source: `http.rs`, lines 294–361. -/
def handleRoute (crates : Crates) (config : ApiConfig) (identity : MtlsIdentity)
    (env : ConnectionEnvironment) (body : List UInt8) (state : ApiState) :
    Route → Reply × ApiState
  | .health => (.health, state)
  | .issue =>
    let (response, state) := handleIssueBody crates config body identity env state
    (.json response, state)
  | .list =>
    (.json (handleListCertificates (config.authorization.canIssueCertificates identity)
      env.iteration state.node), state)
  | .get path =>
    (.json (handleGetCertificate (config.authorization.canIssueCertificates identity)
      (certificateIdFromPath crates path) state.node), state)
  | .revoke path =>
    let authorized := config.authorization.canIssueCertificates identity
    let id := certificateIdFromRevokePath crates path
    let (outcome, node) := handleRevokeCertificate authorized id (revokeBody crates body) env.now
      env.fault env.refresh state.node
    let signings := revokeSignings authorized id (revokeBody crates body) env state.node
    (.ofOutcome outcome,
      { state with
        node := node
        signings := state.signings ++ signings })
  | .notFound => (.json ⟨404, .error "endpoint not found"⟩, state)

/-- The only read of the stream: what arrives first, as far as the buffer takes it. Source:
`http.rs`, lines 245–256. -/
def readRequest (fragments : List (List UInt8)) : List UInt8 :=
  (fragments.headD []).take 65536

/-- Source: `http.rs`, lines 238–362. -/
def handleConnection (crates : Crates) (config : ApiConfig) (identity : MtlsIdentity)
    (env : ConnectionEnvironment) (fragments : List (List UInt8)) (state : ApiState) :
    Reply × ApiState :=
  let requestBytes := readRequest fragments
  if requestBytes.isEmpty then (.closed, state)
  else
    match crates.parseHead requestBytes with
    | .error => (.closed, state)
    | .incomplete => (.json ⟨400, .error "incomplete HTTP request"⟩, state)
    | .complete method path bodyOffset =>
      handleRoute crates config identity env (requestBytes.drop bodyOffset) state
        (route method path)

variable {crates : Crates} {config : ApiConfig} {identity : MtlsIdentity}
  {env : ConnectionEnvironment} {state : ApiState} {body : List UInt8}

/-! ### A connection is a request of the server -/

/-- An issuance over a connection is a request to issue. -/
theorem node_handleIssueBody (crates : Crates) (config : ApiConfig) (body : List UInt8)
    (identity : MtlsIdentity) (env : ConnectionEnvironment) (state : ApiState) :
    (handleIssueBody crates config body identity env state).2.node = state.node ∨
      ∃ request, (handle state.node request).2 =
        (handleIssueBody crates config body identity env state).2.node := by
  rw [handleIssueBody]
  cases hdecode : crates.decodeIssue body with
  | none => exact Or.inl rfl
  | some request =>
    simp only
    have hends := IssuanceService.issue_ends config.issuance
      ⟨identity.id, identity.name, config.authorization.rolesFor identity⟩ request env.issuance
      ⟨state.node.store, state.audit, []⟩
    generalize IssuanceService.issue config.issuance
      ⟨identity.id, identity.name, config.authorization.rolesFor identity⟩ request env.issuance
      ⟨state.node.store, state.audit, []⟩ = issued at hends ⊢
    obtain ⟨result, issued⟩ := issued
    cases hends with
    | refused _ => exact Or.inl rfl
    | failed _ => exact Or.inl rfl
    | unreadable _ _ => exact Or.inl rfl
    | @unstored certificate parsed _ _ _ _ _ hinsert =>
      refine Or.inr ⟨.issue request (.signed env.issuance.recordId env.issuance.issuedAt
        (serialText parsed.serial) certificate.pem parsed.notAfter) env.issuance.fault, ?_⟩
      rw [handle, handleIssue, hinsert]
    | @issued certificate parsed _ _ _ _ _ hinsert =>
      refine Or.inr ⟨.issue request (.signed env.issuance.recordId env.issuance.issuedAt
        (serialText parsed.serial) certificate.pem parsed.notAfter) env.issuance.fault, ?_⟩
      rw [handle, handleIssue, hinsert]

/-- **A connection is a request of the server**, or leaves it as it was. -/
theorem node_handleConnection (crates : Crates) (config : ApiConfig) (identity : MtlsIdentity)
    (env : ConnectionEnvironment) (fragments : List (List UInt8)) (state : ApiState) :
    (handleConnection crates config identity env fragments state).2.node = state.node ∨
      ∃ request, (handle state.node request).2 =
        (handleConnection crates config identity env fragments state).2.node := by
  rw [handleConnection]
  split_ifs
  · exact Or.inl rfl
  · split
    · exact Or.inl rfl
    · exact Or.inl rfl
    next method path bodyOffset _ =>
      cases route method path with
      | issue => exact node_handleIssueBody ..
      | revoke path => exact Or.inr ⟨.revoke (config.authorization.canIssueCertificates identity)
          (certificateIdFromRevokePath crates path) (revokeBody crates _) env.now env.fault
          env.refresh, rfl⟩
      | _ => exact Or.inl rfl

/-! ### Unauthorized clients -/

/-- The reply to a client that is not authorized. -/
def unauthorizedReply (crates : Crates) (body : List UInt8) : Route → Reply
  | .health => .health
  | .issue =>
    match crates.decodeIssue body with
    | none => .json ⟨400, .error "invalid JSON request body"⟩
    | some _ => .json ⟨403, .error "caller is not authorized to issue certificates"⟩
  | .list | .get _ => .json ⟨403, .error "certificate inventory access is not authorized"⟩
  | .revoke _ => .json ⟨403, .error "certificate revocation is not authorized"⟩
  | .notFound => .json ⟨404, .error "endpoint not found"⟩

/-- Nothing has changed, but that a denial may have been recorded. -/
def DeniedAtMost (before after : ApiState) : Prop :=
  after.node = before.node ∧ after.signings = before.signings ∧
    (after.audit = before.audit ∨ ∃ event, after.audit = before.audit.record event ∧
      event.eventType = .authorizationDenied ∧ event.outcome = .denied)

theorem handleRoute_unauthorized
    (h : config.authorization.canIssueCertificates identity = false) (route : Route) :
    (handleRoute crates config identity env body state route).1 =
        unauthorizedReply crates body route ∧
      DeniedAtMost state (handleRoute crates config identity env body state route).2 := by
  cases route with
  | issue =>
    rw [handleRoute, unauthorizedReply, handleIssueBody]
    cases crates.decodeIssue body with
    | none => exact ⟨rfl, rfl, rfl, Or.inl rfl⟩
    | some request =>
      rw [AuthorizationPolicy.rolesFor, h]
      obtain ⟨event, hrecord, htype, houtcome, -⟩ := IssuanceService.recordEvent_eq env.issuance
        ⟨identity.id, identity.name, []⟩ .authorizationDenied .denied request.commonName
        (some "caller is not authorized to issue certificates") state.audit
      refine ⟨rfl, rfl, List.append_nil _, Or.inr ⟨event, ?_, htype, houtcome⟩⟩
      rw [← hrecord]
      rfl
  | list =>
    rw [handleRoute, h]
    exact ⟨rfl, rfl, rfl, Or.inl rfl⟩
  | get path =>
    rw [handleRoute, h]
    exact ⟨rfl, rfl, rfl, Or.inl rfl⟩
  | revoke path =>
    rw [handleRoute, h]
    exact ⟨rfl, rfl, List.append_nil _, Or.inl rfl⟩
  | _ => exact ⟨rfl, rfl, rfl, Or.inl rfl⟩

/-- **Unauthorized clients learn and change nothing.** Whatever the bytes of the request and
however they arrive, the reply to a client that is not authorized is the same in all states and
environments, and the connection changes no store, no file and no acceptor, signs nothing, and
appends one denial to the audit trail at most. -/
theorem handleConnection_unauthorized
    (h : identity.fingerprintSha256 ∉ config.authorization.certificateIssueIdentities)
    (fragments : List (List UInt8)) :
    (∀ env env' state state',
      (handleConnection crates config identity env fragments state).1 =
        (handleConnection crates config identity env' fragments state').1) ∧
    ∀ env state,
      DeniedAtMost state (handleConnection crates config identity env fragments state).2 := by
  have hcan : config.authorization.canIssueCertificates identity = false := by
    rw [AuthorizationPolicy.canIssueCertificates, List.any_eq_false]
    intro allowed hallowed hsame
    exact h (of_decide_eq_true hsame ▸ hallowed)
  constructor
  · intro env env' state state'
    rw [handleConnection, handleConnection]
    split_ifs
    · rfl
    · split
      · rfl
      · rfl
      · exact (handleRoute_unauthorized hcan _).1.trans (handleRoute_unauthorized hcan _).1.symm
  · intro env state
    rw [handleConnection]
    split_ifs
    · exact ⟨rfl, rfl, Or.inl rfl⟩
    · split
      · exact ⟨rfl, rfl, Or.inl rfl⟩
      · exact ⟨rfl, rfl, Or.inl rfl⟩
      · exact (handleRoute_unauthorized hcan _).2

/-! ### How the bytes arrive -/

/-- The reason that a request to revoke records, if its body can be decoded. -/
def revokeReason (crates : Crates) (body : List UInt8) : Option String :=
  (revokeBody crates body).map fun reason => reason.getD "revoked by operator"

/-- Two bodies mean the same to the handler of a route. To the one of revocations, bodies with
different reasons mean the same when no reason is recorded. -/
def BodyAgrees (crates : Crates) (config : ApiConfig) (identity : MtlsIdentity) (node : Node)
    (received whole : List UInt8) : Route → Prop
  | .issue => crates.decodeIssue received = crates.decodeIssue whole
  | .revoke path => config.authorization.canIssueCertificates identity = true →
      ∀ id, certificateIdFromRevokePath crates path = some id →
        revokeReason crates received = revokeReason crates whole ∨
          (revokeReason crates received).isSome = true ∧
            (revokeReason crates whole).isSome = true ∧
            ∀ record, node.store.records.lookup id = some record → record.revoked = true
  | _ => True

theorem bodyAgrees_self (crates : Crates) (config : ApiConfig) (identity : MtlsIdentity)
    (node : Node) (body : List UInt8) (route : Route) :
    BodyAgrees crates config identity node body body route := by
  cases route with
  | issue => exact rfl
  | revoke path => exact fun _ _ _ => Or.inl rfl
  | _ => trivial

/-- The texts of the errors of an issuance begin alike. -/
theorem head?_toString (error : IssuanceServiceError) : error.toString.toList.head? = some 'c' := by
  have happend : ∀ {start : String} (rest : String), start.toList.head? = some 'c' →
      (start ++ rest).toList.head? = some 'c' := by
    intro start rest h
    rw [String.toList_append, List.head?_append, h, Option.some_or]
  cases error with
  | certificateStore error => exact happend error (by decide)
  | unauthorized => decide
  | invalidRequest reason => exact happend reason (by decide)
  | issuance error => exact happend error.toString (by decide)

/-- No issuance is answered with an error of the connection. -/
theorem issueReply_ne {message : String} (h : message.toList.head? ≠ some 'c')
    (result : Except IssuanceServiceError (IssueCertificateResponse × IssuanceAuditEvent)) :
    issueReply result ≠ ⟨400, .error message⟩ := by
  cases result with
  | ok response =>
    intro heq
    cases congrArg HttpResponse.status heq
  | error error =>
    intro heq
    have hbody := ResponseBody.error.inj (congrArg HttpResponse.body heq)
    exact h (hbody ▸ head?_toString error)

/-- What a revocation that was understood does to the store, and how it may be answered. -/
theorem handleRevokeCertificate_decoded (id : Uuid) (reason : Option String)
    (now : OffsetDateTime) (fault : Option PersistFault) (env : RefreshEnvironment) (node : Node) :
    (handleRevokeCertificate true (some id) (some reason) now fault env node).2.store =
        (node.store.revoke now id (reason.getD "revoked by operator") fault).2 ∧
      ∀ response, (handleRevokeCertificate true (some id) (some reason) now fault env node).1 =
        .returned response → response.status ∈ [200, 404, 500] := by
  rw [handleRevokeCertificate, if_neg (by decide)]
  rcases hrevoke : node.store.revoke now id (reason.getD "revoked by operator") fault with
    ⟨e | _ | certificate, store⟩
  · refine ⟨rfl, fun response h => ?_⟩
    cases h
    exact (by decide : 500 ∈ [200, 404, 500])
  · refine ⟨rfl, fun response h => ?_⟩
    cases h
    exact (by decide : 404 ∈ [200, 404, 500])
  · rcases TlsAcceptorManager.refresh_cases env { node with store := store } with
      ⟨(e | _) | _, files, hrefresh, hfails⟩ | ⟨files, crlDer, hrefresh, -⟩ <;>
      simp only [hrefresh, true_and]
    · intro response h
      cases h
      exact (by decide : 500 ∈ [200, 404, 500])
    · exact absurd rfl hfails
    · rintro response ⟨⟩
    · intro response h
      cases h
      exact (by decide : 200 ∈ [200, 404, 500])

/-- A revocation leaves the other records alone. -/
theorem lookup_revoke_of_ne (store : CertificateStore) (now : OffsetDateTime) {id k : Uuid}
    (hk : k ≠ id) (reason : String) (fault : Option PersistFault) :
    (store.revoke now id reason fault).2.records.lookup k = store.records.lookup k := by
  rw [CertificateStore.revoke]
  cases hrevoke : store.records.revokeRecord now id reason with
  | none => rfl
  | some result =>
    obtain ⟨updated, records⟩ := result
    obtain ⟨record, hrecord, rfl, rfl⟩ := Records.revokeRecord_eq_some hrevoke
    rcases CertificateStore.persist_cases { store with
        records := store.records.insert id (Records.markRevoked now reason record) } fault with
      hp | ⟨e, hp⟩ <;> simp only [hp] <;> exact Finmap.lookup_insert_of_ne _ hk

/-- The effect of a revocation on its record: the reason is recorded unless the record is revoked
already. -/
theorem lookup_revoke (store : CertificateStore) (now : OffsetDateTime) (id : Uuid)
    (reason : String) (fault : Option PersistFault) :
    (store.revoke now id reason fault).2.records.lookup id =
      (store.records.lookup id).map (Records.markRevoked now reason) := by
  rw [CertificateStore.revoke]
  cases hrevoke : store.records.revokeRecord now id reason with
  | none =>
    have hrecord := Records.lookup_of_revokeRecord_eq_none hrevoke
    simp only [hrecord, Option.map_none]
  | some result =>
    obtain ⟨updated, records⟩ := result
    obtain ⟨record, hrecord, rfl, rfl⟩ := Records.revokeRecord_eq_some hrevoke
    rw [hrecord, Option.map_some]
    rcases CertificateStore.persist_cases { store with
        records := store.records.insert id (Records.markRevoked now reason record) } fault with
      hp | ⟨e, hp⟩ <;> simp only [hp] <;> exact Finmap.lookup_insert _

/-- Two revocations of one record have the same effect exactly when their bodies agree. -/
theorem handleRevokeCertificate_sameEffect_iff (id : Uuid) (body body' : Option (Option String))
    (now : OffsetDateTime) (fault : Option PersistFault) (env : RefreshEnvironment) (node : Node) :
    (handleRevokeCertificate true (some id) body now fault env node).1 =
          (handleRevokeCertificate true (some id) body' now fault env node).1 ∧
        (handleRevokeCertificate true (some id) body now fault env node).2.store =
          (handleRevokeCertificate true (some id) body' now fault env node).2.store ↔
      body.map (fun reason => reason.getD "revoked by operator") =
          body'.map (fun reason => reason.getD "revoked by operator") ∨
        body.isSome = true ∧ body'.isSome = true ∧
          ∀ record, node.store.records.lookup id = some record → record.revoked = true := by
  cases body with
  | none =>
    cases body' with
    | none => exact iff_of_true ⟨rfl, rfl⟩ (Or.inl rfl)
    | some reason =>
      refine iff_of_false (fun h => ?_) (by simp)
      exact absurd ((handleRevokeCertificate_decoded id reason now fault env node).2 _ h.1.symm)
        (by decide)
  | some reason =>
    cases body' with
    | none =>
      refine iff_of_false (fun h => ?_) (by simp)
      exact absurd ((handleRevokeCertificate_decoded id reason now fault env node).2 _ h.1)
        (by decide)
    | some reason' =>
      by_cases hreason : reason.getD "revoked by operator" = reason'.getD "revoked by operator"
      · refine iff_of_true ?_ (Or.inl (congrArg some hreason))
        simp only [handleRevokeCertificate, hreason, and_self]
      by_cases hrevoked : ∀ record, node.store.records.lookup id = some record →
          record.revoked = true
      · refine iff_of_true ?_ (Or.inr ⟨rfl, rfl, hrevoked⟩)
        have hsame := Records.revokeRecord_congr hrevoked now (reason.getD "revoked by operator")
          (reason'.getD "revoked by operator")
        simp only [handleRevokeCertificate, CertificateStore.revoke, hsame, and_self]
      · refine iff_of_false (fun h => ?_) (by simp [hreason, hrevoked])
        push Not at hrevoked
        obtain ⟨record, hrecord, hfresh⟩ := hrevoked
        have hstore := h.2
        rw [(handleRevokeCertificate_decoded id reason now fault env node).1,
          (handleRevokeCertificate_decoded id reason' now fault env node).1] at hstore
        have hlookup := congrArg (fun store => store.records.lookup id) hstore
        simp only [lookup_revoke, hrecord, Option.map_some, Option.some.injEq, Records.markRevoked,
          Bool.not_eq_true _ |>.mp hfresh] at hlookup
        exact hreason (by simpa using congrArg CertificateRecord.revocationReason hlookup)

theorem Reply.ofOutcome_inj {outcome outcome' : Outcome HttpResponse} :
    Reply.ofOutcome outcome = Reply.ofOutcome outcome' ↔ outcome = outcome' := by
  cases outcome <;> cases outcome' <;> simp [Reply.ofOutcome]

/-- Two issuances, one body beginning with the other, have the same effect exactly when the bodies
are the same issuance. -/
theorem handleIssueBody_sameEffect_iff (hlawful : crates.Lawful) (received rest : List UInt8) :
    (handleIssueBody crates config received identity env state).1 =
          (handleIssueBody crates config (received ++ rest) identity env state).1 ∧
        (handleIssueBody crates config received identity env state).2.node.store =
          (handleIssueBody crates config (received ++ rest) identity env state).2.node.store ↔
      crates.decodeIssue received = crates.decodeIssue (received ++ rest) := by
  have hother : "invalid JSON request body".toList.head? ≠ some 'c' := by decide
  rw [handleIssueBody, handleIssueBody]
  cases hreceived : crates.decodeIssue received with
  | none =>
    cases hwhole : crates.decodeIssue (received ++ rest) with
    | none => simp
    | some request => exact iff_of_false (fun h => issueReply_ne hother _ h.1.symm) (by simp)
  | some request =>
    cases hwhole : crates.decodeIssue (received ++ rest) with
    | none => exact iff_of_false (fun h => issueReply_ne hother _ h.1) (by simp)
    | some request' =>
      obtain rfl := hlawful.decodeIssue_prefix hreceived hwhole
      simp

/-- The route with two bodies, of which one begins with the other, has the same effect exactly when
they agree. -/
theorem handleRoute_sameEffect_iff (hlawful : crates.Lawful) (received rest : List UInt8)
    (route : Route) :
    (handleRoute crates config identity env received state route).1 =
          (handleRoute crates config identity env (received ++ rest) state route).1 ∧
        (handleRoute crates config identity env received state route).2.node.store =
          (handleRoute crates config identity env (received ++ rest) state route).2.node.store ↔
      BodyAgrees crates config identity state.node received (received ++ rest) route := by
  cases route with
  | issue =>
    simp only [handleRoute, BodyAgrees, Reply.json.injEq]
    exact handleIssueBody_sameEffect_iff hlawful received rest
  | revoke path =>
    simp only [handleRoute, BodyAgrees, Reply.ofOutcome_inj]
    cases hauthorized : config.authorization.canIssueCertificates identity with
    | false => simp [handleRevokeCertificate]
    | true =>
      cases hid : certificateIdFromRevokePath crates path with
      | none => simp [handleRevokeCertificate]
      | some id =>
        rw [handleRevokeCertificate_sameEffect_iff]
        simp [revokeReason]
  | _ => exact iff_of_true ⟨rfl, rfl⟩ trivial

/-- No handler answers that the request is incomplete. -/
theorem handleRoute_ne_incomplete (route : Route) :
    (handleRoute crates config identity env body state route).1 ≠
      .json ⟨400, .error "incomplete HTTP request"⟩ := by
  have hother : "incomplete HTTP request".toList.head? ≠ some 'c' := by decide
  cases route with
  | health => rintro ⟨⟩
  | notFound => rintro ⟨⟩
  | issue =>
    rw [handleRoute, handleIssueBody]
    cases crates.decodeIssue body with
    | none =>
      show Reply.json ⟨400, .error "invalid JSON request body"⟩ ≠ _
      decide
    | some request => exact fun h => issueReply_ne hother _ (Reply.json.inj h)
  | list =>
    rw [handleRoute, handleListCertificates]
    split_ifs <;> rintro ⟨⟩
  | get path =>
    rw [handleRoute]
    cases config.authorization.canIssueCertificates identity with
    | false => rintro ⟨⟩
    | true =>
      cases certificateIdFromPath crates path with
      | none =>
        show Reply.json ⟨400, .error "invalid certificate id"⟩ ≠ _
        decide
      | some id =>
        rw [handleGetCertificate, if_neg (by decide)]
        simp only
        cases state.node.store.get id <;> rintro ⟨⟩
  | revoke path =>
    rw [handleRoute]
    cases config.authorization.canIssueCertificates identity with
    | false => rintro ⟨⟩
    | true =>
      cases certificateIdFromRevokePath crates path with
      | none =>
        show Reply.json ⟨400, .error "invalid certificate id"⟩ ≠ _
        decide
      | some id =>
        cases revokeBody crates body with
        | none =>
          show Reply.json ⟨400, .error "invalid JSON request body"⟩ ≠ _
          decide
        | some reason =>
          intro h
          have hreply : (handleRevokeCertificate true (some id) (some reason) env.now env.fault
              env.refresh state.node).1 = .returned _ := Reply.ofOutcome_inj.mp h
          exact absurd ((handleRevokeCertificate_decoded id reason env.now env.fault env.refresh
            state.node).2 _ hreply) (by decide)

/-- The connection has the same reply and leaves the same store as when the bytes arrive at
once. -/
def SameEffect (crates : Crates) (config : ApiConfig) (identity : MtlsIdentity)
    (env : ConnectionEnvironment) (fragments : List (List UInt8)) (state : ApiState) : Prop :=
  (handleConnection crates config identity env fragments state).1 =
      (handleConnection crates config identity env [fragments.flatten] state).1 ∧
    (handleConnection crates config identity env fragments state).2.node.store =
      (handleConnection crates config identity env [fragments.flatten] state).2.node.store

/-- **When it does not matter how the bytes arrive.** A complete request that fits the buffer has
the same effect as when it arrives at once exactly when the first read has its whole head, and
what it has of the body means the same to the handler as the whole body. -/
theorem sameEffect_iff (hlawful : crates.Lawful) {fragments : List (List UInt8)}
    (hfragments : ∀ fragment ∈ fragments, fragment ≠ [])
    (hlength : fragments.flatten.length ≤ 65536) {method path : String} {offset : ℕ}
    (hcomplete : crates.parseHead fragments.flatten = .complete method path offset) :
    SameEffect crates config identity env fragments state ↔
      offset ≤ (fragments.headD []).length ∧
        BodyAgrees crates config identity state.node ((fragments.headD []).drop offset)
          (fragments.flatten.drop offset) (route method path) := by
  cases fragments with
  | nil =>
    have hoffset : offset ≤ 0 := by
      by_contra hlt
      have hcomplete : crates.parseHead ([] ++ []) = .complete method path offset := hcomplete
      have hincomplete := hlawful.parseHead_incomplete hcomplete (Nat.lt_of_not_le hlt)
      rw [List.append_nil, hincomplete] at hcomplete
      cases hcomplete
    exact iff_of_true ⟨rfl, rfl⟩ ⟨hoffset, bodyAgrees_self ..⟩
  | cons first fragments =>
    have hfirst : first ≠ [] := hfragments first List.mem_cons_self
    rw [List.flatten_cons] at hlength hcomplete
    have hread : readRequest (first :: fragments) = first := by
      rw [List.length_append] at hlength
      exact List.take_of_length_le (show first.length ≤ 65536 by omega)
    have hreadWhole : readRequest [first ++ fragments.flatten] = first ++ fragments.flatten :=
      List.take_of_length_le hlength
    rw [SameEffect, List.flatten_cons, handleConnection, handleConnection, hread, hreadWhole,
      List.headD_cons, if_neg (by simpa using hfirst), if_neg (by simp [hfirst])]
    simp only [hcomplete]
    by_cases hoffset : offset ≤ first.length
    · rw [List.drop_append_of_le_length hoffset, hlawful.parseHead_prefix hcomplete hoffset]
      exact (handleRoute_sameEffect_iff hlawful _ _ _).trans (and_iff_right hoffset).symm
    · rw [hlawful.parseHead_incomplete hcomplete (Nat.lt_of_not_le hoffset)]
      refine iff_of_false (fun h => ?_) (fun h => hoffset h.1)
      exact handleRoute_ne_incomplete _ h.1.symm

/-! ### A request to revoke -/

def revokePath : String := "/v1/certificates/00000000000000000000000000000001/revoke"

/-- The head of a request to revoke. -/
def revokeHead : List UInt8 :=
  Text.utf8 ("POST " ++ revokePath ++ " HTTP/1.1\r\nContent-Length: 26\r\n\r\n").toList

/-- Its body, with a reason. -/
def reasonBody : List UInt8 := Text.utf8 "\x7b\"reason\":\"keyCompromise\"\x7d".toList

/-- The parsers on the bytes of this request. -/
def revokeCrates : Crates where
  parseHead bytes :=
    if revokeHead.isPrefixOf bytes then
      .complete "POST" revokePath revokeHead.length
    else if bytes.isPrefixOf revokeHead then .incomplete
    else .error
  decodeIssue _ := none
  decodeRevoke bytes := if bytes = reasonBody then some (some "keyCompromise") else none
  parseUuid text := if text = "00000000000000000000000000000001" then some 1 else none

theorem lawful_revokeCrates : revokeCrates.Lawful := by
  have hhead : ∀ {bytes method path offset}, revokeCrates.parseHead bytes =
      .complete method path offset → revokeHead <+: bytes ∧ method = "POST" ∧
        path = revokePath ∧ offset = revokeHead.length := by
    intro bytes method path offset h
    simp only [revokeCrates] at h
    split_ifs at h with hbegins
    cases h
    exact ⟨List.isPrefixOf_iff_prefix.mp hbegins, rfl, rfl, rfl⟩
  refine ⟨?_, ?_, ?_⟩
  · intro bytes rest method path offset h hle
    obtain ⟨hbegins, hmethod, hpath, hoffset⟩ := hhead h
    rw [hoffset] at hle
    have hbytes := List.prefix_of_prefix_length_le hbegins (List.prefix_append bytes rest) hle
    simp only [revokeCrates, if_pos (List.isPrefixOf_iff_prefix.mpr hbytes), hmethod, hpath,
      hoffset]
  · intro bytes rest method path offset h hlt
    obtain ⟨hbegins, -, -, hoffset⟩ := hhead h
    rw [hoffset] at hlt
    have hbytes := List.prefix_of_prefix_length_le (List.prefix_append bytes rest) hbegins hlt.le
    have hnot : ¬ revokeHead <+: bytes := fun hle => absurd hle.length_le (Nat.not_le.mpr hlt)
    simp only [revokeCrates, if_neg (fun h => hnot (List.isPrefixOf_iff_prefix.mp h)),
      if_pos (List.isPrefixOf_iff_prefix.mpr hbytes)]
  · rintro bytes rest value value' ⟨⟩

def operatorIdentity : MtlsIdentity := ⟨7, "operator", "0c", "operator-fingerprint"⟩

def operatorConfig : ApiConfig := ⟨.default, ⟨["operator-fingerprint"]⟩⟩

def strangerIdentity : MtlsIdentity := ⟨8, "stranger", "0d", "stranger-fingerprint"⟩

def sampleConnection : ConnectionEnvironment :=
  ⟨IssuanceService.sampleEnvironment none, Records.byId, 5, none, faultlessEnvironment⟩

/-- A stranger is refused in the same way, whether the certificate is there or not. -/
theorem handleConnection_unauthorized_stranger :
    (handleConnection revokeCrates operatorConfig strangerIdentity sampleConnection
        [revokeHead ++ reasonBody] ⟨issuedNode, ⟨[]⟩, []⟩).1 =
      (handleConnection revokeCrates operatorConfig strangerIdentity sampleConnection
        [revokeHead ++ reasonBody] ⟨startedNode, ⟨[]⟩, []⟩).1 ∧
    DeniedAtMost ⟨issuedNode, ⟨[]⟩, []⟩ (handleConnection revokeCrates operatorConfig
      strangerIdentity sampleConnection [revokeHead ++ reasonBody] ⟨issuedNode, ⟨[]⟩, []⟩).2 := by
  have hstranger : strangerIdentity.fingerprintSha256 ∉
      operatorConfig.authorization.certificateIssueIdentities := by decide
  exact ⟨(handleConnection_unauthorized hstranger _).1 _ _ _ _,
    (handleConnection_unauthorized hstranger _).2 _ _⟩

/-- To a stranger, who is refused before the body is looked at, it does not matter that the body
arrives after the head. -/
theorem sameEffect_iff_stranger : SameEffect revokeCrates operatorConfig strangerIdentity
    sampleConnection [revokeHead, reasonBody] ⟨issuedNode, ⟨[]⟩, []⟩ := by
  have hfragments : ∀ fragment ∈ [revokeHead, reasonBody], fragment ≠ [] := by decide
  have hlength : [revokeHead, reasonBody].flatten.length ≤ 65536 := by decide +kernel
  have hcomplete : revokeCrates.parseHead [revokeHead, reasonBody].flatten =
      .complete "POST" revokePath revokeHead.length := by
    decide +kernel
  refine (sameEffect_iff lawful_revokeCrates hfragments hlength hcomplete).mpr ⟨le_refl _, ?_⟩
  exact fun hauthorized => absurd hauthorized (by decide)

/-- An operator's request whose body arrives after the head: the certificate is revoked, and the
reason that is recorded is not the one of the request. -/
theorem not_sameEffect_splitRevocation :
    ¬ SameEffect revokeCrates operatorConfig operatorIdentity sampleConnection
        [revokeHead, reasonBody] ⟨issuedNode, ⟨[]⟩, []⟩ ∧
      (((handleConnection revokeCrates operatorConfig operatorIdentity sampleConnection
        [revokeHead, reasonBody] ⟨issuedNode, ⟨[]⟩, []⟩).2.node.store.get 1).map
          CertificateRecord.revocationReason) = some (some "revoked by operator") ∧
      (((handleConnection revokeCrates operatorConfig operatorIdentity sampleConnection
        [revokeHead ++ reasonBody] ⟨issuedNode, ⟨[]⟩, []⟩).2.node.store.get 1).map
          CertificateRecord.revocationReason) = some (some "keyCompromise") := by
  have hsplit : ((handleConnection revokeCrates operatorConfig operatorIdentity sampleConnection
      [revokeHead, reasonBody] ⟨issuedNode, ⟨[]⟩, []⟩).2.node.store.get 1).map
        CertificateRecord.revocationReason = some (some "revoked by operator") := by
    decide +kernel
  have hwhole : ((handleConnection revokeCrates operatorConfig operatorIdentity sampleConnection
      [revokeHead ++ reasonBody] ⟨issuedNode, ⟨[]⟩, []⟩).2.node.store.get 1).map
        CertificateRecord.revocationReason = some (some "keyCompromise") := by
    decide +kernel
  refine ⟨fun h => ?_, hsplit, hwhole⟩
  have hsame := congrArg
    (fun store => (CertificateStore.get store 1).map CertificateRecord.revocationReason) h.2
  simp only [List.flatten_cons, List.flatten_nil, List.append_nil] at hsame
  rw [hsplit, hwhole] at hsame
  revert hsame
  decide

end HttpApi

end DaemonPki
