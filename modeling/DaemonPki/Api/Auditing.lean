import DaemonPki.Api.Connections

/-!
# What the audit trail says about the requests

The policy of the project is that all security-sensitive operations generate audit events. Of the
handlers of the API (`daemon-pki-api/src/http.rs`) only the one of issuances goes through the
service that records events; a revocation, and a refusal by any of the other handlers, leaves no
trace. The theorems of this file say which requests are audited as the policy asks, and what the
numbers of events and of requests have to do with each other along a run.

## Main definitions

* `DaemonPki.ApiRequest`, `DaemonPki.apiSystem`: the server under requests one after the other.
* `DaemonPki.Audited`: a revocation and a refusal append exactly one event that names them.
* `DaemonPki.Unrecorded`: the requests that the handlers record nothing about.

## Main results

* `DaemonPki.audit_cases`: what a request appends to the audit trail.
* `DaemonPki.audited_iff_of_run`: when all requests of a run are audited, and the events accounted
  for.
-/

namespace DaemonPki

open Foundation

/-- A request: the certificate of the client, what arrives on its connection, and what the
environment does while it is handled. -/
structure ApiRequest where
  identity : MtlsIdentity
  fragments : List (List UInt8)
  env : ConnectionEnvironment

namespace HttpApi

/-- The route of a connection and the body that its handler finds, when it comes to a handler.
Source: `http.rs`, lines 245–292. -/
def received (crates : Crates) (fragments : List (List UInt8)) : Option (Route × List UInt8) :=
  let requestBytes := readRequest fragments
  if requestBytes.isEmpty then none
  else
    match crates.parseHead requestBytes with
    | .complete method path bodyOffset => some (route method path, requestBytes.drop bodyOffset)
    | _ => none

/-- The reply to a request, and the server afterwards. -/
def handleRequest (crates : Crates) (config : ApiConfig) (request : ApiRequest)
    (state : ApiState) : Reply × ApiState :=
  handleConnection crates config request.identity request.env request.fragments state

end HttpApi

/-- The server under requests that are handled one after the other. -/
def apiSystem (crates : Crates) (config : ApiConfig) : LTS ApiState ApiRequest :=
  .ofFun fun state request => (HttpApi.handleRequest crates config request state).2

/-! ### What the policy asks for -/

/-- The reply refuses the request. -/
def Reply.Forbidden (reply : Reply) : Prop := ∃ body, reply = .json ⟨403, body⟩

/-- The record was not revoked before and is afterwards. -/
def Revokes (before after : ApiState) (id : Uuid) : Prop :=
  (∃ record, before.node.store.records.lookup id = some record ∧ record.revoked = false) ∧
    ∃ record, after.node.store.records.lookup id = some record ∧ record.revoked = true

namespace AuditEvent

def IsRevocation (event : AuditEvent) : Bool := event.eventType = .certificateRevoked

def IsDenial (event : AuditEvent) : Bool :=
  event.eventType = .authorizationDenied ∧ event.outcome = .denied

/-- The event names the principal. -/
def Names (identity : MtlsIdentity) (event : AuditEvent) : Bool :=
  event.principalId = some identity.id ∧ event.principalName = some identity.name

end AuditEvent

/-- Exactly one of the events that were appended has the property. -/
def AppendsOne (p : AuditEvent → Bool) (before after : AuditStore) : Prop :=
  ∃ events, after.events = before.events ++ events ∧ events.countP p = 1

/-- The request is audited as the policy asks: if it turns a record from not revoked to revoked,
it appends exactly one event of the revocation that names the caller and the certificate, and if
it is refused, exactly one denial that names the caller. -/
structure Audited (crates : Crates) (config : ApiConfig) (state : ApiState)
    (request : ApiRequest) : Prop where
  revocation : ∀ id, Revokes state (HttpApi.handleRequest crates config request state).2 id →
    AppendsOne (fun event => event.IsRevocation && event.Names request.identity &&
      decide (event.certificateId = some id))
      state.audit (HttpApi.handleRequest crates config request state).2.audit
  denial : (HttpApi.handleRequest crates config request state).1.Forbidden →
    AppendsOne (fun event => event.IsDenial && event.Names request.identity)
      state.audit (HttpApi.handleRequest crates config request state).2.audit

/-- The request turns a record from not revoked to revoked. -/
def RequestRevokes (crates : Crates) (config : ApiConfig) (state : ApiState)
    (request : ApiRequest) : Prop :=
  ∃ id, Revokes state (HttpApi.handleRequest crates config request state).2 id

/-- The request is refused. -/
def RequestForbidden (crates : Crates) (config : ApiConfig) (state : ApiState)
    (request : ApiRequest) : Prop :=
  (HttpApi.handleRequest crates config request state).1.Forbidden

/-! ### What the handlers do -/

/-- The requests that are about a certificate or the inventory, by a caller who is not
authorized. -/
def Route.RefusedTo (config : ApiConfig) (identity : MtlsIdentity) : Route → Prop
  | .list | .get _ | .revoke _ => config.authorization.canIssueCertificates identity = false
  | _ => False

/-- The handlers record nothing about a request on this route: one for the inventory or for a
revocation by a caller who is not authorized, or an authorized one to revoke a record that is not
revoked yet. -/
def Route.Unrecorded (crates : Crates) (config : ApiConfig) (identity : MtlsIdentity) (node : Node)
    (body : List UInt8) (route : Route) : Prop :=
  route.RefusedTo config identity ∨ ∃ id reason record,
    HttpApi.revocationOfRoute crates config identity body route = some (id, reason) ∧
    node.store.records.lookup id = some record ∧ record.revoked = false

/-- The requests that the handlers record nothing about. -/
def Unrecorded (crates : Crates) (config : ApiConfig) (state : ApiState) (request : ApiRequest) :
    Prop :=
  ∃ route body, HttpApi.received crates request.fragments = some (route, body) ∧
    route.Unrecorded crates config request.identity state.node body

/-- Events were appended, and none of them is a revocation or a denial of authorization. -/
def Quiet (before after : AuditStore) : Prop :=
  ∃ events, after.events = before.events ++ events ∧
    ∀ event ∈ events, event.IsRevocation = false ∧ event.IsDenial = false

theorem Quiet.refl (audit : AuditStore) : Quiet audit audit :=
  ⟨[], (List.append_nil _).symm, fun _ h => absurd h List.not_mem_nil⟩

/-- What a request appends to the audit trail: nothing that is looked for, and it neither is
refused nor revokes; or one denial, and it is refused; or nothing at all, although it is refused
or revokes, and then it is one that is missed. -/
inductive Trail (identity : MtlsIdentity) (before : ApiState) (reply : Reply) (after : ApiState)
    (missed : Prop) : Prop
  | quiet (hmissed : ¬ missed) (hforbidden : ¬ reply.Forbidden)
      (hrevokes : ∀ id, ¬ Revokes before after id) (haudit : Quiet before.audit after.audit)
  | denied {event : AuditEvent} (hmissed : ¬ missed) (hforbidden : reply.Forbidden)
      (hrevokes : ∀ id, ¬ Revokes before after id) (hdenial : event.IsDenial = true)
      (hrevocation : event.IsRevocation = false) (hnames : event.Names identity = true)
      (haudit : after.audit = before.audit.record event)
  | unrecorded (hmissed : missed) (haudit : after.audit = before.audit)
      (h : reply.Forbidden ∨ ∃ id, Revokes before after id)

section Issuance

variable {policy : IssuancePolicy} {principal : AuthenticatedPrincipal}
  {request : IssueCertificateRequest} {env : IssuanceEnvironment} {state : IssuanceState}

/-- The checks of a request never say that the caller is not authorized. -/
theorem IssuanceService.validateRequest_ne_unauthorized :
    IssuanceService.validateRequest policy request ≠ .error .unauthorized := by
  rw [IssuanceService.validateRequest]
  split_ifs <;> simp

theorem quiet_recordEvent {eventType : AuditEventType} {outcome : AuditOutcome}
    {commonName : String} {reason : Option String} {audit : AuditStore}
    (h : eventType = .policyDenied ∨ eventType = .certificateIssued) :
    Quiet audit (IssuanceService.recordEvent env eventType outcome principal commonName reason
      audit) := by
  obtain ⟨event, hrecord, htype, -⟩ :=
    IssuanceService.recordEvent_eq env principal eventType outcome commonName reason audit
  refine ⟨[event], by rw [hrecord]; rfl, fun e he => ?_⟩
  rw [List.mem_singleton.mp he, AuditEvent.IsRevocation, AuditEvent.IsDenial, htype]
  rcases h with rfl | rfl <;> simp

/-- The issuance for an authorized caller is not answered that he is not, and records no event of
a revocation or a denial of authorization. -/
theorem IssuanceService.quiet_issue (policy : IssuancePolicy) (request : IssueCertificateRequest)
    (env : IssuanceEnvironment) (state : IssuanceState)
    (hrole : principal.hasRole "certificate:issue" = true) :
    (issue policy principal request env state).1 ≠ .error .unauthorized ∧
      Quiet state.audit (issue policy principal request env state).2.audit := by
  rw [issue, if_neg (by simp [hrole])]
  cases hvalid : validateRequest policy request with
  | error error =>
    refine ⟨fun h => ?_, quiet_recordEvent (Or.inl rfl)⟩
    exact validateRequest_ne_unauthorized (hvalid.trans (congrArg _ (Except.error.inj h)))
  | ok valid =>
    cases hrequest : certificateRequest request with
    | error reason => exact ⟨by rintro ⟨⟩, quiet_recordEvent (Or.inl rfl)⟩
    | ok toIssue =>
      cases hissue : CertificateIssuer.issue env.issuer toIssue with
      | error error =>
        simp only [hissue]
        exact ⟨by rintro ⟨⟩, quiet_recordEvent (Or.inr rfl)⟩
      | ok certificate =>
        cases hparse : env.parse certificate.der with
        | error error =>
          simp only [hissue, hparse]
          exact ⟨by rintro ⟨⟩, .refl _⟩
        | ok parsed =>
          simp only [hissue, hparse]
          split
          · exact ⟨by rintro ⟨⟩, .refl _⟩
          · exact ⟨by rintro ⟨⟩, quiet_recordEvent (Or.inr rfl)⟩

end Issuance

/-! ### What a request appends -/

variable {crates : Crates} {config : ApiConfig} {identity : MtlsIdentity}
  {env : ConnectionEnvironment} {state state' : ApiState} {body : List UInt8} {id : Uuid}

theorem not_revokes_of_eq (h : state'.node.store.records = state.node.store.records) (id : Uuid) :
    ¬ Revokes state state' id := by
  rintro ⟨⟨record, hrecord, hfresh⟩, record', hrecord', hrevoked⟩
  rw [h, hrecord] at hrecord'
  cases hrecord'
  rw [hfresh] at hrevoked
  cases hrevoked

/-- The insertion of a record that is not revoked revokes none. -/
theorem not_revokes_of_insert {record : CertificateRecord} (hfresh : record.revoked = false)
    (h : state'.node.store.records = state.node.store.records.insertRecord record) (id : Uuid) :
    ¬ Revokes state state' id := by
  rintro ⟨⟨other, hother, hnot⟩, other', hother', hrevoked⟩
  rw [h, Records.insertRecord, HashMap.lookup_insert_eq_ite] at hother'
  split_ifs at hother' with hid
  · rw [← Option.some.inj hother', hfresh] at hrevoked
    cases hrevoked
  · rw [hother] at hother'
    cases hother'
    rw [hnot] at hrevoked
    cases hrevoked

theorem not_revokes_handleIssueBody (crates : Crates) (config : ApiConfig) (body : List UInt8)
    (identity : MtlsIdentity) (env : ConnectionEnvironment) (state : ApiState) (id : Uuid) :
    ¬ Revokes state (HttpApi.handleIssueBody crates config body identity env state).2 id := by
  rw [HttpApi.handleIssueBody]
  cases crates.decodeIssue body with
  | none => exact not_revokes_of_eq rfl id
  | some request =>
    have hends := IssuanceService.issue_ends config.issuance
      ⟨identity.id, identity.name, config.authorization.rolesFor identity⟩ request env.issuance
      ⟨state.node.store, state.audit, []⟩
    simp only
    generalize IssuanceService.issue config.issuance
      ⟨identity.id, identity.name, config.authorization.rolesFor identity⟩ request env.issuance
      ⟨state.node.store, state.audit, []⟩ = issued at hends ⊢
    obtain ⟨result, issued⟩ := issued
    cases hends with
    | unstored _ _ hinsert =>
      exact not_revokes_of_insert rfl (CertificateStore.records_of_insert hinsert) id
    | issued _ _ hinsert =>
      exact not_revokes_of_insert rfl (CertificateStore.records_of_insert hinsert) id
    | _ => exact not_revokes_of_eq rfl id

theorem not_forbidden {response : HttpResponse} (h : response.status ≠ 403) :
    ¬ (Reply.json response).Forbidden := by
  rintro ⟨body, hbody⟩
  rw [Reply.json.inj hbody] at h
  exact h rfl

/-- The only error of an issuance that is answered with 403 is that the caller is not
authorized. -/
theorem status_issueReply_ne
    {result : Except IssuanceServiceError (IssueCertificateResponse × IssuanceAuditEvent)}
    (h : result ≠ .error .unauthorized) : (HttpApi.issueReply result).status ≠ 403 := by
  cases result with
  | ok response => exact (by decide : 201 ≠ 403)
  | error error =>
    have herror : error ≠ .unauthorized := fun e => h (e ▸ rfl)
    simp [HttpApi.issueReply, herror]

/-- An issuance is refused with a denial that names the caller, or answered otherwise with no
denial. -/
theorem trail_handleIssueBody (crates : Crates) (config : ApiConfig) (body : List UInt8)
    (identity : MtlsIdentity) (env : ConnectionEnvironment) (state : ApiState) {missed : Prop}
    (hmissed : ¬ missed) :
    Trail identity state (.json (HttpApi.handleIssueBody crates config body identity env state).1)
      (HttpApi.handleIssueBody crates config body identity env state).2 missed := by
  have hrevokes := not_revokes_handleIssueBody crates config body identity env state
  rw [HttpApi.handleIssueBody] at hrevokes ⊢
  cases hdecode : crates.decodeIssue body with
  | none =>
    exact .quiet hmissed (not_forbidden (show 400 ≠ 403 by decide)) (not_revokes_of_eq rfl)
      (.refl _)
  | some request =>
    simp only [hdecode] at hrevokes ⊢
    cases hcan : config.authorization.canIssueCertificates identity with
    | true =>
      have hrole : AuthenticatedPrincipal.hasRole ⟨identity.id, identity.name,
          config.authorization.rolesFor identity⟩ "certificate:issue" = true := by
        simp [AuthenticatedPrincipal.hasRole, AuthorizationPolicy.rolesFor, hcan]
      obtain ⟨hresult, hquiet⟩ := IssuanceService.quiet_issue config.issuance request
        env.issuance ⟨state.node.store, state.audit, []⟩ hrole
      exact .quiet hmissed (not_forbidden (status_issueReply_ne hresult)) hrevokes hquiet
    | false =>
      rw [AuthorizationPolicy.rolesFor, hcan] at hrevokes ⊢
      obtain ⟨event, hrecord, htype, houtcome, hid, hname⟩ := IssuanceService.recordEvent_eq
        env.issuance ⟨identity.id, identity.name, []⟩ .authorizationDenied .denied
        request.commonName (some "caller is not authorized to issue certificates") state.audit
      exact .denied hmissed ⟨_, rfl⟩ hrevokes (by simp [AuditEvent.IsDenial, htype, houtcome])
        (by simp [AuditEvent.IsRevocation, htype]) (by simp [AuditEvent.Names, hid, hname]) hrecord

/-- A revocation that gets past the checks revokes the record, unless it is revoked already or not
there, and no other. -/
theorem revokes_handleRevokeCertificate_iff (reason : Option String) (env : ConnectionEnvironment)
    (hnode : state'.node = (HttpApi.handleRevokeCertificate true (some id) (some reason) env.now
      env.fault env.refresh state.node).2) (k : Uuid) :
    Revokes state state' k ↔ k = id ∧
      ∃ record, state.node.store.records.lookup id = some record ∧ record.revoked = false := by
  have hstore := (HttpApi.handleRevokeCertificate_decoded id reason env.now env.fault env.refresh
    state.node).1
  rw [← hnode] at hstore
  rw [Revokes, hstore]
  by_cases hk : k = id
  · subst hk
    rw [HttpApi.lookup_revoke]
    refine ⟨fun h => ⟨rfl, h.1⟩, fun ⟨_, record, hrecord, hfresh⟩ => ?_⟩
    rw [hrecord]
    exact ⟨⟨record, rfl, hfresh⟩, _, rfl, Records.revoked_markRevoked ..⟩
  · rw [HttpApi.lookup_revoke_of_ne _ _ hk]
    refine iff_of_false ?_ fun h => hk h.1
    rintro ⟨⟨record, hrecord, hfresh⟩, record', hrecord', hrevoked⟩
    rw [hrecord] at hrecord'
    cases hrecord'
    rw [hfresh] at hrevoked
    cases hrevoked

/-- A revocation that gets past the checks is not refused. -/
theorem not_forbidden_handleRevokeCertificate (id : Uuid) (reason : Option String)
    (env : ConnectionEnvironment) (node : Node) :
    ¬ (Reply.ofOutcome (HttpApi.handleRevokeCertificate true (some id) (some reason) env.now
      env.fault env.refresh node).1).Forbidden := by
  have hstatus := (HttpApi.handleRevokeCertificate_decoded id reason env.now env.fault env.refresh
    node).2
  cases houtcome : (HttpApi.handleRevokeCertificate true (some id) (some reason) env.now env.fault
    env.refresh node).1 with
  | panicked => rintro ⟨body, ⟨⟩⟩
  | returned response =>
    have hmem := hstatus response houtcome
    refine not_forbidden fun h => ?_
    rw [h] at hmem
    exact absurd hmem (by decide)

/-- A request that is refused without a record of it. -/
theorem Trail.of_refused {reply : Reply} {route : Route}
    (hrefused : route.RefusedTo config identity) (hreply : reply.Forbidden)
    (haudit : state'.audit = state.audit) :
    Trail identity state reply state'
      (route.Unrecorded crates config identity state.node body) :=
  .unrecorded (Or.inl hrefused) haudit (Or.inl hreply)

/-- A request on a route that asks for no revocation and is not refused. -/
theorem Trail.of_silent {reply : Reply} {route : Route}
    (hrefused : ¬ route.RefusedTo config identity)
    (hrevocation : HttpApi.revocationOfRoute crates config identity body route = none)
    (hreply : ¬ reply.Forbidden) (hnode : state'.node = state.node)
    (haudit : state'.audit = state.audit) :
    Trail identity state reply state'
      (route.Unrecorded crates config identity state.node body) := by
  refine .quiet ?_ hreply (not_revokes_of_eq (by rw [hnode])) (haudit ▸ .refl _)
  rintro (h | ⟨id, reason, record, h, -⟩)
  · exact hrefused h
  · rw [hrevocation] at h
    cases h

/-- A revocation that gets past the checks is not recorded; it revokes, unless the record is not
there or revoked already. -/
theorem trail_of_revocation {route : Route} {reason : Option String} (state : ApiState)
    (hrefused : ¬ route.RefusedTo config identity)
    (hrevocation : HttpApi.revocationOfRoute crates config identity body route =
      some (id, reason)) :
    Trail identity state (HttpApi.handleRoute crates config identity env body state route).1
      (HttpApi.handleRoute crates config identity env body state route).2
      (route.Unrecorded crates config identity state.node body) := by
  have hroute := HttpApi.handleRoute_of_revocation hrevocation env state
  have hrevokes := revokes_handleRevokeCertificate_iff reason env
    (congrArg (fun handled => handled.2.node) hroute)
  rw [hroute] at hrevokes ⊢
  by_cases hfresh : ∃ record, state.node.store.records.lookup id = some record ∧
      record.revoked = false
  · have hunrecorded : route.Unrecorded crates config identity state.node body := by
      obtain ⟨record, hrecord, hnot⟩ := hfresh
      exact Or.inr ⟨id, reason, record, hrevocation, hrecord, hnot⟩
    exact .unrecorded hunrecorded rfl (Or.inr ⟨id, (hrevokes id).mpr ⟨rfl, hfresh⟩⟩)
  · refine .quiet ?_ (not_forbidden_handleRevokeCertificate id reason env state.node)
      (fun k hk => hfresh ((hrevokes k).mp hk).2) (.refl _)
    rintro (h | ⟨id', reason', record, h, hrecord⟩)
    · exact hrefused h
    · cases hrevocation.symm.trans h
      exact hfresh ⟨record, hrecord⟩

/-- The requests to revoke. -/
theorem trail_handleRoute_revoke (body : List UInt8) (path : String) (state : ApiState) :
    Trail identity state
      (HttpApi.handleRoute crates config identity env body state (.revoke path)).1
      (HttpApi.handleRoute crates config identity env body state (.revoke path)).2
      (Route.Unrecorded crates config identity state.node body (.revoke path)) := by
  cases hcan : config.authorization.canIssueCertificates identity with
  | false =>
    rw [HttpApi.handleRoute, hcan]
    exact .of_refused hcan ⟨_, rfl⟩ rfl
  | true =>
    have hrefused : ¬ Route.RefusedTo config identity (.revoke path) := by
      simp [Route.RefusedTo, hcan]
    cases hrevocation : HttpApi.revocationOfRoute crates config identity body (.revoke path) with
    | some asked => exact trail_of_revocation state hrefused hrevocation
    | none =>
      obtain ⟨status, message, hanswer, hstatus⟩ :=
        HttpApi.handleRoute_of_no_revocation hrevocation env state
      rw [hanswer]
      exact .of_silent hrefused hrevocation (not_forbidden (hstatus hcan)) rfl rfl

theorem status_handleGetCertificate_ne (id : Option Uuid) (node : Node) :
    (HttpApi.handleGetCertificate true id node).status ≠ 403 := by
  cases id with
  | none => exact (by decide : 400 ≠ 403)
  | some id =>
    rw [HttpApi.handleGetCertificate, if_neg (by decide)]
    cases hget : node.store.get id with
    | none => exact (by decide : 404 ≠ 403)
    | some record => exact (by decide : 200 ≠ 403)

/-- **What a request on a route appends** to the audit trail. -/
theorem trail_handleRoute (body : List UInt8) (route : Route) (state : ApiState) :
    Trail identity state (HttpApi.handleRoute crates config identity env body state route).1
      (HttpApi.handleRoute crates config identity env body state route).2
      (route.Unrecorded crates config identity state.node body) := by
  cases route with
  | health => exact .of_silent not_false rfl (by rintro ⟨body, ⟨⟩⟩) rfl rfl
  | notFound => exact .of_silent not_false rfl (not_forbidden (show 404 ≠ 403 by decide)) rfl rfl
  | issue =>
    refine trail_handleIssueBody crates config body identity env state ?_
    rintro (h | ⟨id, reason, record, h, -⟩) <;> cases h
  | list =>
    cases hcan : config.authorization.canIssueCertificates identity with
    | false =>
      rw [HttpApi.handleRoute, hcan]
      exact .of_refused hcan ⟨_, rfl⟩ rfl
    | true =>
      have hrefused : ¬ Route.RefusedTo config identity .list := by simp [Route.RefusedTo, hcan]
      rw [HttpApi.handleRoute, hcan]
      exact .of_silent hrefused rfl (not_forbidden (show 200 ≠ 403 by decide)) rfl rfl
  | get path =>
    cases hcan : config.authorization.canIssueCertificates identity with
    | false =>
      rw [HttpApi.handleRoute, hcan]
      exact .of_refused hcan ⟨_, rfl⟩ rfl
    | true =>
      have hrefused : ¬ Route.RefusedTo config identity (.get path) := by
        simp [Route.RefusedTo, hcan]
      rw [HttpApi.handleRoute, hcan]
      exact .of_silent hrefused rfl (not_forbidden (status_handleGetCertificate_ne _ _)) rfl rfl
  | revoke path => exact trail_handleRoute_revoke body path state

/-- **What a request appends** to the audit trail. -/
theorem audit_cases (crates : Crates) (config : ApiConfig) (request : ApiRequest)
    (state : ApiState) :
    Trail request.identity state (HttpApi.handleRequest crates config request state).1
      (HttpApi.handleRequest crates config request state).2
      (Unrecorded crates config state request) := by
  have hnone {reply : Reply} (hreply : ¬ reply.Forbidden)
      (h : HttpApi.received crates request.fragments = none) :
      Trail request.identity state reply state (Unrecorded crates config state request) := by
    refine .quiet ?_ hreply (not_revokes_of_eq rfl) (.refl _)
    rintro ⟨route, body, hreceived, -⟩
    rw [h] at hreceived
    cases hreceived
  rw [HttpApi.handleRequest, HttpApi.handleConnection]
  split_ifs with hempty
  · exact hnone (by rintro ⟨body, ⟨⟩⟩) (if_pos hempty)
  · cases hhead : crates.parseHead (HttpApi.readRequest request.fragments) with
    | error =>
      exact hnone (by rintro ⟨body, ⟨⟩⟩) (by simp only [HttpApi.received, hempty, hhead]; rfl)
    | incomplete =>
      exact hnone (not_forbidden (show 400 ≠ 403 by decide))
        (by simp only [HttpApi.received, hempty, hhead]; rfl)
    | complete method path bodyOffset =>
      have hreceived : HttpApi.received crates request.fragments = some
          (HttpApi.route method path, (HttpApi.readRequest request.fragments).drop bodyOffset) := by
        simp only [HttpApi.received, hempty, hhead]
        rfl
      have hmissed : Unrecorded crates config state request ↔
          (HttpApi.route method path).Unrecorded crates config request.identity state.node
            ((HttpApi.readRequest request.fragments).drop bodyOffset) := by
        simp [Unrecorded, hreceived]
      rw [hmissed]
      exact trail_handleRoute _ _ _

/-! ### When the requests are audited -/

theorem not_appendsOne_of_eq {p : AuditEvent → Bool} {before after : AuditStore}
    (h : after = before) : ¬ AppendsOne p before after := by
  rintro ⟨events, hevents, hcount⟩
  rw [h, List.self_eq_append_right] at hevents
  rw [hevents] at hcount
  cases hcount

/-- **When a request is audited as the policy asks**: when it is not one that the handlers record
nothing about. -/
theorem audited_iff (crates : Crates) (config : ApiConfig) (state : ApiState)
    (request : ApiRequest) :
    Audited crates config state request ↔ ¬ Unrecorded crates config state request := by
  cases audit_cases crates config request state with
  | quiet hmissed hforbidden hrevokes _ =>
    exact iff_of_true ⟨fun id h => absurd h (hrevokes id), fun h => absurd h hforbidden⟩ hmissed
  | @denied event hmissed _ hrevokes hdenial _ hnames haudit =>
    refine iff_of_true ⟨fun id h => absurd h (hrevokes id), fun _ => ⟨[event], ?_, ?_⟩⟩ hmissed
    · rw [haudit]
      rfl
    · simp [hdenial, hnames]
  | unrecorded hmissed haudit h =>
    refine iff_of_false (fun haudited => ?_) (not_not.mpr hmissed)
    rcases h with hforbidden | ⟨id, hrevokes⟩
    · exact not_appendsOne_of_eq haudit (haudited.denial hforbidden)
    · exact not_appendsOne_of_eq haudit (haudited.revocation id hrevokes)

/-- The number of the events with a property. -/
def AuditStore.count (p : AuditEvent → Bool) (audit : AuditStore) : ℕ := audit.events.countP p

open Classical in
/-- A request that is audited adds one revocation event exactly when it revokes, and one denial
exactly when it is refused. -/
theorem count_handleRequest (crates : Crates) (config : ApiConfig) (state : ApiState)
    (request : ApiRequest) (h : ¬ Unrecorded crates config state request) :
    (HttpApi.handleRequest crates config request state).2.audit.count AuditEvent.IsRevocation =
        state.audit.count AuditEvent.IsRevocation +
          (if RequestRevokes crates config state request then 1 else 0) ∧
      (HttpApi.handleRequest crates config request state).2.audit.count AuditEvent.IsDenial =
        state.audit.count AuditEvent.IsDenial +
          if RequestForbidden crates config state request then 1 else 0 := by
  cases audit_cases crates config request state with
  | quiet _ hforbidden hrevokes haudit =>
    obtain ⟨events, hevents, hnone⟩ := haudit
    have hrevocations : events.countP AuditEvent.IsRevocation = 0 :=
      List.countP_eq_zero.mpr fun event he => by simp [(hnone event he).1]
    have hdenials : events.countP AuditEvent.IsDenial = 0 :=
      List.countP_eq_zero.mpr fun event he => by simp [(hnone event he).2]
    rw [if_neg (show ¬ RequestRevokes crates config state request from fun ⟨id, h⟩ =>
      hrevokes id h), if_neg (show ¬ RequestForbidden crates config state request from hforbidden)]
    simp only [AuditStore.count, hevents, List.countP_append, hrevocations, hdenials, and_self]
  | denied _ hforbidden hrevokes hdenial hrevocation _ haudit =>
    rw [if_neg (show ¬ RequestRevokes crates config state request from fun ⟨id, h⟩ =>
      hrevokes id h), if_pos (show RequestForbidden crates config state request from hforbidden)]
    simp [AuditStore.count, haudit, AuditStore.record, hdenial, hrevocation]
  | unrecorded hmissed _ _ => exact absurd hmissed h

/-- The revocation events and the denials that were appended along a run are as many as the
requests that revoked and the requests that were refused. -/
def Accounted {crates : Crates} {config : ApiConfig} {start state : ApiState}
    (run : (apiSystem crates config).Run start state) : Prop :=
  state.audit.count AuditEvent.IsRevocation =
      start.audit.count AuditEvent.IsRevocation + run.count (RequestRevokes crates config) ∧
    state.audit.count AuditEvent.IsDenial =
      start.audit.count AuditEvent.IsDenial + run.count (RequestForbidden crates config)

/-- **When the requests of a run are audited.** Every request of a run is audited as the policy
asks, and the events are accounted for, exactly when no request of the run is one that the
handlers record nothing about. -/
theorem audited_iff_of_run {start : ApiState}
    (run : (apiSystem crates config).Run start state) :
    run.AllSteps (Audited crates config) ∧ Accounted run ↔
      run.AllSteps fun state request => ¬ Unrecorded crates config state request := by
  refine ⟨fun h => h.1.mono ?_, fun h => ⟨h.mono ?_, ?_, ?_⟩⟩
  · exact fun state request => (audited_iff crates config state request).mp
  · exact fun state request => (audited_iff crates config state request).mpr
  · refine run.count_eq (m := fun state => state.audit.count AuditEvent.IsRevocation) ?_ h
    rintro u request v hrecorded rfl
    exact (count_handleRequest crates config u request hrecorded).1
  · refine run.count_eq (m := fun state => state.audit.count AuditEvent.IsDenial) ?_ h
    rintro u request v hrecorded rfl
    exact (count_handleRequest crates config u request hrecorded).2

namespace HttpApi

/-- A server with one certificate, and an empty audit trail. -/
def issuedState : ApiState := ⟨issuedNode, ⟨[]⟩, []⟩

/-- An operator's request to revoke it. -/
def revokeRequest : ApiRequest :=
  ⟨operatorIdentity, [revokeHead ++ reasonBody], sampleConnection⟩

/-- The same request by a stranger. -/
def strangerRequest : ApiRequest :=
  ⟨strangerIdentity, [revokeHead ++ reasonBody], sampleConnection⟩

end HttpApi

/-- A certificate is revoked, a stranger's request to revoke it is refused, and the audit trail
stays empty. -/
theorem not_audited_revokeRequest :
    Revokes HttpApi.issuedState (HttpApi.handleRequest HttpApi.revokeCrates HttpApi.operatorConfig
        HttpApi.revokeRequest HttpApi.issuedState).2 1 ∧
      (HttpApi.handleRequest HttpApi.revokeCrates HttpApi.operatorConfig HttpApi.revokeRequest
        HttpApi.issuedState).2.audit = ⟨[]⟩ ∧
      (HttpApi.handleRequest HttpApi.revokeCrates HttpApi.operatorConfig HttpApi.strangerRequest
        HttpApi.issuedState).1.Forbidden ∧
      (HttpApi.handleRequest HttpApi.revokeCrates HttpApi.operatorConfig HttpApi.strangerRequest
        HttpApi.issuedState).2.audit = ⟨[]⟩ ∧
      ¬ ∀ (start state : ApiState)
        (run : (apiSystem HttpApi.revokeCrates HttpApi.operatorConfig).Run start state),
        run.AllSteps (Audited HttpApi.revokeCrates HttpApi.operatorConfig) ∧ Accounted run := by
  have hrevoked : ((HttpApi.handleRequest HttpApi.revokeCrates HttpApi.operatorConfig
      HttpApi.revokeRequest HttpApi.issuedState).2.node.store.records.lookup 1).map
        CertificateRecord.revoked = some true := by decide +kernel
  have haudit : (HttpApi.handleRequest HttpApi.revokeCrates HttpApi.operatorConfig
      HttpApi.revokeRequest HttpApi.issuedState).2.audit = ⟨[]⟩ := by decide +kernel
  have hfresh : ((HttpApi.issuedState.node.store.records.lookup 1).map
      CertificateRecord.revoked) = some false := by decide
  have hrevokes : Revokes HttpApi.issuedState (HttpApi.handleRequest HttpApi.revokeCrates
      HttpApi.operatorConfig HttpApi.revokeRequest HttpApi.issuedState).2 1 :=
    ⟨Option.map_eq_some_iff.mp hfresh, Option.map_eq_some_iff.mp hrevoked⟩
  refine ⟨hrevokes, haudit, ⟨.error "certificate revocation is not authorized", by decide +kernel⟩,
    by decide +kernel, fun h => ?_⟩
  obtain ⟨-, haudited⟩ : True ∧ Audited HttpApi.revokeCrates HttpApi.operatorConfig
      HttpApi.issuedState HttpApi.revokeRequest :=
    (h HttpApi.issuedState _ (.snoc .nil HttpApi.revokeRequest rfl)).1
  exact not_appendsOne_of_eq haudit (haudited.revocation 1 hrevokes)

end DaemonPki
