import DaemonPki.Api.Auditing
import DaemonPki.Api.Preparation
import DaemonPki.Api.RegistryRefinement

/-!
# The server at its connections

What comes to the server (`daemon-pki-api/src/http.rs`, `src/bin/server.rs`) is the certificate of
a client and bytes, in the pieces in which they arrive; what goes back is a reply. Below that, the
server of `DaemonPki.Api.Server` is given requests that are already understood, and whose signing
has already been tried. This file says which request the bytes of a connection are, and that the
server at its connections does and answers what the server does with the requests, over whole runs
with restarts and faults.

As long as nothing fails, the runs of the server are those of the registry
(`DaemonPki.Api.RegistryRefinement`); so the bytes that go in and the replies that come out are
those of the registry.

## Main definitions

* `DaemonPki.HttpApi.asRequest`: the request that a connection is.
* `DaemonPki.WireServer`, `DaemonPki.wireServer`: the server at its connections.
* `DaemonPki.answeringServer`: the server under requests, with its answers.
* `DaemonPki.wireService`: the server at its connections while nothing fails.

## Main results

* `DaemonPki.HttpApi.handleRequest_of_asRequest`: one connection.
* `DaemonPki.server_of_wire`: the runs of the server at its connections are those of the server.
* `DaemonPki.registry_of_wire`: without faults, they are those of the registry.
-/

namespace DaemonPki

open Foundation

namespace HttpApi

/-! ### Which request a connection is -/

/-- How the issuance to an identity ends before its record is stored. -/
def attempt (config : ApiConfig) (identity : MtlsIdentity) (request : IssueCertificateRequest)
    (env : IssuanceEnvironment) : IssueAttempt :=
  match IssuanceService.prepare config.issuance
      ⟨identity.id, identity.name, config.authorization.rolesFor identity⟩ request env with
  | .ends error _ => .refused (issueReply (.error error)).status error.toString
  | .stores certificatePem record =>
    .signed record.id record.issuedAt record.serialNumber certificatePem (record.notAfter.getD 0)

/-- The request that a connection is, if its bytes get to the certificates. -/
def asRequest (crates : Crates) (config : ApiConfig) (request : ApiRequest) : Option Request :=
  let authorized := config.authorization.canIssueCertificates request.identity
  match received crates request.fragments with
  | some (.issue, body) =>
    (crates.decodeIssue body).map fun decoded =>
      .issue decoded (attempt config request.identity decoded request.env.issuance)
        request.env.issuance.fault
  | some (.list, _) => some (.list authorized request.env.iteration)
  | some (.get path, _) => some (.get authorized (certificateIdFromPath crates path))
  | some (.revoke path, body) =>
    some (.revoke authorized (certificateIdFromRevokePath crates path) (revokeBody crates body)
      request.env.now request.env.fault request.env.refresh)
  | _ => none

/-- The reply to the bytes of a connection that do not get to the certificates. -/
def directReply (crates : Crates) (fragments : List (List UInt8)) : Reply :=
  match received crates fragments with
  | some (.health, _) => .health
  | some (.issue, _) => .json ⟨400, .error "invalid JSON request body"⟩
  | some _ => .json ⟨404, .error "endpoint not found"⟩
  | none =>
    if (readRequest fragments).isEmpty then .closed
    else
      match crates.parseHead (readRequest fragments) with
      | .incomplete => .json ⟨400, .error "incomplete HTTP request"⟩
      | _ => .closed

end HttpApi

/-- The reply is the answer. When the record of an issuance could not be stored, the reply tells
why. -/
def Reply.Renders (cause : String) (reply : Reply) (outcome : Outcome HttpResponse) : Prop :=
  reply = .ofOutcome outcome ∨
    ∃ e : CertificateStoreError, outcome = .returned ⟨400, .storeError e⟩ ∧
      reply = .json
        ⟨400, .error (IssuanceServiceError.certificateStore (e.toString cause)).toString⟩

namespace HttpApi

variable {crates : Crates} {config : ApiConfig} {request : ApiRequest} {state : ApiState}

theorem handleRequest_of_received {route : Route} {body : List UInt8}
    (h : received crates request.fragments = some (route, body)) :
    handleRequest crates config request state =
      handleRoute crates config request.identity request.env body state route := by
  simp only [received] at h
  split_ifs at h with hempty
  split at h
  next method path bodyOffset hhead =>
    obtain ⟨rfl, rfl⟩ := Prod.mk.inj (Option.some.inj h)
    simp only [handleRequest, handleConnection, if_neg hempty, hhead]
  next => cases h

theorem handleRequest_of_not_received (h : received crates request.fragments = none) :
    handleRequest crates config request state = (directReply crates request.fragments, state) := by
  simp only [handleRequest, handleConnection, directReply, h]
  simp only [received] at h
  split_ifs at h ⊢ with hempty
  · rfl
  · cases hhead : crates.parseHead (readRequest request.fragments) with
    | complete method path bodyOffset =>
      rw [hhead] at h
      cases h
    | _ => rfl

/-- An issuance over a connection is a request to issue. -/
theorem handleIssueBody_decoded {body : List UInt8} {decoded : IssueCertificateRequest}
    (hdecode : crates.decodeIssue body = some decoded) (identity : MtlsIdentity)
    (env : ConnectionEnvironment) :
    (handleIssue decoded (attempt config identity decoded env.issuance) env.issuance.fault
        state.node).2 = (handleIssueBody crates config body identity env state).2.node ∧
      (Reply.json (handleIssueBody crates config body identity env state).1).Renders
        env.issuance.cause (.returned (handleIssue decoded
          (attempt config identity decoded env.issuance) env.issuance.fault state.node).1) := by
  simp only [handleIssueBody, hdecode, attempt]
  cases hprepare : IssuanceService.prepare config.issuance
      ⟨identity.id, identity.name, config.authorization.rolesFor identity⟩ decoded
      env.issuance with
  | ends error event =>
    obtain ⟨hresult, hstore, -⟩ :=
      IssuanceService.issue_of_ends hprepare ⟨state.node.store, state.audit, []⟩
    simp only [hresult, hstore, handleIssue, true_and]
    exact Or.inl rfl
  | stores certificatePem record =>
    obtain ⟨certificate, parsed, -, -, hpem, hrecord⟩ :=
      IssuanceService.delivers_of_prepare hprepare
    have hissued : issuedRecord decoded record.id record.issuedAt record.serialNumber
        certificatePem (record.notAfter.getD 0) = record := by
      rw [hrecord, hpem]
      rfl
    rcases hinsert : state.node.store.insert record env.issuance.fault with ⟨e | id, store⟩
    · obtain ⟨hstore, hresult, -⟩ := IssuanceService.issue_of_stores hprepare
        ⟨state.node.store, state.audit, []⟩ hinsert
      simp only [hresult, hstore, handleIssue, hissued, hinsert, true_and]
      exact Or.inr ⟨e, rfl, rfl⟩
    · obtain ⟨hstore, hresult, -⟩ := IssuanceService.issue_of_stores hprepare
        ⟨state.node.store, state.audit, []⟩ hinsert
      simp only [hresult, hstore, handleIssue, hissued, hinsert, true_and]
      exact Or.inl rfl

/-- **A connection that gets to the certificates is a request.** It does to the server what the
request does, and the reply is the answer to the request. -/
theorem handleRequest_of_asRequest (state : ApiState) {asked : Request}
    (h : asRequest crates config request = some asked) :
    (handle state.node asked).2 = (handleRequest crates config request state).2.node ∧
      (handleRequest crates config request state).1.Renders request.env.issuance.cause
        (handle state.node asked).1 := by
  rw [asRequest] at h
  rcases hreceived : received crates request.fragments with - | ⟨route, body⟩
  · rw [hreceived] at h
    cases h
  · rw [hreceived] at h
    rw [handleRequest_of_received hreceived]
    cases route with
    | health => cases h
    | notFound => cases h
    | list =>
      cases h
      exact ⟨rfl, Or.inl rfl⟩
    | get path =>
      cases h
      exact ⟨rfl, Or.inl rfl⟩
    | revoke path =>
      cases h
      exact ⟨rfl, Or.inl rfl⟩
    | issue =>
      obtain ⟨decoded, hdecode, rfl⟩ := Option.map_eq_some_iff.mp h
      exact handleIssueBody_decoded hdecode request.identity request.env

/-- A connection that does not get to the certificates is answered from its bytes alone. -/
theorem handleRequest_of_asRequest_eq_none (state : ApiState)
    (h : asRequest crates config request = none) :
    (handleRequest crates config request state).2.node = state.node ∧
      (handleRequest crates config request state).1 = directReply crates request.fragments := by
  rw [asRequest] at h
  rcases hreceived : received crates request.fragments with - | ⟨route, body⟩
  · rw [handleRequest_of_not_received hreceived]
    exact ⟨rfl, rfl⟩
  · rw [hreceived] at h
    rw [handleRequest_of_received hreceived, directReply, hreceived]
    cases route with
    | health => exact ⟨rfl, rfl⟩
    | notFound => exact ⟨rfl, rfl⟩
    | issue =>
      have hdecode := Option.map_eq_none_iff.mp h
      simp only [handleRoute, handleIssueBody, hdecode, and_self]
    | _ => cases h

end HttpApi

/-! ### Runs -/

/-- The server under requests and restarts, with the answers. -/
def answeringServer : LTS Server (ServerEvent × Option (Outcome HttpResponse)) where
  step server a server' := ServerStep server a.1 server' ∧
    match server, a.1 with
    | .up node, .request request => a.2 = some (HttpApi.handle node request).1
    | _, _ => a.2 = none

/-- The server at its connections: not running, with its files, or running. -/
inductive WireServer
  | down (file : Option StoreFile) (crlFiles : CrlFiles)
  | up (state : ApiState)

/-- What happens to it: a connection, with the reply, or a restart. -/
inductive WireEvent
  | connection (request : ApiRequest) (reply : Reply)
  | restart (opens : Bool) (env : RefreshEnvironment)

namespace WireServer

/-- The server below the connections. -/
def server : WireServer → Server
  | down file crlFiles => .down file crlFiles
  | up state => .up state.node

/-- A new process has a new audit trail. Source: `bin/server.rs`, lines 255–260. -/
def restart (opens : Bool) (env : RefreshEnvironment) (wire : WireServer) : WireServer :=
  match wire.server.restart opens env with
  | .down file crlFiles => down file crlFiles
  | .up node => up ⟨node, ⟨[]⟩, []⟩

theorem server_restart (opens : Bool) (env : RefreshEnvironment) (wire : WireServer) :
    (wire.restart opens env).server = wire.server.restart opens env := by
  rw [restart]
  cases wire.server.restart opens env <;> rfl

end WireServer

section Runs

variable (crates : Crates) (config : ApiConfig)

/-- The steps of the server at its connections; the identifier that a record draws is new. -/
inductive WireStep : WireServer → WireEvent → WireServer → Prop
  | connection {state state' : ApiState} {request : ApiRequest} {reply : Reply}
      (hfresh : state.node.store.records.lookup request.env.issuance.recordId = none)
      (h : HttpApi.handleRequest crates config request state = (reply, state')) :
      WireStep (.up state) (.connection request reply) (.up state')
  | restart (wire : WireServer) (opens : Bool) (env : RefreshEnvironment) :
      WireStep wire (.restart opens env) (wire.restart opens env)

def wireServer : LTS WireServer WireEvent := ⟨WireStep crates config⟩

/-- The event is one of the server below the connections. -/
def WireEvent.isBelow : WireEvent → Bool
  | .connection request _ => (HttpApi.asRequest crates config request).isSome
  | .restart _ _ => true

/-- The event below, with its answer. -/
inductive WireShows : WireEvent → ServerEvent × Option (Outcome HttpResponse) → Prop
  | connection {request : ApiRequest} {reply : Reply} {asked : Request}
      {outcome : Outcome HttpResponse}
      (hasked : HttpApi.asRequest crates config request = some asked)
      (hreply : reply.Renders request.env.issuance.cause outcome) :
      WireShows (.connection request reply) (.request asked, some outcome)
  | restart (opens : Bool) (env : RefreshEnvironment) :
      WireShows (.restart opens env) (.restart opens env, none)

variable {crates config}

/-- The identifier of a request that a connection is was drawn by the connection. -/
theorem HttpApi.fresh_of_asRequest {request : ApiRequest} {asked : Request} {node : Node}
    (h : asRequest crates config request = some asked)
    (hfresh : node.store.records.lookup request.env.issuance.recordId = none) :
    asked.Fresh node := by
  rw [asRequest] at h
  split at h
  · obtain ⟨decoded, -, rfl⟩ := Option.map_eq_some_iff.mp h
    rw [attempt]
    split
    · trivial
    next certificatePem record hprepare =>
      rw [Request.Fresh, IssuanceService.id_of_prepare hprepare]
      exact hfresh
  · cases h
    trivial
  · cases h
    trivial
  · cases h
    trivial
  · cases h

/-- The steps of the server at its connections are those of the server below. -/
theorem simulates_server : LTS.Simulates (wireServer crates config) answeringServer
    (fun wire server => wire.server = server) (WireEvent.isBelow crates config)
    (WireShows crates config) where
  visible_step := by
    rintro wire event wire' _ rfl hstep hvisible
    cases hstep with
    | @connection state state' request reply hfresh h =>
      obtain ⟨asked, hasked⟩ := Option.isSome_iff_exists.mp hvisible
      obtain ⟨hnode, hreply⟩ := HttpApi.handleRequest_of_asRequest state hasked
      rw [h] at hnode hreply
      refine ⟨_, .up (HttpApi.handle state.node asked).2, .connection hasked hreply, ⟨?_, rfl⟩, ?_⟩
      · exact .request asked (HttpApi.fresh_of_asRequest hasked hfresh)
      · rw [hnode]
        rfl
    | restart _ opens env =>
      refine ⟨_, wire.server.restart opens env, .restart opens env, ⟨.restart _ opens env, ?_⟩,
        wire.server_restart opens env⟩
      cases wire <;> rfl
  silent_step := by
    rintro wire event wire' _ rfl hstep hsilent
    cases hstep with
    | @connection state state' request reply hfresh h =>
      have hnone := Option.isNone_iff_eq_none.mp (Option.isSome_eq_false_iff.mp hsilent)
      have hnode := (HttpApi.handleRequest_of_asRequest_eq_none state hnone).1
      rw [h] at hnode
      exact congrArg Server.up hnode
    | restart _ opens env => cases hsilent

/-- **The runs of the server at its connections are those of the server.** In every run of
connections, whatever the certificates of the clients, the bytes and the pieces in which they
arrive, with faults at any step, and of restarts: the connections whose bytes get to the
certificates, and the restarts, are the events of a run of the server under requests, in the same
order and with answers that the replies render; and every other connection is answered from its
bytes alone. -/
theorem server_of_wire {wire wire' : WireServer} (run : (wireServer crates config).Run wire wire') :
    (∃ run' : answeringServer.Run wire.server wire'.server, List.Forall₂ (WireShows crates config)
      (run.labels.filter (WireEvent.isBelow crates config)) run'.labels) ∧
    ∀ request reply, .connection request reply ∈ run.labels →
      HttpApi.asRequest crates config request = none →
        reply = HttpApi.directReply crates request.fragments := by
  constructor
  · obtain ⟨server, run', rfl, hshows⟩ := simulates_server.exists_run rfl run
    exact ⟨run', hshows⟩
  · intro request reply hmem hnone
    obtain ⟨u, v, hstep⟩ := run.exists_step_of_mem_labels hmem
    cases hstep with
    | @connection state state' _ _ hfresh h =>
      have hreply := (HttpApi.handleRequest_of_asRequest_eq_none state hnone).2
      rwa [h] at hreply

/-! ### While nothing fails -/

/-- Nothing fails in the event. -/
def WireEvent.Faultless (wire : WireServer) : WireEvent → Prop
  | .connection request _ => request.env.fault = none ∧ request.env.issuance.fault = none ∧
      request.env.refresh.Faultless wire.server.crlFiles
  | .restart opens env => opens = true ∧ env.Faultless wire.server.crlFiles

variable (crates config) in
/-- The server at its connections while nothing fails. -/
def wireService : LTS WireServer WireEvent :=
  (wireServer crates config).restrict WireEvent.Faultless

variable (crates config) in
/-- The event of the server while nothing fails, with its answer. -/
inductive ServiceShows : WireEvent → ServiceEvent → Prop
  | connection {request : ApiRequest} {reply : Reply} {asked : Request}
      {outcome : Outcome HttpResponse}
      (hasked : HttpApi.asRequest crates config request = some asked)
      (hreply : reply.Renders request.env.issuance.cause outcome) :
      ServiceShows (.connection request reply) (.answered asked outcome)
  | restart (opens : Bool) (env : RefreshEnvironment) :
      ServiceShows (.restart opens env) .restarted

/-- A record has the serial number that was signed. -/
theorem HttpApi.faultless_of_asRequest {request : ApiRequest} {asked : Request} {files : CrlFiles}
    (h : asRequest crates config request = some asked) (hfault : request.env.fault = none)
    (hissuance : request.env.issuance.fault = none)
    (hrefresh : request.env.refresh.Faultless files) : asked.Faultless files := by
  rw [asRequest] at h
  split at h
  · obtain ⟨decoded, -, rfl⟩ := Option.map_eq_some_iff.mp h
    refine ⟨hissuance, fun id now serialNumber certificatePem notAfter hattempt => ?_⟩
    rw [attempt] at hattempt
    split at hattempt
    · cases hattempt
    next pem record hprepare =>
      cases hattempt
      obtain ⟨certificate, parsed, -, -, -, rfl⟩ := IssuanceService.delivers_of_prepare hprepare
      exact ⟨parsed.serial, rfl⟩
  · cases h
    trivial
  · cases h
    trivial
  · cases h
    exact ⟨hfault, hrefresh⟩
  · cases h

/-- The steps of the server at its connections, while nothing fails, are those of the server. -/
theorem simulates_service : LTS.Simulates (wireService crates config) serviceSystem
    (fun wire server => wire.server = server) (WireEvent.isBelow crates config)
    (ServiceShows crates config) where
  visible_step := by
    rintro wire event wire' _ rfl ⟨hfaultless, hstep⟩ hvisible
    cases hstep with
    | @connection state state' request reply hfresh h =>
      obtain ⟨asked, hasked⟩ := Option.isSome_iff_exists.mp hvisible
      obtain ⟨hfault, hissuance, hrefresh⟩ := hfaultless
      obtain ⟨hnode, hreply⟩ := HttpApi.handleRequest_of_asRequest state hasked
      rw [h] at hnode hreply
      refine ⟨_, .up state'.node, .connection hasked hreply, ?_, rfl⟩
      exact .answer (HttpApi.fresh_of_asRequest hasked hfresh)
        (HttpApi.faultless_of_asRequest hasked hfault hissuance hrefresh) (Prod.ext rfl hnode)
    | restart _ opens env =>
      obtain ⟨rfl, henv⟩ := hfaultless
      exact ⟨_, _, .restart true env, .restart _ env henv, wire.server_restart true env⟩
  silent_step := by
    rintro wire event wire' server h ⟨-, hstep⟩ hsilent
    exact simulates_server.silent_step h hstep hsilent

variable (crates config) in
/-- The bytes of the connection reach the certificates. -/
def WireEvent.reaches : WireEvent → Bool
  | .connection request _ => (HttpApi.asRequest crates config request).any fun asked =>
      (ServiceEvent.answered asked .panicked).reaches
  | .restart _ _ => false

theorem ServiceShows.reaches_eq {event : WireEvent} {below : ServiceEvent}
    (h : ServiceShows crates config event below) :
    event.reaches crates config = below.reaches := by
  cases h with
  | restart opens env => rfl
  | @connection request reply asked outcome hasked hreply =>
    rw [WireEvent.reaches, hasked, Option.any_some]
    cases asked with
    | issue decoded attempt fault => cases attempt <;> rfl
    | _ => rfl

variable (crates config) in
/-- The bytes of the connection are a request to the registry, and the reply is its answer. -/
def WireTells (event : WireEvent) (told : RegistryEvent) : Prop :=
  ∃ request asked outcome, event = .connection request (.ofOutcome outcome) ∧
    HttpApi.asRequest crates config request = some asked ∧ Shows (.answered asked outcome) told

/-- The answers of the registry are none of the errors of a store. -/
theorem wireTells_of_comp {event : WireEvent} {told : RegistryEvent}
    (h : Relation.Comp (ServiceShows crates config) Shows event told) :
    WireTells crates config event told := by
  obtain ⟨below, hbelow, hshows⟩ := h
  cases hbelow with
  | restart opens env => cases hshows
  | @connection request reply asked outcome hasked hreply =>
    rcases hreply with rfl | ⟨e, rfl, -⟩
    · exact ⟨request, asked, outcome, rfl, hasked, hshows⟩
    · cases hshows

/-- **From the bytes to the registry.** In every run from empty files in which nothing fails, of
connections with any bytes from any clients, and of restarts: the connections whose bytes reach the
certificates, with their replies, are the events of a run of the registry, in the same order; the
file, and when the server runs the map, have the records of that registry; and the acceptor refuses
exactly the certificates that it has revoked. -/
theorem registry_of_wire {wire : WireServer}
    (run : (wireService crates config).Run (.down none ⟨none, none⟩) wire) :
    ∃ registry, ∃ run' : certificateRegistry.Run (fun _ => none) registry,
      List.Forall₂ (WireTells crates config)
          (run.labels.filter (WireEvent.reaches crates config)) run'.labels ∧
        Represents wire.server registry := by
  have hsimulates : LTS.Simulates (wireService crates config) certificateRegistry
      (Relation.Comp (fun wire server => wire.server = server) Represents)
      (WireEvent.reaches crates config) (Relation.Comp (ServiceShows crates config) Shows) := by
    refine simulates_service.comp simulates_registry (fun event hsilent => ?_)
      fun _ _ h => h.reaches_eq
    cases event with
    | connection request reply =>
      have hnone := Option.isNone_iff_eq_none.mp (Option.isSome_eq_false_iff.mp hsilent)
      rw [WireEvent.reaches, hnone]
      rfl
    | restart opens env => rfl
  have hstart : Relation.Comp (fun wire server => WireServer.server wire = server) Represents
      (.down none ⟨none, none⟩) fun _ => none := ⟨_, rfl, represents_empty⟩
  obtain ⟨registry, run', ⟨server, rfl, hrepresents⟩, hshows⟩ := hsimulates.exists_run hstart run
  exact ⟨registry, run', hshows.imp fun _ _ => wireTells_of_comp, hrepresents⟩

end Runs

end DaemonPki
