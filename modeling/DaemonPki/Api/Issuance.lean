import DaemonPki.Api.Server
import DaemonPki.Certificate.Issuance
import DaemonPki.Foundation.Bytes

/-!
# The issuance service

The service that issues a certificate for a caller, stores its record and writes the audit trail
(`daemon-pki-api/src/issuance.rs` and `audit/mod.rs`). The parser of the signed certificate is
that of another crate and is an argument, as are the signer and what happens to the file of the
store.

## Main definitions

* `DaemonPki.AuditEvent`, `DaemonPki.AuditStore`.
* `DaemonPki.IssuanceService.validateRequest`, `DaemonPki.IssuanceService.issue`.
* `DaemonPki.IssuanceService.Delivers`: when the issuer delivers a certificate.
* `DaemonPki.IssuanceService.Ends`, `DaemonPki.IssuanceService.AuditedOnce`.

## Main results

* `DaemonPki.IssuanceService.issue_ends`: the ways in which a call ends.
* `DaemonPki.IssuanceService.auditedOnce_iff`: the calls that are audited exactly once, truthfully.
-/

namespace DaemonPki

open Foundation

/-! ### The audit trail -/

/-- Source: `audit/mod.rs`, lines 7–18. -/
inductive AuditEventType
  | certificateIssued
  | certificateRenewed
  | certificateRevoked
  | certificateValidated
  | authorizationDenied
  | authenticationSucceeded
  | authenticationFailed
  | policyDenied
  | securityConfigurationChanged
  deriving DecidableEq, Repr

/-- Source: `audit/mod.rs`, lines 20–25. -/
inductive AuditOutcome
  | success
  | denied
  | failure
  deriving DecidableEq, Repr

/-- An event, its metadata as an object of texts. Source: `audit/mod.rs`, lines 27–45. -/
structure AuditEvent where
  id : Uuid
  eventType : AuditEventType
  outcome : AuditOutcome
  timestamp : OffsetDateTime
  principalId : Option Uuid
  principalName : Option String
  certificateId : Option Uuid
  certificateSerial : Option String
  resource : Option String
  action : String
  reason : Option String
  metadata : List (String × String)
  deriving DecidableEq, Repr

namespace AuditEvent

/-- A new event, with the identifier and the clock reading drawn by the call. Source:
`audit/mod.rs`, lines 48–67. -/
def new (id : Uuid) (now : OffsetDateTime) (eventType : AuditEventType) (outcome : AuditOutcome)
    (action : String) : AuditEvent where
  id := id
  eventType := eventType
  outcome := outcome
  timestamp := now
  principalId := none
  principalName := none
  certificateId := none
  certificateSerial := none
  resource := none
  action := action
  reason := none
  metadata := []

/-- Source: `audit/mod.rs`, lines 69–77. -/
def withPrincipal (event : AuditEvent) (principalId : Uuid) (principalName : String) : AuditEvent :=
  { event with
    principalId := some principalId
    principalName := some principalName }

/-- Source: `audit/mod.rs`, lines 89–95. -/
def withResource (event : AuditEvent) (resource : String) : AuditEvent :=
  { event with resource := some resource }

/-- Source: `audit/mod.rs`, lines 97–103. -/
def withReason (event : AuditEvent) (reason : String) : AuditEvent :=
  { event with reason := some reason }

/-- Source: `audit/mod.rs`, lines 105–111. -/
def withMetadata (event : AuditEvent) (metadata : List (String × String)) : AuditEvent :=
  { event with metadata := metadata }

end AuditEvent

/-- The events in the order in which they were recorded. -/
structure AuditStore where
  events : List AuditEvent
  deriving DecidableEq, Repr

/-- Source: `audit/mod.rs`, lines 124–134. -/
def AuditStore.record (store : AuditStore) (event : AuditEvent) : AuditStore :=
  ⟨store.events ++ [event]⟩

/-! ### The service -/

/-- Source: `issuance.rs`, lines 30–35. -/
structure AuthenticatedPrincipal where
  id : Uuid
  name : String
  roles : List String
  deriving DecidableEq, Repr

/-- Source: `issuance.rs`, lines 38–40. -/
def AuthenticatedPrincipal.hasRole (principal : AuthenticatedPrincipal) (role : String) : Bool :=
  principal.roles.any fun item => item = role

/-- Source: `issuance.rs`, lines 43–50. -/
structure IssuancePolicy where
  maxDnsNames : ℕ
  maxIpAddresses : ℕ
  maxCommonNameLength : ℕ
  requireServerAuth : Bool
  requireClientAuth : Bool
  deriving DecidableEq, Repr

/-- Source: `issuance.rs`, lines 52–62. -/
def IssuancePolicy.default : IssuancePolicy where
  maxDnsNames := 100
  maxIpAddresses := 100
  maxCommonNameLength := 253
  requireServerAuth := false
  requireClientAuth := false

/-- Source: `issuance.rs`, lines 73–82. -/
structure IssueCertificateResponse where
  certificatePem : String
  issuer : String
  commonName : String
  dnsNames : List String
  ipAddresses : List String
  clientAuth : Bool
  serverAuth : Bool
  deriving DecidableEq, Repr

/-- Source: `issuance.rs`, lines 84–92. -/
structure IssuanceAuditEvent where
  eventId : Uuid
  principalId : Uuid
  principalName : String
  commonName : String
  success : Bool
  reason : Option String
  deriving DecidableEq, Repr

/-- Source: `issuance.rs`, lines 94–106. -/
inductive IssuanceServiceError
  | certificateStore (error : String)
  | unauthorized
  | invalidRequest (reason : String)
  | issuance (error : IssuanceError)
  deriving DecidableEq, Repr

/-- Source: `issuance.rs`, lines 94–106. -/
def IssuanceServiceError.toString : IssuanceServiceError → String
  | .certificateStore error => "certificate store error: " ++ error
  | .unauthorized => "caller is not authorized to issue certificates"
  | .invalidRequest reason => "certificate request is invalid: " ++ reason
  | .issuance error => "certificate issuance failed: " ++ error.toString

/-- The text of an error of the store; `cause` is that of the error behind it. Source:
`certificates.rs`, lines 60–67. -/
def CertificateStoreError.toString (cause : String) : CertificateStoreError → String
  | .io => "certificate store I/O failed: " ++ cause
  | .serialization => "certificate store serialization failed: " ++ cause

/-- What is read from a signed certificate. -/
structure X509Certificate where
  serial : ℕ
  notAfter : OffsetDateTime
  deriving DecidableEq, Repr

/-- What the environment does in one issuance: the signer, the parser of what was signed, what
happens to the file of the store with the text of the error, and the identifiers and the clock
readings that are drawn. -/
structure IssuanceEnvironment where
  issuer : IssuerEnvironment
  parse : List UInt8 → Except String X509Certificate
  fault : Option PersistFault
  cause : String
  recordId : Uuid
  issuedAt : OffsetDateTime
  eventId : Uuid
  timestamp : OffsetDateTime
  auditId : Uuid

/-- What the service works on: the store and the audit trail. What was handed to the signer is
kept for the statements. -/
structure IssuanceState where
  store : CertificateStore
  audit : AuditStore
  signed : List CertificateParams

/-- The text of a serial number: two hexadecimal digits for each byte. Source: `issuance.rs`,
lines 308–317. -/
def serialText (serialNumber : ℕ) : String := String.ofList (lowerHex (toBytesBe serialNumber))

namespace IssuanceService

/-- Source: `issuance.rs`, lines 158–190. -/
def recordEvent (env : IssuanceEnvironment) (eventType : AuditEventType) (outcome : AuditOutcome)
    (principal : AuthenticatedPrincipal) (commonName : String) (reason : Option String)
    (audit : AuditStore) : AuditStore :=
  let event := ((AuditEvent.new env.eventId env.timestamp eventType outcome
    "certificate.issue").withPrincipal principal.id principal.name).withResource "certificate"
  let event :=
    if commonName ≠ "" then event.withMetadata [("common_name", commonName)] else event
  let event :=
    match reason with
    | some reason => event.withReason reason
    | none => event
  audit.record event

/-- Source: `issuance.rs`, lines 372–460. -/
def validateRequest (policy : IssuancePolicy) (request : IssueCertificateRequest) :
    Except IssuanceServiceError Unit :=
  if (Text.trim request.commonName.toList).isEmpty then
    .error (.invalidRequest "common name cannot be empty")
  else if policy.maxCommonNameLength < (Text.utf8 request.commonName.toList).length then
    .error (.invalidRequest "common name exceeds policy limit")
  else if policy.maxDnsNames < request.dnsNames.length then
    .error (.invalidRequest "too many DNS names")
  else if policy.maxIpAddresses < request.ipAddresses.length then
    .error (.invalidRequest "too many IP addresses")
  else if request.dnsNames.isEmpty && request.ipAddresses.isEmpty then
    .error (.invalidRequest "certificate must contain at least one SAN identity")
  else if !request.clientAuth && !request.serverAuth then
    .error (.invalidRequest "at least one extended key usage is required")
  else if policy.requireServerAuth && !request.serverAuth then
    .error (.invalidRequest "server authentication is required by policy")
  else if policy.requireClientAuth && !request.clientAuth then
    .error (.invalidRequest "client authentication is required by policy")
  else .ok ()

/-- The loop over the addresses; it stops at the first that is none, and says why. Source:
`issuance.rs`, lines 243–263. -/
def withIpAddresses (request : CertificateRequest) :
    List String → Except String CertificateRequest
  | [] => .ok request
  | ipAddress :: ipAddresses =>
    match IpAddr.parse ipAddress with
    | none => .error ("invalid IP address: " ++ ipAddress)
    | some parsed => withIpAddresses (request.withIpAddress parsed) ipAddresses

/-- The request to the issuer. Source: `issuance.rs`, lines 235–269. -/
def certificateRequest (request : IssueCertificateRequest) : Except String CertificateRequest :=
  let named := request.dnsNames.foldl CertificateRequest.withDnsName (.new request.commonName)
  match withIpAddresses named request.ipAddresses with
  | .error reason => .error reason
  | .ok certificateRequest => .ok
    { certificateRequest with
      clientAuth := request.clientAuth
      serverAuth := request.serverAuth }

/-- Source: `issuance.rs`, lines 342–350. -/
def issueResponse (request : IssueCertificateRequest) (certificatePem : String) :
    IssueCertificateResponse where
  certificatePem := certificatePem
  issuer := "Daemon PKI Intermediate CA"
  commonName := request.commonName
  dnsNames := request.dnsNames
  ipAddresses := request.ipAddresses
  clientAuth := request.clientAuth
  serverAuth := request.serverAuth

/-- Source: `issuance.rs`, lines 360–367. -/
def issuanceAuditEvent (principal : AuthenticatedPrincipal) (request : IssueCertificateRequest)
    (eventId : Uuid) : IssuanceAuditEvent where
  eventId := eventId
  principalId := principal.id
  principalName := principal.name
  commonName := request.commonName
  success := true
  reason := none

/-- Source: `issuance.rs`, lines 192–370. -/
def issue (policy : IssuancePolicy) (principal : AuthenticatedPrincipal)
    (request : IssueCertificateRequest) (env : IssuanceEnvironment) (state : IssuanceState) :
    Except IssuanceServiceError (IssueCertificateResponse × IssuanceAuditEvent) × IssuanceState :=
  let recordEvent (eventType : AuditEventType) (outcome : AuditOutcome) (reason : Option String)
      (state : IssuanceState) : IssuanceState :=
    { state with
      audit := recordEvent env eventType outcome principal request.commonName reason state.audit }
  if !principal.hasRole "certificate:issue" then
    (.error .unauthorized, recordEvent .authorizationDenied .denied
      (some "caller is not authorized to issue certificates") state)
  else
    match validateRequest policy request with
    | .error error =>
      (.error error, recordEvent .policyDenied .denied (some error.toString) state)
    | .ok () =>
      match certificateRequest request with
      | .error reason =>
        (.error (.invalidRequest reason), recordEvent .policyDenied .denied (some reason) state)
      | .ok certificateRequest =>
        let state := { state with
          signed := state.signed ++
            (CertificateIssuer.signedParams env.issuer certificateRequest).toList }
        match CertificateIssuer.issue env.issuer certificateRequest with
        | .error error =>
          (.error (.issuance error),
            recordEvent .certificateIssued .failure (some error.toString) state)
        | .ok certificate =>
          match env.parse certificate.der with
          | .error error =>
            -- No event is recorded here, nor when the record cannot be stored.
            (.error (.certificateStore ("failed to parse issued certificate: " ++ error)), state)
          | .ok parsed =>
            let record := HttpApi.issuedRecord request env.recordId env.issuedAt
              (serialText parsed.serial) certificate.pem parsed.notAfter
            match state.store.insert record env.fault with
            | (.error error, store) =>
              (.error (.certificateStore (error.toString env.cause)),
                { state with store := store })
            | (.ok _, store) =>
              (.ok (issueResponse request certificate.pem,
                  issuanceAuditEvent principal request env.auditId),
                recordEvent .certificateIssued .success none { state with store := store })

/-! ### How a call ends -/

variable {policy : IssuancePolicy} {principal : AuthenticatedPrincipal}
  {request : IssueCertificateRequest} {env : IssuanceEnvironment} {state : IssuanceState}

/-- The checks pass and the issuer delivers the certificate. -/
def Delivers (policy : IssuancePolicy) (principal : AuthenticatedPrincipal)
    (request : IssueCertificateRequest) (issuer : IssuerEnvironment) (certificate : Certificate) :
    Prop :=
  principal.hasRole "certificate:issue" = true ∧ validateRequest policy request = .ok () ∧
    ∃ toIssue, certificateRequest request = .ok toIssue ∧
      CertificateIssuer.issue issuer toIssue = .ok certificate

/-- The event names the principal. -/
theorem recordEvent_eq (env : IssuanceEnvironment) (principal : AuthenticatedPrincipal)
    (eventType : AuditEventType) (outcome : AuditOutcome) (commonName : String)
    (reason : Option String) (audit : AuditStore) : ∃ event,
      recordEvent env eventType outcome principal commonName reason audit = audit.record event ∧
        event.eventType = eventType ∧ event.outcome = outcome ∧
        event.principalId = some principal.id ∧ event.principalName = some principal.name := by
  refine ⟨_, rfl, ?_⟩
  cases reason <;> by_cases h : commonName = "" <;> simp [h, AuditEvent.withReason,
    AuditEvent.withMetadata, AuditEvent.withResource, AuditEvent.withPrincipal, AuditEvent.new]

/-- How a call ends, and what it leaves behind. -/
inductive Ends (policy : IssuancePolicy) (principal : AuthenticatedPrincipal)
    (request : IssueCertificateRequest) (env : IssuanceEnvironment) (state : IssuanceState) :
    Except IssuanceServiceError (IssueCertificateResponse × IssuanceAuditEvent) →
      IssuanceState → Prop
  | refused {error : IssuanceServiceError} {eventType : AuditEventType} {reason : String}
      (hnot : ∀ certificate, ¬ Delivers policy principal request env.issuer certificate) :
      Ends policy principal request env state (.error error)
        { state with
          audit := recordEvent env eventType .denied principal request.commonName (some reason)
            state.audit }
  | failed {error : IssuanceError} {signed : List CertificateParams}
      (hnot : ∀ certificate, ¬ Delivers policy principal request env.issuer certificate) :
      Ends policy principal request env state (.error (.issuance error))
        { state with
          audit := recordEvent env .certificateIssued .failure principal request.commonName
            (some error.toString) state.audit
          signed := signed }
  | unreadable {certificate : Certificate} {error : String} {signed : List CertificateParams}
      (hdelivers : Delivers policy principal request env.issuer certificate)
      (hparse : env.parse certificate.der = .error error) :
      Ends policy principal request env state
        (.error (.certificateStore ("failed to parse issued certificate: " ++ error)))
        { state with signed := signed }
  | unstored {certificate : Certificate} {parsed : X509Certificate}
      {error : CertificateStoreError} {store : CertificateStore} {signed : List CertificateParams}
      (hdelivers : Delivers policy principal request env.issuer certificate)
      (hparse : env.parse certificate.der = .ok parsed)
      (hinsert : state.store.insert (HttpApi.issuedRecord request env.recordId env.issuedAt
        (serialText parsed.serial) certificate.pem parsed.notAfter) env.fault =
          (.error error, store)) :
      Ends policy principal request env state
        (.error (.certificateStore (error.toString env.cause)))
        { state with
          store := store
          signed := signed }
  | issued {certificate : Certificate} {parsed : X509Certificate} {id : Uuid}
      {store : CertificateStore} {signed : List CertificateParams}
      (hdelivers : Delivers policy principal request env.issuer certificate)
      (hparse : env.parse certificate.der = .ok parsed)
      (hinsert : state.store.insert (HttpApi.issuedRecord request env.recordId env.issuedAt
        (serialText parsed.serial) certificate.pem parsed.notAfter) env.fault = (.ok id, store)) :
      Ends policy principal request env state
        (.ok (issueResponse request certificate.pem,
          issuanceAuditEvent principal request env.auditId))
        { store := store
          audit := recordEvent env .certificateIssued .success principal request.commonName none
            state.audit
          signed := signed }

/-- **How a call ends**: it is refused or the issuer fails, with an event that says so; the
certificate that was delivered cannot be read, or its record cannot be stored, with no event; or
it succeeds, with an event. -/
theorem issue_ends (policy : IssuancePolicy) (principal : AuthenticatedPrincipal)
    (request : IssueCertificateRequest) (env : IssuanceEnvironment) (state : IssuanceState) :
    Ends policy principal request env state (issue policy principal request env state).1
      (issue policy principal request env state).2 := by
  rw [issue]
  split_ifs with hrole
  · refine .refused fun certificate h => ?_
    rw [h.1] at hrole
    cases hrole
  cases hvalid : validateRequest policy request with
  | error error =>
    refine .refused fun certificate h => ?_
    obtain ⟨-, hok, -⟩ := h
    rw [hvalid] at hok
    cases hok
  | ok valid =>
    cases hrequest : certificateRequest request with
    | error reason =>
      refine .refused fun certificate h => ?_
      obtain ⟨-, -, toIssue, htoIssue, -⟩ := h
      rw [hrequest] at htoIssue
      cases htoIssue
    | ok toIssue =>
      cases hissue : CertificateIssuer.issue env.issuer toIssue with
      | error error =>
        simp only [hissue]
        refine .failed fun certificate h => ?_
        obtain ⟨-, -, toIssue', htoIssue, hcertificate⟩ := h
        rw [hrequest] at htoIssue
        cases htoIssue
        rw [hissue] at hcertificate
        cases hcertificate
      | ok certificate =>
        have hdelivers : Delivers policy principal request env.issuer certificate :=
          ⟨by simpa using hrole, hvalid, toIssue, hrequest, hissue⟩
        cases hparse : env.parse certificate.der with
        | error error =>
          simp only [hissue, hparse]
          exact .unreadable hdelivers hparse
        | ok parsed =>
          simp only [hissue, hparse]
          split
          next error store hinsert => exact .unstored hdelivers hparse hinsert
          next id store hinsert => exact .issued hdelivers hparse hinsert

/-! ### What is audited -/

/-- Exactly one event was appended; it names the principal, and says success exactly when the
call returned `Ok`. -/
def AuditedOnce {α : Type*} (principal : AuthenticatedPrincipal) (before after : AuditStore)
    (result : Except IssuanceServiceError α) : Prop :=
  ∃ event, after.events = before.events ++ [event] ∧ event.principalId = some principal.id ∧
    event.principalName = some principal.name ∧
    (event.outcome = .success ↔ ∃ value, result = .ok value) ∧
    ((event.outcome = .denied ∨ event.outcome = .failure) ↔ ∃ error, result = .error error)

theorem auditedOnce_ok {α : Type*} {eventType : AuditEventType} {commonName : String}
    {reason : Option String} {audit : AuditStore} (value : α) :
    AuditedOnce principal audit
      (recordEvent env eventType .success principal commonName reason audit) (.ok value) := by
  obtain ⟨event, hrecord, -, houtcome, hid, hname⟩ :=
    recordEvent_eq env principal eventType .success commonName reason audit
  rw [hrecord]
  exact ⟨event, rfl, hid, hname, by simp [houtcome], by simp [houtcome]⟩

theorem auditedOnce_error {α : Type*} {eventType : AuditEventType} {outcome : AuditOutcome}
    {commonName : String} {reason : Option String} {audit : AuditStore}
    (houtcome : outcome ≠ .success) (error : IssuanceServiceError) :
    AuditedOnce (α := α) principal audit
      (recordEvent env eventType outcome principal commonName reason audit) (.error error) := by
  obtain ⟨event, hrecord, -, rfl, hid, hname⟩ :=
    recordEvent_eq env principal eventType outcome commonName reason audit
  rw [hrecord]
  refine ⟨event, rfl, hid, hname, by simpa using houtcome, ?_⟩
  cases h : event.outcome <;> simp_all

theorem not_auditedOnce_self {α : Type*} {audit : AuditStore}
    {result : Except IssuanceServiceError α} : ¬ AuditedOnce principal audit audit result := by
  rintro ⟨event, hevents, -⟩
  simp at hevents

/-- A certificate that the issuer delivers can be read, and its record can be stored. -/
def Recordable (policy : IssuancePolicy) (principal : AuthenticatedPrincipal)
    (request : IssueCertificateRequest) (env : IssuanceEnvironment) : Prop :=
  ∀ certificate, Delivers policy principal request env.issuer certificate →
    (∃ parsed, env.parse certificate.der = .ok parsed) ∧ env.fault = none

theorem Delivers.unique {certificate certificate' : Certificate}
    (h : Delivers policy principal request env.issuer certificate)
    (h' : Delivers policy principal request env.issuer certificate') :
    certificate = certificate' := by
  obtain ⟨-, -, toIssue, hrequest, hissue⟩ := h
  obtain ⟨-, -, toIssue', hrequest', hissue'⟩ := h'
  rw [hrequest] at hrequest'
  cases hrequest'
  rw [hissue] at hissue'
  exact Except.ok.inj hissue'

/-- **Which calls are audited exactly once, truthfully**: all but those to which the issuer
delivers a certificate that then cannot be read or whose record cannot be stored. -/
theorem auditedOnce_iff (policy : IssuancePolicy) (principal : AuthenticatedPrincipal)
    (request : IssueCertificateRequest) (env : IssuanceEnvironment) (state : IssuanceState) :
    AuditedOnce principal state.audit (issue policy principal request env state).2.audit
        (issue policy principal request env state).1 ↔
      Recordable policy principal request env := by
  have hends := issue_ends policy principal request env state
  generalize (issue policy principal request env state).1 = result at hends
  generalize (issue policy principal request env state).2 = state' at hends
  cases hends with
  | refused hnot =>
    refine iff_of_true (auditedOnce_error (by decide) _) ?_
    exact fun certificate h => absurd h (hnot certificate)
  | failed hnot =>
    refine iff_of_true (auditedOnce_error (by decide) _) ?_
    exact fun certificate h => absurd h (hnot certificate)
  | unreadable hdelivers hparse =>
    refine iff_of_false not_auditedOnce_self fun h => ?_
    obtain ⟨⟨parsed, hparsed⟩, -⟩ := h _ hdelivers
    rw [hparse] at hparsed
    cases hparsed
  | unstored hdelivers hparse hinsert =>
    refine iff_of_false not_auditedOnce_self fun h => ?_
    obtain ⟨-, hfault⟩ := h _ hdelivers
    rw [hfault] at hinsert
    cases hinsert
  | issued hdelivers hparse hinsert =>
    refine iff_of_true (auditedOnce_ok _) fun certificate h => ?_
    obtain rfl := hdelivers.unique h
    refine ⟨⟨_, hparse⟩, ?_⟩
    cases hfault : env.fault with
    | none => rfl
    | some fault =>
      rw [hfault] at hinsert
      cases fault <;> cases hinsert

/-- A request that passes all checks, and an environment in which nothing fails but, if so said,
the file of the store. -/
def sampleRequest : IssueCertificateRequest := ⟨"workload", ["workload.internal"], [], true, false⟩

def samplePrincipal : AuthenticatedPrincipal := ⟨7, "operator", ["certificate:issue"]⟩

def sampleEnvironment (fault : Option PersistFault) : IssuanceEnvironment where
  issuer := ⟨fun _ => true, .ok (), fun _ => .ok ⟨"", []⟩⟩
  parse _ := .ok ⟨10, 0⟩
  fault := fault
  cause := ""
  recordId := 1
  issuedAt := 0
  eventId := 2
  timestamp := 0
  auditId := 3

/-- A certificate was signed and its record is in the map, the call returns an error since the
file could not be renamed, and no event says so. -/
theorem not_auditedOnce_rename :
    ¬ AuditedOnce samplePrincipal ⟨[]⟩
        (issue .default samplePrincipal sampleRequest (sampleEnvironment (some .rename))
          ⟨⟨∅, none⟩, ⟨[]⟩, []⟩).2.audit
        (issue .default samplePrincipal sampleRequest (sampleEnvironment (some .rename))
          ⟨⟨∅, none⟩, ⟨[]⟩, []⟩).1 ∧
      (∃ error, (issue .default samplePrincipal sampleRequest (sampleEnvironment (some .rename))
        ⟨⟨∅, none⟩, ⟨[]⟩, []⟩).1 = .error error) ∧
      (issue .default samplePrincipal sampleRequest (sampleEnvironment (some .rename))
        ⟨⟨∅, none⟩, ⟨[]⟩, []⟩).2.signed.length = 1 := by
  refine ⟨?_, ⟨_, rfl⟩, rfl⟩
  rintro ⟨event, hevents, -⟩
  cases hevents

end IssuanceService

end DaemonPki
