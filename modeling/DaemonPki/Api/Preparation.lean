import DaemonPki.Api.Issuance

/-!
# What an issuance does by itself

An issuance (`daemon-pki-api/src/issuance.rs`, `issue`) decides and signs before it touches
anything that others see: it checks the caller and the request, has the certificate signed and
reads it. What then remains is to insert a record in the store, and to append an event to the audit
trail. This file cuts `issue` there.

## Main definitions

* `DaemonPki.Preparation`, `DaemonPki.IssuanceService.prepare`.
* `DaemonPki.IssuanceService.issuanceEvent`: the event that an issuance records.

## Main results

* `DaemonPki.IssuanceService.issue_of_ends`, `DaemonPki.IssuanceService.issue_of_stores`: `issue` is
  what it prepares, and then the store and the trail.
* `DaemonPki.IssuanceService.delivers_of_prepare`: which record is stored.
-/

namespace DaemonPki

open Foundation

/-- What an issuance has decided before it writes anything that is shared: it ends with an error,
after it has recorded the event if there is one, or it stores the record of a certificate. -/
inductive Preparation
  | ends (error : IssuanceServiceError) (event : Option AuditEvent)
  | stores (certificatePem : String) (record : CertificateRecord)

namespace IssuanceService

/-- The event that `record_event` records. Source: `issuance.rs`, lines 166–187. -/
def issuanceEvent (env : IssuanceEnvironment) (eventType : AuditEventType) (outcome : AuditOutcome)
    (principal : AuthenticatedPrincipal) (commonName : String) (reason : Option String) :
    AuditEvent :=
  let event := ((AuditEvent.new env.eventId env.timestamp eventType outcome
    "certificate.issue").withPrincipal principal.id principal.name).withResource "certificate"
  let event :=
    if commonName ≠ "" then event.withMetadata [("common_name", commonName)] else event
  match reason with
  | some reason => event.withReason reason
  | none => event

/-- What `record_event` appends. -/
theorem record_issuanceEvent (env : IssuanceEnvironment) (eventType : AuditEventType)
    (outcome : AuditOutcome) (principal : AuthenticatedPrincipal) (commonName : String)
    (reason : Option String) (audit : AuditStore) :
    (⟨audit.events ++ [issuanceEvent env eventType outcome principal commonName reason]⟩ :
      AuditStore) = recordEvent env eventType outcome principal commonName reason audit := rfl

/-- What a call does before it touches the store. Source: `issuance.rs`, lines 201–337. -/
def prepare (policy : IssuancePolicy) (principal : AuthenticatedPrincipal)
    (request : IssueCertificateRequest) (env : IssuanceEnvironment) : Preparation :=
  let event (eventType : AuditEventType) (outcome : AuditOutcome) (reason : String) : AuditEvent :=
    issuanceEvent env eventType outcome principal request.commonName (some reason)
  if !principal.hasRole "certificate:issue" then
    .ends .unauthorized (some (event .authorizationDenied .denied
      "caller is not authorized to issue certificates"))
  else
    match validateRequest policy request with
    | .error error => .ends error (some (event .policyDenied .denied error.toString))
    | .ok () =>
      match certificateRequest request with
      | .error reason =>
        .ends (.invalidRequest reason) (some (event .policyDenied .denied reason))
      | .ok certificateRequest =>
        match CertificateIssuer.issue env.issuer certificateRequest with
        | .error error =>
          .ends (.issuance error) (some (event .certificateIssued .failure error.toString))
        | .ok certificate =>
          match env.parse certificate.der with
          | .error error =>
            .ends (.certificateStore ("failed to parse issued certificate: " ++ error)) none
          | .ok parsed =>
            .stores certificate.pem (HttpApi.issuedRecord request env.recordId env.issuedAt
              (serialText parsed.serial) certificate.pem parsed.notAfter)

variable {policy : IssuancePolicy} {principal : AuthenticatedPrincipal}
  {request : IssueCertificateRequest} {env : IssuanceEnvironment}

/-- The call that stores a record stores that of the certificate which the issuer delivers. -/
theorem delivers_of_prepare {certificatePem : String} {record : CertificateRecord}
    (h : prepare policy principal request env = .stores certificatePem record) :
    ∃ certificate parsed, Delivers policy principal request env.issuer certificate ∧
      env.parse certificate.der = .ok parsed ∧ certificatePem = certificate.pem ∧
      record = HttpApi.issuedRecord request env.recordId env.issuedAt (serialText parsed.serial)
        certificate.pem parsed.notAfter := by
  rw [prepare] at h
  split_ifs at h with hrole
  split at h
  · cases h
  next hvalid =>
    split at h
    · cases h
    next toIssue hrequest =>
      split at h
      · cases h
      next certificate hissue =>
        split at h
        · cases h
        next parsed hparse =>
          cases h
          exact ⟨certificate, parsed, ⟨by simpa using hrole, hvalid, toIssue, hrequest, hissue⟩,
            hparse, rfl, rfl⟩

theorem id_of_prepare {certificatePem : String} {record : CertificateRecord}
    (h : prepare policy principal request env = .stores certificatePem record) :
    record.id = env.recordId := by
  obtain ⟨certificate, parsed, -, -, -, rfl⟩ := delivers_of_prepare h
  rfl

/-- The event of a call that ends by itself names the principal and says so, and it is missing only
when the certificate could not be read. -/
theorem event_of_prepare {error : IssuanceServiceError} {event : Option AuditEvent}
    (h : prepare policy principal request env = .ends error event) :
    (∃ eventType outcome reason, outcome ≠ .success ∧ event = some
        (issuanceEvent env eventType outcome principal request.commonName (some reason))) ∨
      event = none ∧ ∃ text, error = .certificateStore text := by
  rw [prepare] at h
  split_ifs at h with hrole
  · cases h
    exact Or.inl ⟨_, _, _, by decide, rfl⟩
  split at h
  · cases h
    exact Or.inl ⟨_, _, _, by decide, rfl⟩
  split at h
  · cases h
    exact Or.inl ⟨_, _, _, by decide, rfl⟩
  split at h
  · cases h
    exact Or.inl ⟨_, _, _, by decide, rfl⟩
  split at h
  · cases h
    exact Or.inr ⟨rfl, _, rfl⟩
  · cases h

/-- A call that ends by itself. -/
theorem issue_of_ends {error : IssuanceServiceError} {event : Option AuditEvent}
    (h : prepare policy principal request env = .ends error event) (state : IssuanceState) :
    (issue policy principal request env state).1 = .error error ∧
      (issue policy principal request env state).2.store = state.store ∧
      (issue policy principal request env state).2.audit.events =
        state.audit.events ++ event.toList := by
  rw [prepare] at h
  rw [issue]
  split_ifs at h ⊢ with hrole
  · cases h
    exact ⟨rfl, rfl, rfl⟩
  cases hvalid : validateRequest policy request with
  | error error' =>
    simp only [hvalid] at h ⊢
    cases h
    exact ⟨rfl, trivial, rfl⟩
  | ok valid =>
    simp only [hvalid] at h ⊢
    cases hrequest : certificateRequest request with
    | error reason =>
      simp only [hrequest] at h ⊢
      cases h
      exact ⟨rfl, trivial, rfl⟩
    | ok toIssue =>
      simp only [hrequest] at h ⊢
      cases hissue : CertificateIssuer.issue env.issuer toIssue with
      | error error' =>
        simp only [hissue] at h ⊢
        cases h
        exact ⟨rfl, trivial, rfl⟩
      | ok certificate =>
        simp only [hissue] at h ⊢
        cases hparse : env.parse certificate.der with
        | error error' =>
          simp only [hparse] at h ⊢
          cases h
          exact ⟨rfl, trivial, (List.append_nil _).symm⟩
        | ok parsed =>
          simp only [hparse] at h
          cases h

/-- A call that stores a record, whatever becomes of the file. -/
theorem issue_of_stores {certificatePem : String} {record : CertificateRecord}
    (h : prepare policy principal request env = .stores certificatePem record)
    (state : IssuanceState) {result : Except CertificateStoreError Uuid} {store : CertificateStore}
    (hinsert : state.store.insert record env.fault = (result, store)) :
    (issue policy principal request env state).2.store = store ∧
      match result with
      | .error e =>
        (issue policy principal request env state).1 =
            .error (.certificateStore (e.toString env.cause)) ∧
          (issue policy principal request env state).2.audit = state.audit
      | .ok _ =>
        (issue policy principal request env state).1 = .ok (issueResponse request certificatePem,
            issuanceAuditEvent principal request env.auditId) ∧
          (issue policy principal request env state).2.audit.events = state.audit.events ++
            [issuanceEvent env .certificateIssued .success principal request.commonName none] := by
  obtain ⟨certificate, parsed, ⟨hrole, hvalid, toIssue, hrequest, hissue⟩, hparse, rfl, rfl⟩ :=
    delivers_of_prepare h
  have hrole' : ¬ (!principal.hasRole "certificate:issue") = true := by simpa using hrole
  rw [issue, if_neg hrole']
  simp only [hvalid, hrequest, hissue, hparse, hinsert]
  cases result with
  | error e => exact ⟨rfl, rfl, rfl⟩
  | ok id => exact ⟨rfl, rfl, rfl⟩

end IssuanceService

end DaemonPki
