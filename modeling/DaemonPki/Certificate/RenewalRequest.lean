import DaemonPki.Certificate.Issuance
import DaemonPki.Certificate.Renewal

/-!
# The request of a renewal

A work item carries the identity of the certificate to be renewed, and the request for its
replacement is built from that identity (`daemon-pki-core/src/certificate/lifecycle.rs`,
`RenewalWorkItem::certificate_request` and `RenewalExecutor::issue_replacement`). An identity may
lack a common name, which a request may not: the request then has the empty one. The issuer
treats every blank common name alike, so that nothing of the first issuance is lost on the way.

## Main definitions

* `DaemonPki.RenewalWorkItem.certificateRequest`, `DaemonPki.RenewalExecutor.issueReplacement`.
* `DaemonPki.CertificateIdentity.Describes`: the identity is that of a request.

## Main results

* `DaemonPki.RenewalWorkItem.reproduces`: the replacement is built like the certificate.
* `DaemonPki.RenewalExecutor.issueReplacement_of_describes`: the same of a whole renewal.
-/

namespace DaemonPki

open Foundation

/-- Source: `lifecycle.rs`, lines 68–71. -/
def RenewalWorkItem.markAttempt (workItem : RenewalWorkItem) : RenewalWorkItem :=
  { workItem with
    attempts :=
      if workItem.attempts = 4294967295 then workItem.attempts else workItem.attempts + 1 }

/-- Source: `lifecycle.rs`, lines 85–118. -/
def RenewalWorkItem.certificateRequest (workItem : RenewalWorkItem) : CertificateRequest :=
  let commonName := workItem.identity.commonName.getD ""
  let request := CertificateRequest.new commonName
  let request := workItem.identity.dnsNames.foldl CertificateRequest.withDnsName request
  let request := workItem.identity.ipAddresses.foldl CertificateRequest.withIpAddress request
  { request with
    clientAuth := workItem.identity.clientAuth
    serverAuth := workItem.identity.serverAuth }

/-- Issue the replacement for a work item, which has counted the attempt afterwards. Source:
`lifecycle.rs`, lines 124–152. -/
def RenewalExecutor.issueReplacement (env : IssuerEnvironment) (workItem : RenewalWorkItem) :
    Except IssuanceError Certificate × RenewalWorkItem :=
  if workItem.action ≠ .renew then
    (.error (.policy "renewal work item does not require certificate renewal"), workItem)
  else
    let workItem := workItem.markAttempt
    (CertificateIssuer.issue env workItem.certificateRequest, workItem)

/-- The identity is that of a certificate for the request. A blank common name may be left
out. -/
structure CertificateIdentity.Describes (identity : CertificateIdentity)
    (request : CertificateRequest) : Prop where
  commonName : identity.commonName = some request.commonName ∨
    (Text.trim request.commonName.toList).isEmpty = true ∧ identity.commonName = none
  dnsNames : identity.dnsNames = request.dnsNames
  ipAddresses : identity.ipAddresses = request.ipAddresses
  clientAuth : identity.clientAuth = request.clientAuth
  serverAuth : identity.serverAuth = request.serverAuth

variable {request : CertificateRequest} {workItem : RenewalWorkItem}

/-! ### Blank common names -/

namespace CertificateIssuer

variable {ia5String : String → Bool}

/-- A request with a blank common name is still permitted without it. -/
theorem Permits.withoutCommonName (h : Permits request)
    (hblank : (Text.trim request.commonName.toList).isEmpty = true) :
    Permits { request with commonName := "" } where
  identity := Or.inr (h.identity.resolve_left (by rw [hblank]; exact Bool.noConfusion))
  commonName := Nat.zero_le 253
  dnsNames := h.dnsNames
  ipAddresses := h.ipAddresses
  extendedKeyUsage := h.extendedKeyUsage

/-- The parameters of a permitted request are those of its names, whatever these are. -/
theorem certificateParams_of_permits (h : Permits request) :
    certificateParams ia5String request =
      (dnsSubjectAltNames ia5String request.dnsNames).map fun sans =>
        { paramsOf request with
          subjectAltNames := sans ++ request.ipAddresses.map .ipAddress } := by
  have hvalid : validateRequest request = .ok () := validateRequest_eq_ok_iff.mpr h
  rw [certificateParams, hvalid]
  cases dnsSubjectAltNames ia5String request.dnsNames <;> rfl

/-- The certificate for a request with a blank common name has the parameters that it has
without it. -/
theorem certificateParams_withoutCommonName (h : Permits request)
    (hblank : (Text.trim request.commonName.toList).isEmpty = true) :
    certificateParams ia5String { request with commonName := "" } =
      certificateParams ia5String request := by
  have hparams : paramsOf { request with commonName := "" } = paramsOf request := by
    rw [paramsOf, paramsOf, if_pos hblank]
    rfl
  rw [certificateParams_of_permits h, certificateParams_of_permits (h.withoutCommonName hblank),
    hparams]

/-- The issuer sees of a request only the parameters of the certificate. -/
theorem issue_congr {env : IssuerEnvironment} {request' : CertificateRequest}
    (h : certificateParams env.ia5String request = certificateParams env.ia5String request') :
    issue env request = issue env request' := by
  rw [issue, issue, h]

end CertificateIssuer

/-! ### Work items -/

namespace RenewalWorkItem

open CertificateIssuer

/-- The two loops of the builder restore the lists of the identity. -/
theorem certificateRequest_eq (workItem : RenewalWorkItem) :
    workItem.certificateRequest =
      { commonName := workItem.identity.commonName.getD ""
        dnsNames := workItem.identity.dnsNames
        ipAddresses := workItem.identity.ipAddresses
        clientAuth := workItem.identity.clientAuth
        serverAuth := workItem.identity.serverAuth } := by
  rw [certificateRequest, CertificateRequest.foldl_withDnsName,
    CertificateRequest.foldl_withIpAddress]
  simp only [CertificateRequest.new, List.nil_append]

/-- The request of a work item is the first request, unless that had a blank common name, which
may have been lost. -/
theorem certificateRequest_of_describes (h : workItem.identity.Describes request) :
    workItem.certificateRequest = request ∨
      (Text.trim request.commonName.toList).isEmpty = true ∧
        workItem.certificateRequest = { request with commonName := "" } := by
  rw [certificateRequest_eq, h.dnsNames, h.ipAddresses, h.clientAuth, h.serverAuth]
  rcases h.commonName with hsome | ⟨hblank, hnone⟩
  · exact Or.inl (by rw [hsome, Option.getD_some])
  · exact Or.inr ⟨hblank, by rw [hnone, Option.getD_none]⟩

theorem permits_certificateRequest (h : workItem.identity.Describes request)
    (hpermits : Permits request) : Permits workItem.certificateRequest := by
  rcases certificateRequest_of_describes h with hrequest | ⟨hblank, hrequest⟩
  · rwa [hrequest]
  · rw [hrequest]
    exact hpermits.withoutCommonName hblank

theorem certificateParams_certificateRequest {ia5String : String → Bool}
    (h : workItem.identity.Describes request) (hpermits : Permits request) :
    certificateParams ia5String workItem.certificateRequest =
      certificateParams ia5String request := by
  rcases certificateRequest_of_describes h with hrequest | ⟨hblank, hrequest⟩
  · rw [hrequest]
  · rw [hrequest, certificateParams_withoutCommonName hpermits hblank]

/-- A work item carries the identity of its certificate. -/
theorem identity_of_new {clock : QueueClock} {certificate : CertificateMetadata}
    (h : RenewalWorkItem.new clock certificate = some workItem) :
    workItem.identity = certificate.identity := by
  rw [RenewalWorkItem.new] at h
  split at h
  · cases h
  · exact Option.some.inj h ▸ rfl

@[simp] theorem identity_markAttempt (workItem : RenewalWorkItem) :
    workItem.markAttempt.identity = workItem.identity := rfl

/-- Attempts leave the identity alone. -/
theorem identity_iterate_markAttempt (attempts : ℕ) (workItem : RenewalWorkItem) :
    (markAttempt^[attempts] workItem).identity = workItem.identity := by
  induction attempts generalizing workItem with
  | zero => rfl
  | succ attempts ih => rw [Function.iterate_succ_apply, ih, identity_markAttempt]

/-- **A renewal reproduces the issuance.** Let a request be one that the issuer accepts, and let
a certificate have its identity. However often its work item was attempted, the issuer accepts
the request of the work item as well, and hands the same to the signer as for the first one:
subject, alternative names, key usages and authority settings. Where it fails, it does so with the
same error. -/
theorem reproduces {clock : QueueClock} {certificate : CertificateMetadata}
    (hvalid : validateRequest request = .ok ())
    (hidentity : certificate.identity.Describes request)
    (hnew : RenewalWorkItem.new clock certificate = some workItem) (attempts : ℕ) :
    validateRequest (markAttempt^[attempts] workItem).certificateRequest = .ok () ∧
      (∀ ia5String, certificateParams ia5String
          (markAttempt^[attempts] workItem).certificateRequest =
        certificateParams ia5String request) ∧
      ∀ env, issue env (markAttempt^[attempts] workItem).certificateRequest =
        issue env request := by
  have hpermits : Permits request := validateRequest_eq_ok_iff.mp hvalid
  have hdescribes : (markAttempt^[attempts] workItem).identity.Describes request := by
    rwa [identity_iterate_markAttempt, identity_of_new hnew]
  refine ⟨validateRequest_eq_ok_iff.mpr (permits_certificateRequest hdescribes hpermits),
    fun ia5String => certificateParams_certificateRequest hdescribes hpermits, fun env => ?_⟩
  exact issue_congr (certificateParams_certificateRequest hdescribes hpermits)

/-- An expiring certificate without a common name, for a request with a blank one. -/
def unnamedCertificate : CertificateMetadata :=
  { CertificateMetadata.new 1 0 "01" "intermediate" "" ⟨none, ["api.internal"], [], true, true⟩ 0
      7776000000000000 with
    state := .expiring }

theorem reproduces_unnamedCertificate :
    certificateParams (fun _ => true)
        (⟨1, .renew, 0, 0, ⟨none, ["api.internal"], [], true, true⟩⟩ :
          RenewalWorkItem).certificateRequest =
      certificateParams (fun _ => true) ⟨"  ", ["api.internal"], [], true, true⟩ :=
  have hnew : RenewalWorkItem.new (.constant 0) unnamedCertificate =
      some ⟨1, .renew, 0, 0, ⟨none, ["api.internal"], [], true, true⟩⟩ := rfl
  (reproduces (by decide) ⟨Or.inr ⟨by decide, rfl⟩, rfl, rfl, rfl, rfl⟩ hnew 0).2.1 _

end RenewalWorkItem

/-! ### Replacements -/

/-- **What a renewal issues.** The replacement for a work item that asks for a renewal is issued
as the certificate was, or refused as it was. The work item counts one attempt more, and is the
same otherwise. -/
theorem RenewalExecutor.issueReplacement_of_describes {env : IssuerEnvironment}
    (haction : workItem.action = .renew) (hidentity : workItem.identity.Describes request)
    (hvalid : CertificateIssuer.validateRequest request = .ok ()) :
    issueReplacement env workItem =
      (CertificateIssuer.issue env request, workItem.markAttempt) := by
  have hpermits := CertificateIssuer.validateRequest_eq_ok_iff.mp hvalid
  have hdescribes : workItem.markAttempt.identity.Describes request := by
    rwa [RenewalWorkItem.identity_markAttempt]
  rw [issueReplacement, if_neg (not_not_intro haction)]
  refine Prod.ext (CertificateIssuer.issue_congr ?_) rfl
  exact RenewalWorkItem.certificateParams_certificateRequest hdescribes hpermits

end DaemonPki
