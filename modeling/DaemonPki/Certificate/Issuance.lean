import DaemonPki.Foundation.Checks
import DaemonPki.Foundation.IpAddr
import Mathlib.Logic.Basic

/-!
# The issuer of certificates

The checks of a certificate request and what is handed to the signer
(`daemon-pki-core/src/certificate/issuance.rs`). Key generation, the signature and the conversion
of a DNS name are those of another crate and are arguments; the errors of that crate are texts.

## Main definitions

* `DaemonPki.CertificateRequest`, `DaemonPki.CertificateParams`.
* `DaemonPki.CertificateIssuer.validateRequest`, `DaemonPki.CertificateIssuer.issue`.

## Main results

* `DaemonPki.CertificateIssuer.signedParams_of_issue`: what a certificate was signed from.
* `DaemonPki.CertificateIssuer.signedParams_eq_some_iff`: which requests reach the signer.
-/

namespace DaemonPki

open Foundation

/-- Source: `issuance.rs`, lines 10–17. -/
inductive IssuanceError
  | certificate (error : String)
  | policy (reason : String)
  deriving DecidableEq, Repr

/-- Source: `issuance.rs`, lines 10–17. -/
def IssuanceError.toString : IssuanceError → String
  | .certificate error => "certificate generation failed: " ++ error
  | .policy reason => "certificate request rejected: " ++ reason

/-- Source: `issuance.rs`, lines 19–26. -/
structure CertificateRequest where
  commonName : String
  dnsNames : List String
  ipAddresses : List IpAddr
  clientAuth : Bool
  serverAuth : Bool
  deriving DecidableEq, Repr

namespace CertificateRequest

/-- Source: `issuance.rs`, lines 29–37. -/
def new (commonName : String) : CertificateRequest where
  commonName := commonName
  dnsNames := []
  ipAddresses := []
  clientAuth := true
  serverAuth := true

/-- Source: `issuance.rs`, lines 39–42. -/
def withDnsName (request : CertificateRequest) (name : String) : CertificateRequest :=
  { request with dnsNames := request.dnsNames ++ [name] }

/-- Source: `issuance.rs`, lines 44–47. -/
def withIpAddress (request : CertificateRequest) (address : IpAddr) : CertificateRequest :=
  { request with ipAddresses := request.ipAddresses ++ [address] }

/-- Names that are added one after the other are there in order. -/
theorem foldl_withDnsName (request : CertificateRequest) (names : List String) :
    names.foldl withDnsName request = { request with dnsNames := request.dnsNames ++ names } := by
  induction names generalizing request with
  | nil => rw [List.foldl_nil, List.append_nil]
  | cons name names ih => rw [List.foldl_cons, ih, withDnsName, List.append_assoc]; rfl

/-- Addresses that are added one after the other are there in order. -/
theorem foldl_withIpAddress (request : CertificateRequest) (addresses : List IpAddr) :
    addresses.foldl withIpAddress request =
      { request with ipAddresses := request.ipAddresses ++ addresses } := by
  induction addresses generalizing request with
  | nil => rw [List.foldl_nil, List.append_nil]
  | cons address addresses ih => rw [List.foldl_cons, ih, withIpAddress, List.append_assoc]; rfl

end CertificateRequest

/-! ### The parameters of a certificate -/

/-- A subject alternative name. -/
inductive SanType
  | dnsName (name : String)
  | ipAddress (address : IpAddr)
  deriving DecidableEq, Repr

inductive KeyUsagePurpose
  | digitalSignature
  | keyEncipherment
  deriving DecidableEq, Repr

inductive ExtendedKeyUsagePurpose
  | serverAuth
  | clientAuth
  deriving DecidableEq, Repr

/-- A certificate as it is handed to the signer. -/
structure CertificateParams where
  commonName : Option String
  subjectAltNames : List SanType
  isCa : Bool
  keyUsages : List KeyUsagePurpose
  extendedKeyUsages : List ExtendedKeyUsagePurpose
  useAuthorityKeyIdentifierExtension : Bool
  deriving DecidableEq, Repr

/-- A signed certificate in its two encodings. -/
structure Certificate where
  pem : String
  der : List UInt8
  deriving DecidableEq, Repr

/-- What the other crate does in one issuance: the names that it takes for DNS names, and the
outcomes of the key generation and of the signer. -/
structure IssuerEnvironment where
  ia5String : String → Bool
  generateKey : Except String Unit
  signedBy : CertificateParams → Except String Certificate

namespace CertificateIssuer

/-- Source: `issuance.rs`, lines 109–144. -/
def validateRequest (request : CertificateRequest) : Except IssuanceError Unit :=
  if (Text.trim request.commonName.toList).isEmpty && request.dnsNames.isEmpty &&
      request.ipAddresses.isEmpty then
    .error (.policy "certificate must contain a subject identity")
  else if 253 < (Text.utf8 request.commonName.toList).length then
    .error (.policy "common name exceeds maximum length")
  else if 100 < request.dnsNames.length then
    .error (.policy "too many DNS subject alternative names")
  else if 100 < request.ipAddresses.length then
    .error (.policy "too many IP subject alternative names")
  else if !request.serverAuth && !request.clientAuth then
    .error (.policy "certificate must have at least one permitted extended key usage")
  else .ok ()

/-- The loop over the DNS names. Source: `issuance.rs`, lines 69–75. -/
def dnsSubjectAltNames (ia5String : String → Bool) :
    List String → Except IssuanceError (List SanType)
  | [] => .ok []
  | dnsName :: dnsNames =>
    if !ia5String dnsName then .error (.policy "invalid DNS subject alternative name")
    else
      match dnsSubjectAltNames ia5String dnsNames with
      | .error e => .error e
      | .ok sans => .ok (.dnsName dnsName :: sans)

/-- The checks and the parameters. Source: `issuance.rs`, lines 57–100. -/
def certificateParams (ia5String : String → Bool) (request : CertificateRequest) :
    Except IssuanceError CertificateParams :=
  match validateRequest request with
  | .error e => .error e
  | .ok () =>
    match dnsSubjectAltNames ia5String request.dnsNames with
    | .error e => .error e
    | .ok sans => .ok
      { commonName :=
          if (Text.trim request.commonName.toList).isEmpty then none else some request.commonName
        subjectAltNames := sans ++ request.ipAddresses.map .ipAddress
        isCa := false
        keyUsages := [.digitalSignature, .keyEncipherment]
        extendedKeyUsages :=
          (if request.serverAuth then [.serverAuth] else []) ++
            if request.clientAuth then [.clientAuth] else []
        useAuthorityKeyIdentifierExtension := true }

/-- Source: `issuance.rs`, lines 53–107. -/
def issue (env : IssuerEnvironment) (request : CertificateRequest) :
    Except IssuanceError Certificate :=
  match certificateParams env.ia5String request with
  | .error e => .error e
  | .ok params =>
    match env.generateKey with
    | .error e => .error (.certificate e)
    | .ok () =>
      match env.signedBy params with
      | .error e => .error (.certificate e)
      | .ok certificate => .ok certificate

/-- The parameters that `issue` hands to the signer, if it gets there. -/
def signedParams (env : IssuerEnvironment) (request : CertificateRequest) :
    Option CertificateParams :=
  match certificateParams env.ia5String request, env.generateKey with
  | .ok params, .ok () => some params
  | _, _ => none

/-- A certificate was signed from the parameters handed to the signer. -/
theorem signedParams_of_issue {env : IssuerEnvironment} {request : CertificateRequest}
    {certificate : Certificate} (h : issue env request = .ok certificate) :
    ∃ params, signedParams env request = some params ∧ env.signedBy params = .ok certificate := by
  rw [issue] at h
  rw [signedParams]
  cases hparams : certificateParams env.ia5String request with
  | error e =>
    rw [hparams] at h
    cases h
  | ok params =>
    rw [hparams] at h
    cases hkey : env.generateKey with
    | error e =>
      rw [hkey] at h
      cases h
    | ok key =>
      rw [hkey] at h
      refine ⟨params, rfl, ?_⟩
      cases hsigned : env.signedBy params with
      | error e =>
        simp only [hsigned] at h
        cases h
      | ok certificate' =>
        simp only [hsigned] at h
        cases h
        rfl

/-! ### Which requests are signed -/

variable {env : IssuerEnvironment} {ia5String : String → Bool} {request : CertificateRequest}
  {params : CertificateParams}

/-- What the issuer asks of a request. -/
structure Permits (request : CertificateRequest) : Prop where
  identity : (Text.trim request.commonName.toList).isEmpty = false ∨ request.dnsNames ≠ [] ∨
    request.ipAddresses ≠ []
  commonName : (Text.utf8 request.commonName.toList).length ≤ 253
  dnsNames : request.dnsNames.length ≤ 100
  ipAddresses : request.ipAddresses.length ≤ 100
  extendedKeyUsage : request.serverAuth = true ∨ request.clientAuth = true

theorem validateRequest_eq_ok_iff {u : Unit} :
    validateRequest request = .ok u ↔ Permits request := by
  simp only [validateRequest, ite_error_eq_ok_iff, Nat.not_lt, Bool.and_eq_true, not_and_or,
    or_assoc, Bool.not_eq_true', Bool.not_eq_false, List.isEmpty_iff]
  constructor
  · rintro ⟨hidentity, hcommonName, hdnsNames, hipAddresses, husage, -⟩
    exact
      { identity := hidentity.imp_left List.isEmpty_eq_false_iff.mpr
        commonName := hcommonName
        dnsNames := hdnsNames
        ipAddresses := hipAddresses
        extendedKeyUsage := husage }
  · intro h
    exact ⟨h.identity.imp_left List.isEmpty_eq_false_iff.mp, h.commonName, h.dnsNames,
      h.ipAddresses, h.extendedKeyUsage, trivial⟩

/-- The loop over the DNS names completes when the other crate takes them all. -/
theorem dnsSubjectAltNames_eq_ok_iff {names : List String} {sans : List SanType} :
    dnsSubjectAltNames ia5String names = .ok sans ↔
      (∀ name ∈ names, ia5String name = true) ∧ sans = names.map .dnsName := by
  induction names generalizing sans with
  | nil =>
    exact ⟨fun h => ⟨fun name hname => absurd hname List.not_mem_nil, (Except.ok.inj h).symm⟩,
      fun h => h.2 ▸ rfl⟩
  | cons name names ih =>
    rw [dnsSubjectAltNames, List.forall_mem_cons, List.map_cons]
    cases hname : ia5String name with
    | false => simp
    | true =>
      cases hrest : dnsSubjectAltNames ia5String names with
      | error e =>
        have hno : ¬ ∀ name ∈ names, ia5String name = true := fun hall => by
          have hok := ih.mpr ⟨hall, rfl⟩
          rw [hrest] at hok
          cases hok
        simp [hno]
      | ok rest =>
        obtain ⟨hall, rfl⟩ := ih.mp hrest
        simp only [Bool.not_true, Bool.false_eq_true, if_false, Except.ok.injEq]
        exact ⟨fun heq => ⟨⟨trivial, hall⟩, heq.symm⟩, fun h => h.2.symm⟩

/-- The parameters of the certificate for a request. -/
def paramsOf (request : CertificateRequest) : CertificateParams where
  commonName :=
    if (Text.trim request.commonName.toList).isEmpty then none else some request.commonName
  subjectAltNames := request.dnsNames.map .dnsName ++ request.ipAddresses.map .ipAddress
  isCa := false
  keyUsages := [.digitalSignature, .keyEncipherment]
  extendedKeyUsages :=
    (if request.serverAuth then [.serverAuth] else []) ++
      if request.clientAuth then [.clientAuth] else []
  useAuthorityKeyIdentifierExtension := true

theorem certificateParams_eq_ok_iff : certificateParams ia5String request = .ok params ↔
    Permits request ∧ (∀ name ∈ request.dnsNames, ia5String name = true) ∧
      params = paramsOf request := by
  rw [certificateParams]
  cases hvalid : validateRequest request with
  | error e =>
    have hno : ¬Permits request := fun h => by
      have hok : validateRequest request = .ok () := validateRequest_eq_ok_iff.mpr h
      rw [hok] at hvalid
      cases hvalid
    simp [hno]
  | ok u =>
    rw [and_iff_right (validateRequest_eq_ok_iff.mp hvalid)]
    cases hsans : dnsSubjectAltNames ia5String request.dnsNames with
    | error e =>
      have hno : ¬ ∀ name ∈ request.dnsNames, ia5String name = true := fun hall => by
        rw [dnsSubjectAltNames_eq_ok_iff.mpr ⟨hall, rfl⟩] at hsans
        cases hsans
      simp [hno]
    | ok sans =>
      obtain ⟨hall, rfl⟩ := dnsSubjectAltNames_eq_ok_iff.mp hsans
      rw [and_iff_right hall]
      exact ⟨fun h => (Except.ok.inj h).symm, fun h => h ▸ rfl⟩

/-- **Which requests reach the signer**, and with which parameters. -/
theorem signedParams_eq_some_iff : signedParams env request = some params ↔
    (Permits request ∧ (∀ name ∈ request.dnsNames, env.ia5String name = true) ∧
      params = paramsOf request) ∧ env.generateKey = .ok () := by
  rw [← certificateParams_eq_ok_iff, signedParams]
  cases certificateParams env.ia5String request <;> cases env.generateKey <;> simp

end CertificateIssuer

end DaemonPki
