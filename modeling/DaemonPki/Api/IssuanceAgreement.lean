import DaemonPki.Api.IssuedRecords
import Mathlib.Data.List.Forall2

/-!
# Requests, certificates and records

A request to the issuance service (`daemon-pki-api/src/issuance.rs`) is checked twice, by the
service under its policy and by the issuer (`daemon-pki-core/src/certificate/issuance.rs`) under
limits of its own, and it is copied three times: into the parameters of the certificate, into the
record of the store and into the response. The two checks together accept what both accept, and the
three copies agree. What neither check asks is that a DNS name is more than blank.

## Main definitions

* `DaemonPki.IssuanceService.Addresses`: the addresses that texts stand for.
* `DaemonPki.IssuanceService.Issuable`: what is asked of a request altogether.
* `DaemonPki.IssuanceService.Agreement`: the certificate, the record and the response are of one
  request.
* `DaemonPki.CertificateParams.RealNames`: the alternative names are there and none is blank.

## Main results

* `DaemonPki.IssuanceService.reachesSigner_iff`: which requests reach the signer.
* `DaemonPki.IssuanceService.agreement_of_issue`: what a successful issuance leaves.
* `DaemonPki.IssuanceService.realNames_iff`: which certificates carry real names.
-/

namespace DaemonPki

open Foundation

namespace IssuanceService

variable {policy : IssuancePolicy} {principal : AuthenticatedPrincipal}
  {request : IssueCertificateRequest} {env : IssuanceEnvironment} {issuer : IssuerEnvironment}
  {state state' : IssuanceState} {addresses addresses' : List IpAddr} {params : CertificateParams}

/-! ### The request to the issuer -/

/-- The addresses that the texts stand for, in order. -/
def Addresses (texts : List String) (addresses : List IpAddr) : Prop :=
  List.Forall₂ (fun text address => IpAddr.parse text = some address) texts addresses

theorem exists_addresses_iff {texts : List String} : (∃ addresses, Addresses texts addresses) ↔
    ∀ text ∈ texts, ∃ address, IpAddr.parse text = some address := by
  induction texts with
  | nil => exact ⟨fun _ text htext => absurd htext List.not_mem_nil, fun _ => ⟨[], .nil⟩⟩
  | cons text texts ih =>
    rw [List.forall_mem_cons, ← ih]
    constructor
    · rintro ⟨_, hall⟩
      cases hall with
      | cons haddress hrest => exact ⟨⟨_, haddress⟩, _, hrest⟩
    · rintro ⟨⟨address, haddress⟩, addresses, hrest⟩
      exact ⟨address :: addresses, .cons haddress hrest⟩

theorem withIpAddresses_cons (named : CertificateRequest) (text : String) (texts : List String) :
    withIpAddresses named (text :: texts) =
      match IpAddr.parse text with
      | none => .error ("invalid IP address: " ++ text)
      | some address => withIpAddresses (named.withIpAddress address) texts := (rfl)

/-- The loop over the addresses completes when all of them can be parsed. -/
theorem withIpAddresses_eq_ok_iff {named built : CertificateRequest} {texts : List String} :
    withIpAddresses named texts = .ok built ↔ ∃ addresses, Addresses texts addresses ∧
      built = { named with ipAddresses := named.ipAddresses ++ addresses } := by
  induction texts generalizing named with
  | nil =>
    constructor
    · intro h
      exact ⟨[], .nil, by rw [← Except.ok.inj h, List.append_nil]⟩
    · rintro ⟨addresses, hall, rfl⟩
      cases hall
      rw [List.append_nil]
      rfl
  | cons text texts ih =>
    rw [withIpAddresses_cons]
    cases haddress : IpAddr.parse text with
    | none =>
      refine iff_of_false (fun h => by cases h) ?_
      rintro ⟨_, hall, -⟩
      cases hall with
      | cons hsome _ =>
        rw [haddress] at hsome
        cases hsome
    | some address =>
      simp only [ih, CertificateRequest.withIpAddress, List.append_assoc]
      constructor
      · rintro ⟨addresses, hall, rfl⟩
        exact ⟨address :: addresses, .cons haddress hall, rfl⟩
      · rintro ⟨_, hall, rfl⟩
        cases hall with
        | cons hsome hrest =>
          obtain rfl := Option.some.inj (haddress.symm.trans hsome)
          exact ⟨_, hrest, rfl⟩

/-- The request to the issuer, with these addresses. -/
def toIssue (request : IssueCertificateRequest) (addresses : List IpAddr) : CertificateRequest where
  commonName := request.commonName
  dnsNames := request.dnsNames
  ipAddresses := addresses
  clientAuth := request.clientAuth
  serverAuth := request.serverAuth

/-- Everything that is requested reaches the issuer, in the order of the request. -/
theorem certificateRequest_eq_ok_iff {built : CertificateRequest} :
    certificateRequest request = .ok built ↔
      ∃ addresses, Addresses request.ipAddresses addresses ∧ built = toIssue request addresses := by
  rw [certificateRequest]
  constructor
  · intro h
    cases hnamed : withIpAddresses (request.dnsNames.foldl CertificateRequest.withDnsName
        (.new request.commonName)) request.ipAddresses with
    | error reason =>
      simp only [hnamed] at h
      cases h
    | ok named =>
      simp only [hnamed] at h
      rw [CertificateRequest.foldl_withDnsName] at hnamed
      obtain ⟨addresses, hall, rfl⟩ := withIpAddresses_eq_ok_iff.mp hnamed
      exact ⟨addresses, hall, (Except.ok.inj h).symm⟩
  · rintro ⟨addresses, hall, rfl⟩
    rw [CertificateRequest.foldl_withDnsName,
      withIpAddresses_eq_ok_iff.mpr ⟨addresses, hall, rfl⟩]
    rfl

/-! ### The two checks -/

/-- What the service asks of a request under its policy. -/
structure Permits (policy : IssuancePolicy) (request : IssueCertificateRequest) : Prop where
  commonName : (Text.trim request.commonName.toList).isEmpty = false
  commonNameLength : (Text.utf8 request.commonName.toList).length ≤ policy.maxCommonNameLength
  dnsNames : request.dnsNames.length ≤ policy.maxDnsNames
  ipAddresses : request.ipAddresses.length ≤ policy.maxIpAddresses
  identity : request.dnsNames ≠ [] ∨ request.ipAddresses ≠ []
  extendedKeyUsage : request.clientAuth = true ∨ request.serverAuth = true
  serverAuth : policy.requireServerAuth = true → request.serverAuth = true
  clientAuth : policy.requireClientAuth = true → request.clientAuth = true

theorem permits_of_validateRequest {u : Unit} (h : validateRequest policy request = .ok u) :
    Permits policy request := by
  simp only [validateRequest, ite_error_eq_ok_iff, Nat.not_lt, Bool.and_eq_true, not_and_or,
    Bool.not_eq_true', Bool.not_eq_false, List.isEmpty_iff] at h
  obtain ⟨hname, hlength, hdnsNames, hipAddresses, hidentity, husage, hserver, hclient, -⟩ := h
  exact
    { commonName := List.isEmpty_eq_false_iff.mpr hname
      commonNameLength := hlength
      dnsNames := hdnsNames
      ipAddresses := hipAddresses
      identity := hidentity
      extendedKeyUsage := husage
      serverAuth := fun hrequired => hserver.resolve_left (not_not_intro hrequired)
      clientAuth := fun hrequired => hclient.resolve_left (not_not_intro hrequired) }

/-- The limits of the issuer, which every request has to keep whatever the policy. -/
structure WithinLimits (request : IssueCertificateRequest) : Prop where
  commonName : (Text.utf8 request.commonName.toList).length ≤ 253
  dnsNames : request.dnsNames.length ≤ 100
  ipAddresses : request.ipAddresses.length ≤ 100

/-- Of a request that the service accepts, the issuer checks only the limits. -/
theorem permits_toIssue_iff (h : Permits policy request)
    (haddresses : Addresses request.ipAddresses addresses) :
    CertificateIssuer.Permits (toIssue request addresses) ↔ WithinLimits request := by
  have hlength := haddresses.length_eq
  constructor
  · intro hpermits
    exact ⟨hpermits.commonName, hpermits.dnsNames, hlength.trans_le hpermits.ipAddresses⟩
  · intro hlimits
    exact
      { identity := Or.inl h.commonName
        commonName := hlimits.commonName
        dnsNames := hlimits.dnsNames
        ipAddresses := hlength.symm.trans_le hlimits.ipAddresses
        extendedKeyUsage := h.extendedKeyUsage.symm }

/-- What a call hands to the signer, if it gets there. -/
def toSign (policy : IssuancePolicy) (principal : AuthenticatedPrincipal)
    (request : IssueCertificateRequest) (issuer : IssuerEnvironment) : Option CertificateParams :=
  if !principal.hasRole "certificate:issue" then none
  else
    match validateRequest policy request, certificateRequest request with
    | .ok (), .ok toIssue => CertificateIssuer.signedParams issuer toIssue
    | _, _ => none

theorem signed_issue (policy : IssuancePolicy) (principal : AuthenticatedPrincipal)
    (request : IssueCertificateRequest) (env : IssuanceEnvironment) (state : IssuanceState) :
    (issue policy principal request env state).2.signed =
      state.signed ++ (toSign policy principal request env.issuer).toList := by
  rw [issue, toSign]
  split_ifs
  · exact (List.append_nil _).symm
  cases validateRequest policy request with
  | error error => exact (List.append_nil _).symm
  | ok valid =>
    cases certificateRequest request with
    | error reason => exact (List.append_nil _).symm
    | ok built =>
      cases hissue : CertificateIssuer.issue env.issuer built with
      | error error => simp only [hissue]
      | ok certificate =>
        simp only [hissue]
        cases hparse : env.parse certificate.der with
        | error error => rfl
        | ok parsed =>
          simp only []
          split <;> rfl

theorem toSign_eq_some_iff : toSign policy principal request issuer = some params ↔
    principal.hasRole "certificate:issue" = true ∧ validateRequest policy request = .ok () ∧
      ∃ addresses, Addresses request.ipAddresses addresses ∧
        CertificateIssuer.signedParams issuer (toIssue request addresses) = some params := by
  rw [toSign]
  cases hrole : principal.hasRole "certificate:issue" with
  | false => simp
  | true =>
    cases hvalid : validateRequest policy request with
    | error error => simp
    | ok valid =>
      cases hrequest : certificateRequest request with
      | error reason =>
        have hno : ¬ ∃ addresses, Addresses request.ipAddresses addresses := by
          rintro ⟨addresses, hall⟩
          rw [certificateRequest_eq_ok_iff.mpr ⟨addresses, hall, rfl⟩] at hrequest
          cases hrequest
        simp only [Bool.not_true, Bool.false_eq_true, if_false, reduceCtorEq, true_and, false_iff]
        exact fun ⟨addresses, hall, _⟩ => hno ⟨addresses, hall⟩
      | ok built =>
        obtain ⟨addresses, hall, rfl⟩ := certificateRequest_eq_ok_iff.mp hrequest
        simp only [Bool.not_true, Bool.false_eq_true, if_false, true_and]
        refine ⟨fun h => ⟨addresses, hall, h⟩, ?_⟩
        rintro ⟨addresses', hall', h⟩
        have hsame := certificateRequest_eq_ok_iff.mpr ⟨addresses', hall', rfl⟩
        rw [hrequest] at hsame
        rw [Except.ok.inj hsame]
        exact h

/-! ### Which requests reach the signer -/

/-- What is asked of a request altogether: by the service under its policy, by the parser of
addresses, by the issuer, and by the conversion of DNS names. -/
structure Issuable (policy : IssuancePolicy) (request : IssueCertificateRequest)
    (issuer : IssuerEnvironment) : Prop where
  valid : validateRequest policy request = .ok ()
  addresses : ∀ text ∈ request.ipAddresses, ∃ address, IpAddr.parse text = some address
  limits : WithinLimits request
  ia5String : ∀ name ∈ request.dnsNames, issuer.ia5String name = true

/-- The call hands a certificate to the signer. -/
def ReachesSigner (policy : IssuancePolicy) (principal : AuthenticatedPrincipal)
    (request : IssueCertificateRequest) (env : IssuanceEnvironment) (state : IssuanceState) :
    Prop :=
  ∃ params, (issue policy principal request env state).2.signed = state.signed ++ [params]

theorem reachesSigner_iff_toSign : ReachesSigner policy principal request env state ↔
    ∃ params, toSign policy principal request env.issuer = some params := by
  simp only [ReachesSigner, signed_issue, List.append_cancel_left_eq]
  cases toSign policy principal request env.issuer <;> simp

theorem exists_toSign_iff (hrole : principal.hasRole "certificate:issue" = true)
    (hkey : issuer.generateKey = .ok ()) :
    (∃ params, toSign policy principal request issuer = some params) ↔
      Issuable policy request issuer := by
  simp only [toSign_eq_some_iff, CertificateIssuer.signedParams_eq_some_iff, hrole, hkey]
  constructor
  · rintro ⟨params, -, hvalid, addresses, hall, ⟨hpermits, hia5, -⟩, -⟩
    have hservice := permits_of_validateRequest hvalid
    exact ⟨hvalid, exists_addresses_iff.mp ⟨addresses, hall⟩,
      (permits_toIssue_iff hservice hall).mp hpermits, hia5⟩
  · intro h
    obtain ⟨addresses, hall⟩ := exists_addresses_iff.mpr h.addresses
    have hservice := permits_of_validateRequest h.valid
    exact ⟨_, trivial, h.valid, addresses, hall,
      ⟨(permits_toIssue_iff hservice hall).mpr h.limits, h.ia5String, rfl⟩, trivial⟩

/-- A certificate that the issuer delivers was handed to the signer. -/
theorem toSign_of_delivers {certificate : Certificate}
    (h : Delivers policy principal request issuer certificate) :
    ∃ params, toSign policy principal request issuer = some params ∧
      issuer.signedBy params = .ok certificate := by
  obtain ⟨hrole, hvalid, built, hbuilt, hissue⟩ := h
  obtain ⟨params, hparams, hsigned⟩ := CertificateIssuer.signedParams_of_issue hissue
  refine ⟨params, ?_, hsigned⟩
  rw [toSign, hrole, hvalid, hbuilt]
  exact hparams

/-- A call to which the issuer delivers nothing returns an error and stores nothing. -/
theorem error_of_not_delivers (state : IssuanceState)
    (hnot : ∀ certificate, ¬Delivers policy principal request env.issuer certificate) :
    (∃ error, (issue policy principal request env state).1 = .error error) ∧
      (issue policy principal request env state).2.store = state.store := by
  have hends := issue_ends policy principal request env state
  generalize (issue policy principal request env state).1 = result at hends ⊢
  generalize (issue policy principal request env state).2 = after at hends ⊢
  cases hends with
  | refused _ => exact ⟨⟨_, rfl⟩, rfl⟩
  | failed _ => exact ⟨⟨_, rfl⟩, rfl⟩
  | unreadable hdelivers _ => exact absurd hdelivers (hnot _)
  | unstored hdelivers _ _ => exact absurd hdelivers (hnot _)
  | issued hdelivers _ _ => exact absurd hdelivers (hnot _)

/-- A call that has nothing to sign returns an error, stores nothing and signs nothing. -/
theorem error_of_toSign_eq_none (state : IssuanceState)
    (hnone : toSign policy principal request env.issuer = none) :
    (∃ error, (issue policy principal request env state).1 = .error error) ∧
      (issue policy principal request env state).2.store = state.store ∧
      (issue policy principal request env state).2.signed = state.signed := by
  have hundelivered : ∀ certificate,
      ¬Delivers policy principal request env.issuer certificate := by
    intro certificate h
    obtain ⟨params, hparams, -⟩ := toSign_of_delivers h
    rw [hnone] at hparams
    cases hparams
  have hsigned := signed_issue policy principal request env state
  rw [hnone, Option.toList_none, List.append_nil] at hsigned
  obtain ⟨herror, hstore⟩ := error_of_not_delivers state hundelivered
  exact ⟨herror, hstore, hsigned⟩

/-- No limit of the policy is above that of the default policy. -/
def WithinDefault (policy : IssuancePolicy) : Prop :=
  policy.maxDnsNames ≤ IssuancePolicy.default.maxDnsNames ∧
    policy.maxIpAddresses ≤ IssuancePolicy.default.maxIpAddresses ∧
    policy.maxCommonNameLength ≤ IssuancePolicy.default.maxCommonNameLength

/-- Under such a policy the issuer rejects nothing that the service accepts. -/
theorem validateRequest_of_withinDefault (hdefault : WithinDefault policy)
    {built : CertificateRequest} (hvalid : validateRequest policy request = .ok ())
    (hbuilt : certificateRequest request = .ok built) :
    CertificateIssuer.validateRequest built = .ok () := by
  obtain ⟨hdnsNames, hipAddresses, hcommonName⟩ := hdefault
  obtain ⟨addresses, hall, rfl⟩ := certificateRequest_eq_ok_iff.mp hbuilt
  have hservice := permits_of_validateRequest hvalid
  have hlimits : WithinLimits request :=
    { commonName := hservice.commonNameLength.trans hcommonName
      dnsNames := hservice.dnsNames.trans hdnsNames
      ipAddresses := hservice.ipAddresses.trans hipAddresses }
  exact CertificateIssuer.validateRequest_eq_ok_iff.mpr
    ((permits_toIssue_iff hservice hall).mpr hlimits)

/-- **The two checks fit together.** When keys can be generated, the requests of an authorized
principal that reach the signer are those that both checks accept, whose addresses can be parsed
and whose names can be converted. Every other call returns an error, stores nothing and signs
nothing. Under a policy within the default one, the issuer rejects no request that the service
accepts. -/
theorem reachesSigner_iff (hrole : principal.hasRole "certificate:issue" = true)
    (hkey : env.issuer.generateKey = .ok ()) :
    (ReachesSigner policy principal request env state ↔ Issuable policy request env.issuer) ∧
      (¬Issuable policy request env.issuer →
        (∃ error, (issue policy principal request env state).1 = .error error) ∧
          (issue policy principal request env state).2.store = state.store ∧
          (issue policy principal request env state).2.signed = state.signed) ∧
      (WithinDefault policy → ∀ built, validateRequest policy request = .ok () →
        certificateRequest request = .ok built →
          CertificateIssuer.validateRequest built = .ok ()) := by
  have hreaches : (∃ params, toSign policy principal request env.issuer = some params) ↔
      Issuable policy request env.issuer := exists_toSign_iff hrole hkey
  refine ⟨reachesSigner_iff_toSign.trans hreaches, fun hnot => ?_, ?_⟩
  · have hnone : toSign policy principal request env.issuer = none :=
      Option.eq_none_iff_forall_ne_some.mpr fun params hparams => hnot (hreaches.mp ⟨_, hparams⟩)
    exact error_of_toSign_eq_none state hnone
  · intro hdefault built hvalid hbuilt
    exact validateRequest_of_withinDefault hdefault hvalid hbuilt

theorem reachesSigner_iff_sampleRequest :
    ReachesSigner .default samplePrincipal sampleRequest (sampleEnvironment none)
      ⟨⟨∅, none⟩, ⟨[]⟩, []⟩ := by
  refine (reachesSigner_iff (by decide) rfl).1.mpr ⟨by decide, ?_, ⟨by decide, by decide,
    by decide⟩, fun _ _ => rfl⟩
  intro text htext
  exact absurd htext List.not_mem_nil

/-! ### What a successful issuance leaves -/

/-- What a call that returns `Ok` has done. -/
theorem exists_of_issue_ok {response : IssueCertificateResponse} {audit : IssuanceAuditEvent}
    (hok : issue policy principal request env state = (.ok (response, audit), state')) :
    ∃ addresses certificate parsed, Addresses request.ipAddresses addresses ∧
      Permits policy request ∧
      state'.signed =
        state.signed ++ [CertificateIssuer.paramsOf (toIssue request addresses)] ∧
      env.issuer.signedBy (CertificateIssuer.paramsOf (toIssue request addresses)) =
        .ok certificate ∧
      env.parse certificate.der = .ok parsed ∧
      response = issueResponse request certificate.pem ∧
      state'.store.records = state.store.records.insertRecord (HttpApi.issuedRecord request
        env.recordId env.issuedAt (serialText parsed.serial) certificate.pem parsed.notAfter) := by
  have hends := issue_ends policy principal request env state
  have hsigned := signed_issue policy principal request env state
  rw [hok] at hends hsigned
  cases hends with
  | @issued certificate parsed id store signed hdelivers hparse hinsert =>
    obtain ⟨params, hparams, hsignedBy⟩ := toSign_of_delivers hdelivers
    obtain ⟨-, hvalid, addresses, hall, hissuer⟩ := toSign_eq_some_iff.mp hparams
    obtain ⟨⟨-, -, rfl⟩, -⟩ := CertificateIssuer.signedParams_eq_some_iff.mp hissuer
    rw [hparams] at hsigned
    exact ⟨addresses, certificate, parsed, hall, permits_of_validateRequest hvalid, hsigned,
      hsignedBy, hparse, rfl, CertificateStore.records_of_insert hinsert⟩

/-- The parameters of a certificate, its record and the response are of one request: the signed
certificate has the encoding `pem` and was parsed as `parsed`, and the addresses of the request
are `addresses`. -/
structure Agreement (request : IssueCertificateRequest) (addresses : List IpAddr) (pem : String)
    (parsed : X509Certificate) (params : CertificateParams) (record : CertificateRecord)
    (response : IssueCertificateResponse) : Prop where
  params_commonName : params.commonName = some request.commonName
  params_subjectAltNames : params.subjectAltNames =
    request.dnsNames.map .dnsName ++ addresses.map .ipAddress
  params_extendedKeyUsages : params.extendedKeyUsages =
    (if request.serverAuth then [.serverAuth] else []) ++
      if request.clientAuth then [.clientAuth] else []
  params_isCa : params.isCa = false
  record_revoked : record.revoked = false
  record_serialNumber : ∃ bytes, hexToBytes record.serialNumber = .returned (some bytes) ∧
    ofBytesBe bytes = parsed.serial
  record_notAfter : record.notAfter = some parsed.notAfter
  commonName : record.commonName = request.commonName ∧ response.commonName = request.commonName
  dnsNames : record.dnsNames = request.dnsNames ∧ response.dnsNames = request.dnsNames
  ipAddresses : record.ipAddresses = request.ipAddresses ∧
    response.ipAddresses = request.ipAddresses
  clientAuth : record.clientAuth = request.clientAuth ∧ response.clientAuth = request.clientAuth
  serverAuth : record.serverAuth = request.serverAuth ∧ response.serverAuth = request.serverAuth
  certificatePem : record.certificatePem = pem ∧ response.certificatePem = pem

/-- **The certificate, the record and the response agree.** A call that returns `Ok` has handed
one certificate to the signer and has one new record in the store, under the identifier that it
drew; they and the response are of the request, and every other record is as it was. -/
theorem agreement_of_issue {response : IssueCertificateResponse} {audit : IssuanceAuditEvent}
    (hfresh : state.store.records.lookup env.recordId = none)
    (hok : issue policy principal request env state = (.ok (response, audit), state')) :
    ∃ addresses certificate parsed params record,
      Addresses request.ipAddresses addresses ∧
      state'.signed = state.signed ++ [params] ∧
      env.issuer.signedBy params = .ok certificate ∧ env.parse certificate.der = .ok parsed ∧
      Agreement request addresses certificate.pem parsed params record response ∧
      state.store.records.lookup record.id = none ∧
      state'.store.records.lookup record.id = some record ∧
      ∀ id, id ≠ record.id → state'.store.records.lookup id = state.store.records.lookup id := by
  obtain ⟨addresses, certificate, parsed, hall, hpermits, hsigned, hsignedBy, hparse, rfl,
    hrecords⟩ := exists_of_issue_ok hok
  refine ⟨addresses, certificate, parsed, _, HttpApi.issuedRecord request env.recordId
    env.issuedAt (serialText parsed.serial) certificate.pem parsed.notAfter, hall, hsigned,
    hsignedBy, hparse, ?_, hfresh, ?_, ?_⟩
  · exact
      { params_commonName := if_neg (Bool.eq_false_iff.mp hpermits.commonName)
        params_subjectAltNames := rfl
        params_extendedKeyUsages := rfl
        params_isCa := rfl
        record_revoked := rfl
        record_serialNumber := ⟨_, hexToBytes_serialText _, ofBytesBe_toBytesBe _⟩
        record_notAfter := rfl
        commonName := ⟨rfl, rfl⟩
        dnsNames := ⟨rfl, rfl⟩
        ipAddresses := ⟨rfl, rfl⟩
        clientAuth := ⟨rfl, rfl⟩
        serverAuth := ⟨rfl, rfl⟩
        certificatePem := ⟨rfl, rfl⟩ }
  · rw [hrecords]
    exact Finmap.lookup_insert _
  · intro id hid
    rw [hrecords]
    exact Finmap.lookup_insert_of_ne _ hid

/-- The state that the issuance of the sample request leaves. -/
def sampleIssued : IssuanceState :=
  (issue .default samplePrincipal sampleRequest (sampleEnvironment none)
    ⟨⟨∅, none⟩, ⟨[]⟩, []⟩).2

theorem issue_sampleRequest : issue .default samplePrincipal sampleRequest (sampleEnvironment none)
      ⟨⟨∅, none⟩, ⟨[]⟩, []⟩ =
    (.ok (issueResponse sampleRequest "", issuanceAuditEvent samplePrincipal sampleRequest 3),
      sampleIssued) := rfl

theorem agreement_of_issue_sampleRequest : ∃ params record,
    Agreement sampleRequest [] "" ⟨10, 0⟩ params record (issueResponse sampleRequest "") ∧
      sampleIssued.signed = [params] ∧
      sampleIssued.store.records.lookup record.id = some record := by
  have hfresh : (∅ : Records).lookup (sampleEnvironment none).recordId = none :=
    Finmap.lookup_empty _
  obtain ⟨addresses, certificate, parsed, params, record, hall, hsigned, hsignedBy, hparse,
    hagree, -, hrecord, -⟩ := agreement_of_issue hfresh issue_sampleRequest
  obtain rfl := List.forall₂_nil_left_iff.mp hall
  cases hsignedBy
  cases hparse
  exact ⟨params, record, hagree, hsigned, hrecord⟩

/-! ### Blank names -/

/-- The text is empty or white space. -/
def Blank (text : String) : Prop := (Text.trim text.toList).isEmpty = true

instance (text : String) : Decidable (Blank text) := inferInstanceAs (Decidable (_ = true))

/-- Among the alternative names are an address or a name that is not blank, and no name is
blank. -/
structure RealNames (params : CertificateParams) : Prop where
  exists_name : (∃ address, SanType.ipAddress address ∈ params.subjectAltNames) ∨
    ∃ name, SanType.dnsName name ∈ params.subjectAltNames ∧ ¬Blank name
  not_blank : ∀ name, SanType.dnsName name ∈ params.subjectAltNames → ¬Blank name

theorem mem_subjectAltNames_dnsName {name : String} :
    SanType.dnsName name ∈
        (CertificateIssuer.paramsOf (toIssue request addresses)).subjectAltNames ↔
      name ∈ request.dnsNames := by
  simp [CertificateIssuer.paramsOf, toIssue]

theorem mem_subjectAltNames_ipAddress {address : IpAddr} :
    SanType.ipAddress address ∈
        (CertificateIssuer.paramsOf (toIssue request addresses)).subjectAltNames ↔
      address ∈ addresses := by
  simp [CertificateIssuer.paramsOf, toIssue]

/-- **Which certificates carry real names**: those issued for a request without a blank DNS
name. -/
theorem realNames_iff {response : IssueCertificateResponse} {audit : IssuanceAuditEvent}
    (hok : issue policy principal request env state = (.ok (response, audit), state')) :
    (∃ params, state'.signed = state.signed ++ [params] ∧ RealNames params) ↔
      ∀ name ∈ request.dnsNames, ¬Blank name := by
  obtain ⟨addresses, -, -, hall, hpermits, hsigned, -⟩ := exists_of_issue_ok hok
  constructor
  · rintro ⟨params, hparams, hreal⟩ name hname
    rw [hsigned, List.append_cancel_left_eq, List.singleton_inj] at hparams
    subst hparams
    exact hreal.not_blank name (mem_subjectAltNames_dnsName.mpr hname)
  · intro hnames
    refine ⟨_, hsigned, ?_, fun name hname => hnames name (mem_subjectAltNames_dnsName.mp hname)⟩
    rcases hpermits.identity with hdnsNames | hipAddresses
    · obtain ⟨name, hname⟩ := List.exists_mem_of_ne_nil _ hdnsNames
      exact Or.inr ⟨name, mem_subjectAltNames_dnsName.mpr hname, hnames name hname⟩
    · have haddresses : addresses ≠ [] := by
        rintro rfl
        exact hipAddresses (List.forall₂_nil_right_iff.mp hall)
      obtain ⟨address, haddress⟩ := List.exists_mem_of_ne_nil _ haddresses
      exact Or.inl ⟨address, mem_subjectAltNames_ipAddress.mpr haddress⟩

theorem realNames_iff_sampleRequest :
    ∃ params, sampleIssued.signed = [] ++ [params] ∧ RealNames params :=
  (realNames_iff issue_sampleRequest).mpr (by decide)

/-- An environment whose conversion of DNS names takes every ASCII text. -/
def asciiEnvironment : IssuanceEnvironment :=
  { sampleEnvironment none with
    issuer := ⟨fun name => name.toList.all fun c => c.toNat < 0x80, .ok (), fun _ => .ok ⟨"", []⟩⟩ }

/-- A request whose only alternative name is empty. -/
def blankRequest : IssueCertificateRequest := ⟨"workload", [""], [], true, false⟩

/-- A certificate whose only alternative name is empty is signed and delivered. -/
theorem not_realNames : ∃ response audit state',
    issue .default samplePrincipal blankRequest asciiEnvironment ⟨⟨∅, none⟩, ⟨[]⟩, []⟩ =
        (.ok (response, audit), state') ∧
      ¬∃ params, state'.signed = [params] ∧ RealNames params := by
  refine ⟨_, _, _, rfl, ?_⟩
  rintro ⟨params, hsigned, hreal⟩
  obtain rfl := List.singleton_inj.mp hsigned
  exact hreal.not_blank "" List.mem_cons_self rfl

end IssuanceService

end DaemonPki
