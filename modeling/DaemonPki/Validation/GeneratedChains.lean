import DaemonPki.Ca.Authority
import DaemonPki.Validation.Leaf

/-!
# The chains that the repository generates

The validators of a chain and of a leaf (`daemon-pki-core/src/validation/chain.rs`) against the
generators of certificates: root and intermediate authorities (`ca/root.rs`) and leaves
(`certificate/issuance.rs`). What links them is the encoding, which is that of other crates: one of
them writes a certificate from its parameters, another reads it. What is relied on is that the
reader finds what was written, and that a signature verifies under the key that made it and under
no other.

The command line tool (`daemon-pki-cli/src/main.rs`) goes all the way: it generates a chain,
validates it, and then the identity in its leaf.

## Main definitions

* `DaemonPki.X509Codec`, `DaemonPki.X509Codec.Lawful`: the crates that write and read.
* `DaemonPki.Generated`: the certificates that the repository generates, with what they say.
* `DaemonPki.Cli.verify`: the command line tool.

## Main results

* `DaemonPki.ChainValidator.accepts_generated_iff`: which chains of generated certificates are
  accepted.
* `DaemonPki.Cli.verify_eq_ok_iff`: when the tool passes.
-/

namespace DaemonPki

open Foundation

/-! ### Writing and reading certificates -/

/-- The name as the reader gives it. -/
def SanType.generalName : SanType → GeneralName
  | .dnsName name => .dnsName name
  | .ipAddress address => .ipAddress address.octets

/-- The extensions of a leaf that the tool reads, as they are written. -/
def CertificateParams.extensions (params : CertificateParams) : List ParsedExtension :=
  (if params.subjectAltNames = [] then []
    else [.subjectAlternativeName (params.subjectAltNames.map SanType.generalName)]) ++
  (if params.keyUsages = [] then []
    else [.keyUsage ⟨.digitalSignature ∈ params.keyUsages, false⟩]) ++
  (if params.extendedKeyUsages = [] then []
    else [.extendedKeyUsage (.serverAuth ∈ params.extendedKeyUsages)
      (.clientAuth ∈ params.extendedKeyUsages)])

/-- What a certificate says: the names in it, whether it is that of an authority, what its key is
for, its key, and the key that signed it. -/
structure CertificateContents (Key Name : Type) where
  subject : Name
  issuer : Name
  isCa : Bool
  keyUsage : KeyUsage
  key : Key
  signer : Key

/-- The crates that write and read certificates. -/
structure X509Codec (Key Issuer Cert Name PublicKey : Type) where
  crates : CaCrates Key Issuer
  x509 : X509Parser Cert Name PublicKey
  metadata : X509Metadata Cert Name
  /-- The names that are taken for DNS names. -/
  ia5String : String → Bool
  /-- `CertificateParams::signed_by`, for a leaf. -/
  signedBy : (seed : ℕ) → CertificateParams → Key → Issuer → Option Certificate
  /-- A name that consists of a common name, if there is one. -/
  name : Option String → Name
  issuerName : Issuer → Name
  publicKey : Key → PublicKey
  /-- The window of validity that is written unless another is asked for. -/
  validity : CertificateValidity

variable {Key Issuer Cert Name PublicKey : Type}

/-- The encoding is not empty, and is read as a certificate that says this, with nothing after
it. -/
structure X509Codec.Reads (codec : X509Codec Key Issuer Cert Name PublicKey) (der : List UInt8)
    (contents : CertificateContents Key Name) (certificate : Cert) : Prop where
  ne_nil : der ≠ []
  parse : codec.x509.parse der = some ([], certificate)
  subject : codec.x509.subject certificate = contents.subject
  issuer : codec.x509.issuer certificate = contents.issuer
  isCa : codec.x509.isCa certificate = contents.isCa
  keyUsage : codec.x509.keyUsage certificate = some (some contents.keyUsage)
  publicKey : codec.x509.publicKey certificate = codec.publicKey contents.key
  validity : codec.x509.validity certificate = codec.validity
  verifySignature : ∀ key,
    codec.x509.verifySignature certificate (some (codec.publicKey key)) = true ↔
      key = contents.signer
  verifySignature_self : codec.x509.verifySignature certificate none = true ↔
    contents.key = contents.signer

/-- What is relied on: a certificate is read as it was written. -/
structure X509Codec.Lawful (codec : X509Codec Key Issuer Cert Name PublicKey) : Prop where
  key_newIssuer : ∀ params key, codec.crates.key (codec.crates.newIssuer params key) = key
  issuerName_newIssuer : ∀ params key, codec.issuerName (codec.crates.newIssuer params key) =
    codec.name (some params.commonName)
  reads_selfSigned : ∀ {seed params key certificate},
    codec.crates.selfSigned seed params key = some certificate → ∃ read, codec.Reads certificate.der
      ⟨codec.name (some params.commonName), codec.name (some params.commonName), true,
        ⟨false, .keyCertSign ∈ params.keyUsages⟩, key, key⟩ read
  reads_caSignedBy : ∀ {seed params key issuer certificate},
    codec.crates.signedBy seed params key issuer = some certificate →
    ∃ read, codec.Reads certificate.der
      ⟨codec.name (some params.commonName), codec.issuerName issuer, true,
        ⟨false, .keyCertSign ∈ params.keyUsages⟩, key, codec.crates.key issuer⟩ read
  reads_signedBy : ∀ {seed params key issuer certificate},
    codec.signedBy seed params key issuer = some certificate →
    ∃ read, codec.Reads certificate.der
        ⟨codec.name params.commonName, codec.issuerName issuer, params.isCa,
          ⟨.digitalSignature ∈ params.keyUsages, false⟩, key, codec.crates.key issuer⟩ read ∧
      (codec.metadata.extensions read).filter (· ≠ .unread) = params.extensions

/-- The environment of one issuance, with the key that was drawn. -/
def X509Codec.issuerEnvironment (codec : X509Codec Key Issuer Cert Name PublicKey)
    (key : Option Key) (seed : ℕ) (ca : IntermediateCa Issuer) : IssuerEnvironment where
  ia5String := codec.ia5String
  generateKey := if key.isSome then .ok () else .error "key generation"
  signedBy params :=
    match key.bind fun key => codec.signedBy seed params key ca.issuer with
    | some certificate => .ok certificate
    | none => .error "signing"

/-! ### The certificates of the repository -/

/-- The certificates that the repository generates, and what they say. -/
inductive Generated (codec : X509Codec Key Issuer Cert Name PublicKey) :
    List UInt8 → CertificateContents Key Name → Prop
  | root {key : Key} {seed : ℕ} {commonName : String} {ca : RootCa Issuer}
      (h : RootCa.generate codec.crates (some key) seed commonName = .ok ca) :
      Generated codec ca.certificateDer
        ⟨codec.name (some commonName), codec.name (some commonName), true, ⟨false, true⟩, key, key⟩
  | intermediate {key : Key} {seed : ℕ} {commonName : String} {root : RootCa Issuer}
      {ca : IntermediateCa Issuer}
      (h : IntermediateCa.generate codec.crates (some key) seed root commonName = .ok ca) :
      Generated codec ca.certificateDer
        ⟨codec.name (some commonName), codec.issuerName root.issuer, true, ⟨false, true⟩, key,
          codec.crates.key root.issuer⟩
  | leaf {key : Key} {seed : ℕ} {ca : IntermediateCa Issuer} {request : CertificateRequest}
      {certificate : Certificate}
      (h : CertificateIssuer.issue (codec.issuerEnvironment (some key) seed ca) request =
        .ok certificate) :
      Generated codec certificate.der
        ⟨codec.name (CertificateIssuer.paramsOf request).commonName, codec.issuerName ca.issuer,
          false, ⟨true, false⟩, key, codec.crates.key ca.issuer⟩

namespace X509Codec

variable {codec : X509Codec Key Issuer Cert Name PublicKey} {key : Option Key} {seed : ℕ}

theorem root_generate_eq_ok_iff {commonName : String} {ca : RootCa Issuer} :
    RootCa.generate codec.crates key seed commonName = .ok ca ↔
      (Text.trim commonName.toList).isEmpty = false ∧ ∃ drawn certificate, key = some drawn ∧
        codec.crates.selfSigned seed (.new commonName .unconstrained) drawn = some certificate ∧
        ca = ⟨codec.crates.newIssuer (.new commonName .unconstrained) drawn, certificate.pem,
          certificate.der⟩ := by
  rw [RootCa.generate, ite_error_eq_ok_iff, Bool.not_eq_true]
  refine and_congr_right fun _ => ?_
  cases key with
  | none => simp
  | some drawn =>
    cases hsigned : codec.crates.selfSigned seed (.new commonName .unconstrained) drawn with
    | none => simp [hsigned]
    | some certificate => simp [hsigned, eq_comm]

theorem intermediate_generate_eq_ok_iff {commonName : String} {root : RootCa Issuer}
    {ca : IntermediateCa Issuer} :
    IntermediateCa.generate codec.crates key seed root commonName = .ok ca ↔
      (Text.trim commonName.toList).isEmpty = false ∧ ∃ drawn certificate, key = some drawn ∧
        codec.crates.signedBy seed (.new commonName (.constrained 0)) drawn root.issuer =
          some certificate ∧
        ca = ⟨codec.crates.newIssuer (.new commonName (.constrained 0)) drawn, certificate.pem,
          certificate.der⟩ := by
  rw [IntermediateCa.generate, ite_error_eq_ok_iff, Bool.not_eq_true]
  refine and_congr_right fun _ => ?_
  cases key with
  | none => simp
  | some drawn =>
    cases hsigned : codec.crates.signedBy seed (.new commonName (.constrained 0)) drawn
      root.issuer with
    | none => simp [hsigned]
    | some certificate => simp [hsigned, eq_comm]

/-- A leaf is issued when the request is permitted, its names are DNS names, and the other crate
does its part. -/
theorem issue_eq_ok_iff {ca : IntermediateCa Issuer} {request : CertificateRequest}
    {certificate : Certificate} :
    CertificateIssuer.issue (codec.issuerEnvironment key seed ca) request = .ok certificate ↔
      (CertificateIssuer.Permits request ∧
        ∀ name ∈ request.dnsNames, codec.ia5String name = true) ∧
      ∃ drawn, key = some drawn ∧ codec.signedBy seed (CertificateIssuer.paramsOf request) drawn
        ca.issuer = some certificate := by
  have hparams {params : CertificateParams} :
      CertificateIssuer.certificateParams codec.ia5String request = .ok params ↔
        CertificateIssuer.Permits request ∧ (∀ name ∈ request.dnsNames,
          codec.ia5String name = true) ∧ params = CertificateIssuer.paramsOf request :=
    CertificateIssuer.certificateParams_eq_ok_iff
  rw [CertificateIssuer.issue]
  cases hchecked : CertificateIssuer.certificateParams codec.ia5String request with
  | error e =>
    have hno : ¬(CertificateIssuer.Permits request ∧
        ∀ name ∈ request.dnsNames, codec.ia5String name = true) := fun h => by
      rw [hparams.mpr ⟨h.1, h.2, rfl⟩] at hchecked
      cases hchecked
    simp only [issuerEnvironment, hchecked, hno, false_and, reduceCtorEq]
  | ok params =>
    obtain ⟨hpermits, hnames, rfl⟩ := hparams.mp hchecked
    rw [and_iff_right ⟨hpermits, hnames⟩]
    cases key with
    | none => simp [issuerEnvironment, hchecked]
    | some drawn =>
      cases hsigned : codec.signedBy seed (CertificateIssuer.paramsOf request) drawn ca.issuer with
      | none => simp [issuerEnvironment, hchecked, hsigned]
      | some signed => simp [issuerEnvironment, hchecked, hsigned]

end X509Codec

/-- A generated certificate is read as what it says. -/
theorem Generated.reads {codec : X509Codec Key Issuer Cert Name PublicKey} (hlawful : codec.Lawful)
    {der : List UInt8} {contents : CertificateContents Key Name}
    (h : Generated codec der contents) : ∃ read, codec.Reads der contents read := by
  cases h with
  | root h =>
    obtain ⟨-, drawn, certificate, hdrawn, hsigned, rfl⟩ := X509Codec.root_generate_eq_ok_iff.mp h
    cases hdrawn
    exact hlawful.reads_selfSigned hsigned
  | intermediate h =>
    obtain ⟨-, drawn, certificate, hdrawn, hsigned, rfl⟩ :=
      X509Codec.intermediate_generate_eq_ok_iff.mp h
    cases hdrawn
    exact hlawful.reads_caSignedBy hsigned
  | leaf h =>
    obtain ⟨-, drawn, hdrawn, hsigned⟩ := X509Codec.issue_eq_ok_iff.mp h
    cases hdrawn
    obtain ⟨read, hreads, -⟩ := hlawful.reads_signedBy hsigned
    exact ⟨read, hreads⟩

/-- Authorities have the usage of authorities, and leaves that of leaves. -/
theorem Generated.keyUsage_eq {codec : X509Codec Key Issuer Cert Name PublicKey}
    {der : List UInt8} {contents : CertificateContents Key Name}
    (h : Generated codec der contents) :
    contents.keyUsage = ⟨!contents.isCa, contents.isCa⟩ := by
  cases h <;> rfl

/-! ### Chains of generated certificates -/

/-- The three certificates form a chain: a leaf, the authority that signed it, and the root that
signed the authority and itself. -/
structure CertificateContents.Chain (leaf intermediate root : CertificateContents Key Name) :
    Prop where
  leaf_not_isCa : leaf.isCa = false
  intermediate_isCa : intermediate.isCa = true
  root_isCa : root.isCa = true
  leaf_issuer : leaf.issuer = intermediate.subject
  leaf_signer : leaf.signer = intermediate.key
  intermediate_issuer : intermediate.issuer = root.subject
  intermediate_signer : intermediate.signer = root.key
  root_signer : root.signer = root.key

namespace ChainValidator

variable [DecidableEq Name] {codec : X509Codec Key Issuer Cert Name PublicKey}
  {now : OffsetDateTime}

omit [DecidableEq Name] in
theorem hasUsage_iff {usage : KeyUsage → Bool} {der : List UInt8}
    {contents : CertificateContents Key Name} {read : Cert}
    (h : codec.Reads der contents read) :
    HasUsage codec.x509 usage read ↔ usage contents.keyUsage = true := by
  rw [HasUsage, h.keyUsage]
  simp

omit [DecidableEq Name] in
/-- What is asked of three certificates, in terms of what they say. -/
theorem acceptable_iff_of_reads {leafDer intermediateDer rootDer : List UInt8}
    {leaf intermediate root : CertificateContents Key Name}
    {leafRead intermediateRead rootRead : Cert}
    (hleaf : codec.Reads leafDer leaf leafRead)
    (hintermediate : codec.Reads intermediateDer intermediate intermediateRead)
    (hroot : codec.Reads rootDer root rootRead)
    (hleafUsage : leaf.keyUsage = ⟨!leaf.isCa, leaf.isCa⟩)
    (hintermediateUsage : intermediate.keyUsage = ⟨!intermediate.isCa, intermediate.isCa⟩)
    (hrootUsage : root.keyUsage = ⟨!root.isCa, root.isCa⟩) :
    Acceptable codec.x509 now leafRead intermediateRead rootRead ↔
      leaf.Chain intermediate root ∧
        codec.validity.notBefore ≤ now ∧ now ≤ codec.validity.notAfter := by
  constructor
  · intro h
    have hvalid := h.valid _ (Or.inl rfl)
    rw [hleaf.validity] at hvalid
    refine ⟨?_, hvalid⟩
    exact
      { leaf_not_isCa := hleaf.isCa.symm.trans h.leaf_not_isCa
        intermediate_isCa := hintermediate.isCa.symm.trans h.intermediate_isCa
        root_isCa := hroot.isCa.symm.trans h.root_isCa
        leaf_issuer := hleaf.issuer.symm.trans (h.leaf_issuer.trans hintermediate.subject)
        leaf_signer := by
          have hsignature := h.leaf_signature
          rw [hintermediate.publicKey, hleaf.verifySignature] at hsignature
          exact hsignature.symm
        intermediate_issuer :=
          hintermediate.issuer.symm.trans (h.intermediate_issuer.trans hroot.subject)
        intermediate_signer := by
          have hsignature := h.intermediate_signature
          rw [hroot.publicKey, hintermediate.verifySignature] at hsignature
          exact hsignature.symm
        root_signer := (hroot.verifySignature_self.mp h.root_signature).symm }
  · rintro ⟨h, hvalid⟩
    exact
      { leaf_issuer := hleaf.issuer.trans (h.leaf_issuer.trans hintermediate.subject.symm)
        intermediate_issuer :=
          hintermediate.issuer.trans (h.intermediate_issuer.trans hroot.subject.symm)
        intermediate_isCa := hintermediate.isCa.trans h.intermediate_isCa
        root_isCa := hroot.isCa.trans h.root_isCa
        intermediate_usage := by
          rw [hasUsage_iff hintermediate, hintermediateUsage]
          exact h.intermediate_isCa
        root_usage := by
          rw [hasUsage_iff hroot, hrootUsage]
          exact h.root_isCa
        leaf_signature := by
          rw [hintermediate.publicKey, hleaf.verifySignature]
          exact h.leaf_signer.symm
        intermediate_signature := by
          rw [hroot.publicKey, hintermediate.verifySignature]
          exact h.intermediate_signer.symm
        root_signature := hroot.verifySignature_self.mpr h.root_signer.symm
        valid := by
          rintro certificate (rfl | rfl | rfl)
          · rwa [hleaf.validity]
          · rwa [hintermediate.validity]
          · rwa [hroot.validity]
        leaf_not_isCa := hleaf.isCa.trans h.leaf_not_isCa
        leaf_usage := by
          rw [hasUsage_iff hleaf, hleafUsage, h.leaf_not_isCa]
          rfl }

/-- Which chains are accepted, in terms of what the certificates say. -/
theorem accepts_iff_of_reads {leafDer intermediateDer rootDer : List UInt8}
    {leaf intermediate root : CertificateContents Key Name}
    {leafRead intermediateRead rootRead : Cert}
    (hleaf : codec.Reads leafDer leaf leafRead)
    (hintermediate : codec.Reads intermediateDer intermediate intermediateRead)
    (hroot : codec.Reads rootDer root rootRead)
    (hleafUsage : leaf.keyUsage = ⟨!leaf.isCa, leaf.isCa⟩)
    (hintermediateUsage : intermediate.keyUsage = ⟨!intermediate.isCa, intermediate.isCa⟩)
    (hrootUsage : root.keyUsage = ⟨!root.isCa, root.isCa⟩) (now : OffsetDateTime)
    (trustStore : TrustStore) :
    Accepts codec.x509 now leafDer intermediateDer rootDer trustStore ↔
      leaf.Chain intermediate root ∧
        (codec.validity.notBefore ≤ now ∧ now ≤ codec.validity.notAfter) ∧
        ∃ anchor ∈ trustStore.anchors, anchor.enabled = true ∧ anchor.certificateDer = rootDer := by
  have hacceptable : Acceptable codec.x509 now leafRead intermediateRead rootRead ↔
      leaf.Chain intermediate root ∧
        codec.validity.notBefore ≤ now ∧ now ≤ codec.validity.notAfter :=
    acceptable_iff_of_reads hleaf hintermediate hroot hleafUsage hintermediateUsage hrootUsage
  rw [accepts_iff]
  constructor
  · rintro ⟨-, ⟨leaf', intermediate', root', hleaf', hintermediate', hroot', h⟩, hanchor⟩
    obtain rfl := hleaf'.unique ⟨_, hleaf.parse⟩
    obtain rfl := hintermediate'.unique ⟨_, hintermediate.parse⟩
    obtain rfl := hroot'.unique ⟨_, hroot.parse⟩
    obtain ⟨hchain, hvalid⟩ := hacceptable.mp h
    exact ⟨hchain, hvalid, hanchor⟩
  · rintro ⟨hchain, hvalid, hanchor⟩
    exact ⟨⟨hleaf.ne_nil, hintermediate.ne_nil, hroot.ne_nil⟩,
      ⟨leafRead, intermediateRead, rootRead, ⟨_, hleaf.parse⟩, ⟨_, hintermediate.parse⟩,
        ⟨_, hroot.parse⟩, hacceptable.mpr ⟨hchain, hvalid⟩⟩, hanchor⟩

/-- **Which chains of generated certificates are accepted.** Take any three certificates that the
repository generates, of authorities or leaves, of one hierarchy or of several. They are accepted as
a chain exactly when they are one: a leaf, the authority that signed it, and the root that signed
the authority and itself, at a time within their window, and with the root among the enabled
anchors. So no leaf is taken for an authority, no authority for a leaf, and no two hierarchies are
mixed. -/
theorem accepts_generated_iff (hlawful : codec.Lawful)
    {leafDer intermediateDer rootDer : List UInt8}
    {leaf intermediate root : CertificateContents Key Name} (hleaf : Generated codec leafDer leaf)
    (hintermediate : Generated codec intermediateDer intermediate)
    (hroot : Generated codec rootDer root) (trustStore : TrustStore) :
    Accepts codec.x509 now leafDer intermediateDer rootDer trustStore ↔
      leaf.Chain intermediate root ∧
        (codec.validity.notBefore ≤ now ∧ now ≤ codec.validity.notAfter) ∧
        ∃ anchor ∈ trustStore.anchors, anchor.enabled = true ∧ anchor.certificateDer = rootDer := by
  obtain ⟨leafRead, hleafReads⟩ := hleaf.reads hlawful
  obtain ⟨intermediateRead, hintermediateReads⟩ := hintermediate.reads hlawful
  obtain ⟨rootRead, hrootReads⟩ := hroot.reads hlawful
  exact accepts_iff_of_reads hleafReads hintermediateReads hrootReads hleaf.keyUsage_eq
    hintermediate.keyUsage_eq hroot.keyUsage_eq now trustStore

end ChainValidator

/-! ### The metadata of a leaf -/

namespace CertificateValidationInput

/-- Extensions that are not read make no difference. -/
theorem foldl_addExtension_filter (extensions : List ParsedExtension)
    (input : CertificateValidationInput) :
    (extensions.filter (· ≠ .unread)).foldl addExtension input =
      extensions.foldl addExtension input := by
  induction extensions generalizing input with
  | nil => rfl
  | cons extension extensions ih =>
    by_cases hunread : extension = .unread
    · subst hunread
      rw [List.filter_cons_of_neg (by simp), ih]
      rfl
    · rw [List.filter_cons_of_pos (by simpa using hunread), List.foldl_cons, ih, List.foldl_cons]

theorem foldl_addName_dnsName (names : List String) (input : CertificateValidationInput) :
    ((names.map SanType.dnsName).map SanType.generalName).foldl addName input =
      { input with dnsNames := input.dnsNames ++ names } := by
  induction names generalizing input with
  | nil => simp
  | cons name names ih =>
    rw [List.map_cons, List.map_cons, List.foldl_cons, ih]
    simp only [addName, SanType.generalName, List.append_assoc, List.singleton_append]

theorem foldl_addName_ipAddress (addresses : List IpAddr) (input : CertificateValidationInput) :
    ((addresses.map SanType.ipAddress).map SanType.generalName).foldl addName input =
      { input with ipAddresses := input.ipAddresses ++ addresses } := by
  induction addresses generalizing input with
  | nil => simp
  | cons address addresses ih =>
    rw [List.map_cons, List.map_cons, List.foldl_cons, ih]
    simp only [addName, SanType.generalName, IpAddr.ofOctets_octets, Option.toList_some,
      List.append_assoc, List.singleton_append]

/-- The extensions of a leaf say what the request asked for. -/
theorem foldl_addExtension_paramsOf {request : CertificateRequest}
    (husage : request.serverAuth = true ∨ request.clientAuth = true)
    (input : CertificateValidationInput) (hdnsNames : input.dnsNames = [])
    (hipAddresses : input.ipAddresses = []) :
    (CertificateIssuer.paramsOf request).extensions.foldl addExtension input =
      { input with
        digitalSignature := true
        keyCertSign := false
        serverAuth := request.serverAuth
        clientAuth := request.clientAuth
        dnsNames := request.dnsNames
        ipAddresses := request.ipAddresses } := by
  have hnames : (if (CertificateIssuer.paramsOf request).subjectAltNames = [] then []
      else [ParsedExtension.subjectAlternativeName
        ((CertificateIssuer.paramsOf request).subjectAltNames.map
          SanType.generalName)]).foldl addExtension input =
      { input with
        dnsNames := request.dnsNames
        ipAddresses := request.ipAddresses } := by
    split_ifs with hnone
    · obtain ⟨hdns, hips⟩ := List.append_eq_nil_iff.mp hnone
      rw [List.foldl_nil, List.map_eq_nil_iff.mp hdns, List.map_eq_nil_iff.mp hips, ← hdnsNames,
        ← hipAddresses]
    · rw [List.foldl_cons, List.foldl_nil, addExtension, CertificateIssuer.paramsOf,
        List.map_append, List.foldl_append, foldl_addName_dnsName, foldl_addName_ipAddress,
        hdnsNames, hipAddresses, List.nil_append, List.nil_append]
  rw [CertificateParams.extensions, List.foldl_append, List.foldl_append, hnames]
  rcases request with ⟨commonName, dnsNames, ipAddresses, clientAuth, serverAuth⟩
  cases clientAuth <;> cases serverAuth
  · simp at husage
  all_goals simp [CertificateIssuer.paramsOf, addExtension]

end CertificateValidationInput

/-- The request asks for what the identity requires. -/
structure CertificateRequest.Offers (request : CertificateRequest)
    (requirement : IdentityRequirement) : Prop where
  dnsName : ∀ name ∈ requirement.dnsName, ∃ candidate ∈ request.dnsNames,
    Text.eqIgnoreAsciiCase candidate.toList name.toList = true
  ipAddress : ∀ address ∈ requirement.ipAddress, address ∈ request.ipAddresses
  serverAuth : requirement.requireServerAuth = true → request.serverAuth = true
  clientAuth : requirement.requireClientAuth = true → request.clientAuth = true

/-! ### The command line tool -/

namespace Cli

/-- How a run of the tool may end early. -/
inductive Error
  | ca (error : CaError)
  | issuance (error : IssuanceError)
  | trustStore (error : TrustStoreError)
  | chain (error : ChainValidationError)
  | untrusted
  | parse
  deriving DecidableEq, Repr

/-- What a run draws: the keys and the randomness of the signatures, the identifier of the anchor,
and two readings of the clock. -/
structure Environment (Key : Type) where
  rootKey : Option Key
  rootSeed : ℕ
  intermediateKey : Option Key
  intermediateSeed : ℕ
  leafKey : Option Key
  leafSeed : ℕ
  anchorId : Uuid
  chainTime : OffsetDateTime
  leafTime : OffsetDateTime

/-- Generate a chain for a request, validate it, and validate an identity in its leaf. The tool
does so for fixed names. Source: `main.rs`, lines 16–199. -/
def verify [DecidableEq Name] (codec : X509Codec Key Issuer Cert Name PublicKey)
    (env : Environment Key) (rootName intermediateName : String) (request : CertificateRequest)
    (identity : IdentityRequirement) : Except Error (ValidationResult × ValidationResult) := do
  let root ← (RootCa.generate codec.crates env.rootKey env.rootSeed rootName).mapError .ca
  let intermediate ← (IntermediateCa.generate codec.crates env.intermediateKey
    env.intermediateSeed root intermediateName).mapError .ca
  let certificate ← (CertificateIssuer.issue
    (codec.issuerEnvironment env.leafKey env.leafSeed intermediate) request).mapError .issuance
  let (added, trustStore) := TrustStore.new.add (.new env.anchorId rootName root.certificateDer)
  let _ ← added.mapError .trustStore
  let result ← (ChainValidator.validateDerChain codec.x509 env.chainTime certificate.der
    intermediate.certificateDer root.certificateDer trustStore).mapError .chain
  require (result.trusted = true) .untrusted
  let (_, parsed) ← okOr .parse (codec.x509.parse certificate.der)
  let leafResult ← (ChainValidator.validateLeaf env.leafTime
    (.ofCertificate codec.x509 codec.metadata certificate.der parsed) trustStore
      (some identity)).mapError .chain
  return (result, leafResult)

/-- The request of the tool. Source: `main.rs`, lines 33–36. -/
def workloadRequest : CertificateRequest :=
  (((CertificateRequest.new "api.daemon.internal").withDnsName
    "api.daemon.internal").withDnsName "api.internal").withIpAddress (.v4 0x7f000001#32)

/-- The run of the tool itself. Source: `main.rs`, lines 16–199. -/
def main [DecidableEq Name] (codec : X509Codec Key Issuer Cert Name PublicKey)
    (env : Environment Key) : Except Error (ValidationResult × ValidationResult) :=
  verify codec env "Daemon PKI Root CA" "Daemon PKI Workload CA" workloadRequest
    (.dns "api.daemon.internal")

variable {codec : X509Codec Key Issuer Cert Name PublicKey} {env : Environment Key}
  {rootName intermediateName : String} {request : CertificateRequest}
  {identity : IdentityRequirement} {now : OffsetDateTime}

/-- The other crates do their part: keys are drawn, and the certificates are signed. -/
def Provided (codec : X509Codec Key Issuer Cert Name PublicKey) (env : Environment Key)
    (rootName intermediateName : String) (request : CertificateRequest) : Prop :=
  ∃ rootKey intermediateKey leafKey root intermediate leaf,
    env.rootKey = some rootKey ∧ env.intermediateKey = some intermediateKey ∧
    env.leafKey = some leafKey ∧
    codec.crates.selfSigned env.rootSeed (.new rootName .unconstrained) rootKey = some root ∧
    codec.crates.signedBy env.intermediateSeed (.new intermediateName (.constrained 0))
      intermediateKey (codec.crates.newIssuer (.new rootName .unconstrained) rootKey) =
        some intermediate ∧
    codec.signedBy env.leafSeed (CertificateIssuer.paramsOf request) leafKey
      (codec.crates.newIssuer (.new intermediateName (.constrained 0)) intermediateKey) = some leaf

theorem enabled_new (id : Uuid) (name : String) (der : List UInt8) :
    (TrustStore.mk [.new id name der]).enabled = [.new id name der] := rfl

/-- The chain of a run is accepted within the window. -/
theorem validateDerChain_generated_iff [DecidableEq Name] (hlawful : codec.Lawful)
    {rootKey intermediateKey leafKey : Key} {rootSeed intermediateSeed leafSeed : ℕ}
    {root : RootCa Issuer} {intermediate : IntermediateCa Issuer} {certificate : Certificate}
    (hroot : RootCa.generate codec.crates (some rootKey) rootSeed rootName = .ok root)
    (hintermediate : IntermediateCa.generate codec.crates (some intermediateKey) intermediateSeed
      root intermediateName = .ok intermediate)
    (hleaf : CertificateIssuer.issue (codec.issuerEnvironment (some leafKey) leafSeed intermediate)
      request = .ok certificate) {id : Uuid} {name : String} {result : ValidationResult} :
    ChainValidator.validateDerChain codec.x509 now certificate.der intermediate.certificateDer
        root.certificateDer ⟨[.new id name root.certificateDer]⟩ = .ok result ↔
      (codec.validity.notBefore ≤ now ∧ now ≤ codec.validity.notAfter) ∧
        result = ⟨true, 3, some id⟩ := by
  obtain ⟨leafRead, hleafReads⟩ := (Generated.leaf hleaf).reads hlawful
  obtain ⟨intermediateRead, hcaReads⟩ := (Generated.intermediate hintermediate).reads hlawful
  obtain ⟨rootRead, hrootReads⟩ := (Generated.root hroot).reads hlawful
  have haccepts := ChainValidator.accepts_iff_of_reads hleafReads hcaReads hrootReads rfl rfl rfl
    now ⟨[.new id name root.certificateDer]⟩
  have hresult {result : ValidationResult} (h : ChainValidator.validateDerChain codec.x509 now
      certificate.der intermediate.certificateDer root.certificateDer
        ⟨[.new id name root.certificateDer]⟩ = .ok result) : result = ⟨true, 3, some id⟩ := by
    obtain ⟨-, -, anchor, hanchor, rfl⟩ := ChainValidator.validateDerChain_eq_ok_iff.mp h
    obtain ⟨hmem, -, -⟩ := ChainValidator.find_enabled hanchor
    rw [List.mem_singleton.mp hmem]
    rfl
  obtain ⟨-, drawn, rootCertificate, hdrawn, -, rfl⟩ := X509Codec.root_generate_eq_ok_iff.mp hroot
  obtain rfl := Option.some.inj hdrawn
  obtain ⟨-, drawn', caCertificate, hdrawn', -, rfl⟩ :=
    X509Codec.intermediate_generate_eq_ok_iff.mp hintermediate
  obtain rfl := Option.some.inj hdrawn'
  constructor
  · intro h
    obtain ⟨-, hvalid, -⟩ := haccepts.mp ⟨result, h⟩
    exact ⟨hvalid, hresult h⟩
  · rintro ⟨hvalid, rfl⟩
    obtain ⟨result, h⟩ := haccepts.mpr ⟨
      { leaf_not_isCa := rfl
        intermediate_isCa := rfl
        root_isCa := rfl
        leaf_issuer := hlawful.issuerName_newIssuer _ _
        leaf_signer := hlawful.key_newIssuer _ _
        intermediate_issuer := hlawful.issuerName_newIssuer _ _
        intermediate_signer := hlawful.key_newIssuer _ _
        root_signer := rfl }, hvalid, _, List.mem_singleton_self _, rfl, rfl⟩
    rw [h, hresult h]

/-- The leaf of a run is read, and is accepted within the window for the identities that its
request asked for. -/
theorem validateLeaf_generated_iff (hlawful : codec.Lawful) {leafKey : Key} {leafSeed : ℕ}
    {intermediate : IntermediateCa Issuer} {certificate : Certificate}
    (hleaf : CertificateIssuer.issue (codec.issuerEnvironment (some leafKey) leafSeed intermediate)
      request = .ok certificate) {id : Uuid} {name : String} {der : List UInt8} :
    ∃ parsed, codec.x509.parse certificate.der = some ([], parsed) ∧
      ∀ result, ChainValidator.validateLeaf now
          (.ofCertificate codec.x509 codec.metadata certificate.der parsed)
          ⟨[.new id name der]⟩ (some identity) = .ok result ↔
        (codec.validity.notBefore ≤ now ∧ now ≤ codec.validity.notAfter) ∧
          request.Offers identity ∧ result = ⟨true, 1, some id⟩ := by
  obtain ⟨⟨hpermits, -⟩, drawn, hdrawn, hsigned⟩ := X509Codec.issue_eq_ok_iff.mp hleaf
  obtain ⟨parsed, hreads, hextensions⟩ := hlawful.reads_signedBy hsigned
  refine ⟨parsed, hreads.parse, fun result => ?_⟩
  rw [CertificateValidationInput.ofCertificate,
    ← CertificateValidationInput.foldl_addExtension_filter, hextensions,
    CertificateValidationInput.foldl_addExtension_paramsOf hpermits.extendedKeyUsage _ rfl rfl,
    ChainValidator.validateLeaf_eq_ok_iff]
  simp only [hreads.validity, hreads.isCa, enabled_new, List.head?_cons, Option.some.injEq,
    exists_eq_left', Option.mem_some_iff, forall_eq', true_and]
  have hisCa : (CertificateIssuer.paramsOf request).isCa = false := rfl
  refine and_congr_right fun _ => (and_iff_right hisCa).trans ?_
  refine and_congr_left fun _ => ⟨?_, ?_⟩
  · exact fun h => ⟨h.dnsName, h.ipAddress, h.serverAuth, h.clientAuth⟩
  · exact fun h => ⟨h.dnsName, h.ipAddress, h.serverAuth, h.clientAuth⟩

/-- **When the tool passes.** As far as the other crates do their part: exactly when neither name
of an authority is blank, the request is permitted and its names are DNS names, both readings of
the clock are within the window, and the request asks for what the identity requires. Both results
name the anchor that the run registered. -/
theorem verify_eq_ok_iff [DecidableEq Name] (hlawful : codec.Lawful)
    {results : ValidationResult × ValidationResult} :
    verify codec env rootName intermediateName request identity = .ok results ↔
      Provided codec env rootName intermediateName request ∧
      (Text.trim rootName.toList).isEmpty = false ∧
      (Text.trim intermediateName.toList).isEmpty = false ∧
      (CertificateIssuer.Permits request ∧
        ∀ name ∈ request.dnsNames, codec.ia5String name = true) ∧
      (codec.validity.notBefore ≤ env.chainTime ∧ env.chainTime ≤ codec.validity.notAfter) ∧
      (codec.validity.notBefore ≤ env.leafTime ∧ env.leafTime ≤ codec.validity.notAfter) ∧
      request.Offers identity ∧
      results = (⟨true, 3, some env.anchorId⟩, ⟨true, 1, some env.anchorId⟩) := by
  have hadd (anchor : TrustAnchor) : TrustStore.new.add anchor = (.ok anchor.id, ⟨[anchor]⟩) := rfl
  simp only [verify, hadd, bind_eq_ok_iff, mapError_eq_ok_iff, okOr_eq_ok_iff, require_eq_ok_iff]
  constructor
  · rintro ⟨root, hroot, intermediate, hintermediate, certificate, hleaf, -, -, result, hresult, -,
      -, ⟨rest, parsed⟩, hparsed, leafResult, hleafResult, hresults⟩
    obtain ⟨hrootName, rootKey, rootCertificate, hrootKey, hrootSigned, hrootEq⟩ :=
      X509Codec.root_generate_eq_ok_iff.mp hroot
    obtain ⟨hname, caKey, caCertificate, hcaKey, hcaSigned, hcaEq⟩ :=
      X509Codec.intermediate_generate_eq_ok_iff.mp hintermediate
    obtain ⟨hrequest, leafKey, hleafKey, hleafSigned⟩ := X509Codec.issue_eq_ok_iff.mp hleaf
    rw [hrootKey] at hroot
    rw [hcaKey] at hintermediate
    rw [hleafKey] at hleaf
    obtain ⟨hchainValid, rfl⟩ :=
      (validateDerChain_generated_iff hlawful hroot hintermediate hleaf).mp hresult
    obtain ⟨parsed', hparsed', hvalidates⟩ := validateLeaf_generated_iff hlawful hleaf
    rw [hparsed'] at hparsed
    cases hparsed
    obtain ⟨hleafValid, hoffers, rfl⟩ := (hvalidates leafResult).mp hleafResult
    subst hrootEq hcaEq
    exact ⟨⟨rootKey, caKey, leafKey, rootCertificate, caCertificate, certificate, hrootKey, hcaKey,
      hleafKey, hrootSigned, hcaSigned, hleafSigned⟩, hrootName, hname, hrequest, hchainValid,
      hleafValid, hoffers, (Except.ok.inj hresults).symm⟩
  · rintro ⟨⟨rootKey, caKey, leafKey, root, ca, leaf, hrootKey, hcaKey, hleafKey, hrootSigned,
      hcaSigned, hleafSigned⟩, hrootName, hname, hrequest, hchainValid, hleafValid, hoffers, rfl⟩
    have hroot : RootCa.generate codec.crates (some rootKey) env.rootSeed rootName =
        .ok ⟨codec.crates.newIssuer (.new rootName .unconstrained) rootKey, root.pem, root.der⟩ :=
      X509Codec.root_generate_eq_ok_iff.mpr ⟨hrootName, rootKey, root, rfl, hrootSigned, rfl⟩
    have hintermediate : IntermediateCa.generate codec.crates (some caKey) env.intermediateSeed
          ⟨codec.crates.newIssuer (.new rootName .unconstrained) rootKey, root.pem, root.der⟩
          intermediateName =
        .ok ⟨codec.crates.newIssuer (.new intermediateName (.constrained 0)) caKey, ca.pem,
          ca.der⟩ :=
      X509Codec.intermediate_generate_eq_ok_iff.mpr ⟨hname, caKey, ca, rfl, hcaSigned, rfl⟩
    have hleaf : CertificateIssuer.issue (codec.issuerEnvironment (some leafKey) env.leafSeed
          ⟨codec.crates.newIssuer (.new intermediateName (.constrained 0)) caKey, ca.pem, ca.der⟩)
          request = .ok leaf :=
      X509Codec.issue_eq_ok_iff.mpr ⟨hrequest, leafKey, rfl, hleafSigned⟩
    obtain ⟨parsed, hparsed, hvalidates⟩ := validateLeaf_generated_iff hlawful hleaf
    rw [hrootKey, hcaKey, hleafKey]
    exact ⟨_, hroot, _, hintermediate, _, hleaf, _, rfl, _,
      (validateDerChain_generated_iff hlawful hroot hintermediate hleaf).mpr ⟨hchainValid, rfl⟩, (),
      rfl, _, hparsed, _, (hvalidates _).mpr ⟨hleafValid, hoffers, rfl⟩, rfl⟩

end Cli

/-! ### A codec with four certificates -/

/-- What the certificate of a byte says: `1` is the root, `2` the authority below it, `3` the leaf
below that, and `4` another root with the same name. -/
def byteContents : UInt8 → CertificateContents ℕ (Option String)
  | 1 => ⟨some "Daemon PKI Root CA", some "Daemon PKI Root CA", true, ⟨false, true⟩, 1, 1⟩
  | 2 => ⟨some "Daemon PKI Workload CA", some "Daemon PKI Root CA", true, ⟨false, true⟩, 2, 1⟩
  | 4 => ⟨some "Daemon PKI Root CA", some "Daemon PKI Root CA", true, ⟨false, true⟩, 4, 4⟩
  | _ => ⟨some "api.daemon.internal", some "Daemon PKI Workload CA", false, ⟨true, false⟩, 3, 2⟩

def byteCodec : X509Codec ℕ (Option String × ℕ) UInt8 (Option String) ℕ where
  crates :=
    { serializePem := fun _ => ""
      keyFromPem := fun _ => none
      newIssuer := fun params key => (some params.commonName, key)
      issuerFromCaCertPem := fun _ _ => none
      key := Prod.snd
      selfSigned := fun _ params key =>
        if params = .new "Daemon PKI Root CA" .unconstrained ∧ key = 1 then some ⟨"", [1]⟩
        else if params = .new "Daemon PKI Root CA" .unconstrained ∧ key = 4 then some ⟨"", [4]⟩
        else none
      signedBy := fun _ params key issuer =>
        if params = .new "Daemon PKI Workload CA" (.constrained 0) ∧ key = 2 ∧
          issuer = (some "Daemon PKI Root CA", 1) then some ⟨"", [2]⟩
        else none
      parsePem := fun _ => none
      verifies := fun _ _ => false }
  x509 :=
    { parse := fun
        | [] => none
        | byte :: rest => some (rest, byte)
      issuer := fun byte => (byteContents byte).issuer
      subject := fun byte => (byteContents byte).subject
      isCa := fun byte => (byteContents byte).isCa
      keyUsage := fun byte => some (some (byteContents byte).keyUsage)
      publicKey := fun byte => (byteContents byte).key
      verifySignature := fun byte key =>
        key.getD (byteContents byte).key = (byteContents byte).signer
      validity := fun _ => ⟨0, 10⟩ }
  metadata :=
    { extensions := fun _ => .unread :: (CertificateIssuer.paramsOf Cli.workloadRequest).extensions
      nameText := fun name => name.getD "" }
  ia5String name := name.toList.all fun c => c.toNat < 128
  signedBy _ params key issuer :=
    if params = CertificateIssuer.paramsOf Cli.workloadRequest ∧ key = 3 ∧
      issuer = (some "Daemon PKI Workload CA", 2) then some ⟨"", [3]⟩
    else none
  name := id
  issuerName := Prod.fst
  publicKey := id
  validity := ⟨0, 10⟩

theorem reads_byteCodec (byte : UInt8) : byteCodec.Reads [byte] (byteContents byte) byte where
  ne_nil := List.cons_ne_nil _ _
  parse := rfl
  subject := rfl
  issuer := rfl
  isCa := rfl
  keyUsage := rfl
  publicKey := rfl
  validity := rfl
  verifySignature _ := decide_eq_true_iff
  verifySignature_self := decide_eq_true_iff

theorem lawful_byteCodec : byteCodec.Lawful where
  key_newIssuer _ _ := rfl
  issuerName_newIssuer _ _ := rfl
  reads_selfSigned {seed params key certificate} h := by
    simp only [byteCodec] at h
    split_ifs at h with hfirst hsecond <;> cases h
    · obtain ⟨rfl, rfl⟩ := hfirst
      exact ⟨1, reads_byteCodec 1⟩
    · obtain ⟨rfl, rfl⟩ := hsecond
      exact ⟨4, reads_byteCodec 4⟩
  reads_caSignedBy {seed params key issuer certificate} h := by
    simp only [byteCodec] at h
    split_ifs at h with hsigned
    cases h
    obtain ⟨rfl, rfl, rfl⟩ := hsigned
    exact ⟨2, reads_byteCodec 2⟩
  reads_signedBy {seed params key issuer certificate} h := by
    simp only [byteCodec] at h
    split_ifs at h with hsigned
    cases h
    obtain ⟨rfl, rfl, rfl⟩ := hsigned
    exact ⟨3, reads_byteCodec 3, by decide⟩

theorem generated_root : Generated byteCodec [1] (byteContents 1) := by
  have hroot : RootCa.generate byteCodec.crates (some 1) 0 "Daemon PKI Root CA" =
      .ok ⟨(some "Daemon PKI Root CA", 1), "", [1]⟩ :=
    X509Codec.root_generate_eq_ok_iff.mpr
      ⟨by decide +kernel, 1, ⟨"", [1]⟩, rfl, by decide +kernel, rfl⟩
  exact .root hroot

theorem generated_otherRoot : Generated byteCodec [4] (byteContents 4) := by
  have hroot : RootCa.generate byteCodec.crates (some 4) 0 "Daemon PKI Root CA" =
      .ok ⟨(some "Daemon PKI Root CA", 4), "", [4]⟩ :=
    X509Codec.root_generate_eq_ok_iff.mpr
      ⟨by decide +kernel, 4, ⟨"", [4]⟩, rfl, by decide +kernel, rfl⟩
  exact .root hroot

theorem generated_intermediate : Generated byteCodec [2] (byteContents 2) := by
  have hintermediate : IntermediateCa.generate byteCodec.crates (some 2) 0
        ⟨(some "Daemon PKI Root CA", 1), "", [1]⟩ "Daemon PKI Workload CA" =
      .ok ⟨(some "Daemon PKI Workload CA", 2), "", [2]⟩ :=
    X509Codec.intermediate_generate_eq_ok_iff.mpr
      ⟨by decide +kernel, 2, ⟨"", [2]⟩, rfl, by decide +kernel, rfl⟩
  exact .intermediate hintermediate

theorem permits_workloadRequest : CertificateIssuer.Permits Cli.workloadRequest where
  identity := Or.inl (by decide +kernel)
  commonName := by decide +kernel
  dnsNames := by decide
  ipAddresses := by decide
  extendedKeyUsage := Or.inl rfl

theorem generated_leaf : Generated byteCodec [3] (byteContents 3) := by
  have hleaf : CertificateIssuer.issue (byteCodec.issuerEnvironment (some 3) 0
        ⟨(some "Daemon PKI Workload CA", 2), "", [2]⟩) Cli.workloadRequest = .ok ⟨"", [3]⟩ :=
    X509Codec.issue_eq_ok_iff.mpr ⟨⟨permits_workloadRequest, by decide +kernel⟩, 3, rfl,
      by decide +kernel⟩
  exact .leaf hleaf

/-- With both roots among the anchors, the chain is accepted, and not below the other root. -/
theorem accepts_generated_iff_otherRoot :
    ChainValidator.Accepts byteCodec.x509 5 [3] [2] [1] ⟨[.new 7 "root" [1], .new 8 "other" [4]]⟩ ∧
    ¬ ChainValidator.Accepts byteCodec.x509 5 [3] [2] [4]
      ⟨[.new 7 "root" [1], .new 8 "other" [4]]⟩ := by
  constructor
  · refine (ChainValidator.accepts_generated_iff lawful_byteCodec generated_leaf
      generated_intermediate generated_root _).mpr
      ⟨⟨rfl, rfl, rfl, rfl, rfl, rfl, rfl, rfl⟩, by decide, _, List.mem_cons_self, rfl, rfl⟩
  · intro h
    have hchain := ((ChainValidator.accepts_generated_iff lawful_byteCodec generated_leaf
      generated_intermediate generated_otherRoot _).mp h).1
    exact absurd hchain.intermediate_signer (by decide)

/-- The tool passes, and names the root that it registered. -/
theorem verify_eq_ok_iff_main :
    Cli.main byteCodec ⟨some 1, 0, some 2, 0, some 3, 0, 7, 5, 6⟩ =
      .ok (⟨true, 3, some 7⟩, ⟨true, 1, some 7⟩) := by
  refine (Cli.verify_eq_ok_iff lawful_byteCodec).mpr ⟨?_, by decide +kernel, by decide +kernel,
    ⟨permits_workloadRequest, by decide +kernel⟩, by decide, by decide, ?_, rfl⟩
  · exact ⟨1, 2, 3, ⟨"", [1]⟩, ⟨"", [2]⟩, ⟨"", [3]⟩, rfl, rfl, rfl, by decide +kernel,
      by decide +kernel, by decide +kernel⟩
  · refine ⟨?_, ?_, fun _ => rfl, fun _ => rfl⟩
    · rintro name ⟨⟩
      exact ⟨"api.daemon.internal", by decide, by decide +kernel⟩
    · rintro address ⟨⟩

end DaemonPki
