import DaemonPki.Validation.Chain

/-!
# The validation of a leaf by its metadata

The second validator of `daemon-pki-core/src/validation/chain.rs`, for callers that have the
metadata of a certificate: its window, its usages and the identity it is asked for are checked,
and no signature. The metadata are taken from a parsed certificate as the command line tool
(`daemon-pki-cli/src/main.rs`) takes them.

It reports a trust anchor without looking at the issuer: the first one of the store that is
enabled. The validator of whole chains reports the one with the bytes of the root.

## Main definitions

* `DaemonPki.IdentityRequirement`, `DaemonPki.CertificateValidationInput`.
* `DaemonPki.CertificateValidationInput.ofCertificate`: the metadata of a parsed certificate.
* `DaemonPki.ChainValidator.validateIdentity`, `DaemonPki.ChainValidator.validateLeaf`.

## Main results

* `DaemonPki.ChainValidator.validateLeaf_eq_ok_iff`: when a leaf is accepted, and with which
  result.
* `DaemonPki.ChainValidator.sameAnchor_iff`: when both validators name the same anchor.
-/

namespace DaemonPki

open Foundation

/-! ### Identities and metadata -/

/-- Source: `certificate.rs`, lines 33–40. -/
structure IdentityRequirement where
  dnsName : Option String
  ipAddress : Option IpAddr
  requireServerAuth : Bool
  requireClientAuth : Bool
  deriving DecidableEq, Repr

namespace IdentityRequirement

/-- Source: `certificate.rs`, lines 43–50. -/
def dns (name : String) : IdentityRequirement where
  dnsName := some name
  ipAddress := none
  requireServerAuth := true
  requireClientAuth := false

/-- Source: `certificate.rs`, lines 52–59. -/
def ip (address : IpAddr) : IdentityRequirement where
  dnsName := none
  ipAddress := some address
  requireServerAuth := true
  requireClientAuth := false

end IdentityRequirement

/-- Source: `chain.rs`, lines 14–36. -/
structure CertificateValidationInput where
  der : List UInt8
  validity : CertificateValidity
  isCa : Bool
  digitalSignature : Bool
  keyCertSign : Bool
  serverAuth : Bool
  clientAuth : Bool
  dnsNames : List String
  ipAddresses : List IpAddr
  issuer : String
  subject : String
  deriving DecidableEq, Repr

/-- A name of the extension with the alternative names of the subject. -/
inductive GeneralName
  | dnsName (name : String)
  | ipAddress (octets : List UInt8)
  | other
  deriving DecidableEq, Repr

/-- An extension, as far as the tool reads it. -/
inductive ParsedExtension
  | keyUsage (usage : KeyUsage)
  | extendedKeyUsage (serverAuth clientAuth : Bool)
  | subjectAlternativeName (generalNames : List GeneralName)
  | unread
  deriving DecidableEq, Repr

/-- What the tool takes from the crate that parses certificates besides the fields that the
validator reads. -/
structure X509Metadata (Cert Name : Type) where
  extensions : Cert → List ParsedExtension
  /-- The text of a name. -/
  nameText : Name → String

namespace CertificateValidationInput

/-- Source: `main.rs`, lines 126–149. -/
def addName (input : CertificateValidationInput) : GeneralName → CertificateValidationInput
  | .dnsName name => { input with dnsNames := input.dnsNames ++ [name] }
  | .ipAddress octets =>
    { input with ipAddresses := input.ipAddresses ++ (IpAddr.ofOctets octets).toList }
  | .other => input

/-- Source: `main.rs`, lines 111–154. -/
def addExtension (input : CertificateValidationInput) :
    ParsedExtension → CertificateValidationInput
  | .keyUsage usage =>
    { input with
      digitalSignature := usage.digitalSignature
      keyCertSign := usage.keyCertSign }
  | .extendedKeyUsage serverAuth clientAuth =>
    { input with
      serverAuth := serverAuth
      clientAuth := clientAuth }
  | .subjectAlternativeName generalNames => generalNames.foldl addName input
  | .unread => input

variable {Cert Name Key : Type}

/-- The metadata of a parsed certificate. Source: `main.rs`, lines 99–177. -/
def ofCertificate (x509 : X509Parser Cert Name Key) (metadata : X509Metadata Cert Name)
    (der : List UInt8) (certificate : Cert) : CertificateValidationInput :=
  (metadata.extensions certificate).foldl addExtension
    { der := der
      validity := x509.validity certificate
      isCa := x509.isCa certificate
      digitalSignature := false
      keyCertSign := false
      serverAuth := false
      clientAuth := false
      dnsNames := []
      ipAddresses := []
      issuer := metadata.nameText (x509.issuer certificate)
      subject := metadata.nameText (x509.subject certificate) }

end CertificateValidationInput

namespace ChainValidator

/-! ### The validator -/

/-- Source: `chain.rs`, lines 342–380. -/
def validateIdentity (certificate : CertificateValidationInput)
    (requirement : IdentityRequirement) : Except ChainValidationError Unit := do
  match requirement.dnsName with
  | some name =>
    require (certificate.dnsNames.any fun candidate =>
      Text.eqIgnoreAsciiCase candidate.toList name.toList) .identityMismatch
  | none => pure ()
  match requirement.ipAddress with
  | some address => require (address ∈ certificate.ipAddresses) .identityMismatch
  | none => pure ()
  require (¬(requirement.requireServerAuth ∧ !certificate.serverAuth))
    (.certificate .missingExtendedKeyUsage)
  require (¬(requirement.requireClientAuth ∧ !certificate.clientAuth))
    (.certificate .missingExtendedKeyUsage)

/-- Source: `chain.rs`, lines 87–124. -/
def validateLeaf (now : OffsetDateTime) (certificate : CertificateValidationInput)
    (trustStore : TrustStore) (identity : Option IdentityRequirement) :
    Except ChainValidationError ValidationResult := do
  requireValid now certificate.validity
  require (certificate.isCa = false) .leafIsCa
  require (certificate.digitalSignature = true) (.certificate .missingKeyUsage)
  match identity with
  | some requirement => validateIdentity certificate requirement
  | none => pure ()
  let anchor ← okOr .noTrustAnchor trustStore.enabled.head?
  return { trusted := true, chainDepth := 1, trustAnchorId := some anchor.id }

/-! ### When a leaf is accepted -/

/-- The certificate has the identity and the usages that are asked for. -/
structure Meets (certificate : CertificateValidationInput) (requirement : IdentityRequirement) :
    Prop where
  dnsName : ∀ name ∈ requirement.dnsName, ∃ candidate ∈ certificate.dnsNames,
    Text.eqIgnoreAsciiCase candidate.toList name.toList = true
  ipAddress : ∀ address ∈ requirement.ipAddress, address ∈ certificate.ipAddresses
  serverAuth : requirement.requireServerAuth = true → certificate.serverAuth = true
  clientAuth : requirement.requireClientAuth = true → certificate.clientAuth = true

variable {now : OffsetDateTime} {certificate : CertificateValidationInput}
  {trustStore : TrustStore} {identity : Option IdentityRequirement}

theorem validateIdentity_eq_ok_iff {requirement : IdentityRequirement} {u : Unit} :
    validateIdentity certificate requirement = .ok u ↔ Meets certificate requirement := by
  have hstructure : Meets certificate requirement ↔
      (∀ name ∈ requirement.dnsName, ∃ candidate ∈ certificate.dnsNames,
        Text.eqIgnoreAsciiCase candidate.toList name.toList = true) ∧
      (∀ address ∈ requirement.ipAddress, address ∈ certificate.ipAddresses) ∧
      (requirement.requireServerAuth = true → certificate.serverAuth = true) ∧
      (requirement.requireClientAuth = true → certificate.clientAuth = true) :=
    ⟨fun h => ⟨h.dnsName, h.ipAddress, h.serverAuth, h.clientAuth⟩,
      fun ⟨hdns, hip, hserver, hclient⟩ => ⟨hdns, hip, hserver, hclient⟩⟩
  rw [hstructure, validateIdentity]
  cases requirement.dnsName <;> cases requirement.ipAddress <;>
    simp [bind_eq_ok_iff, require_eq_ok_iff]

/-- **When a leaf is accepted**, and with which result. -/
theorem validateLeaf_eq_ok_iff {result : ValidationResult} :
    validateLeaf now certificate trustStore identity = .ok result ↔
      (certificate.validity.notBefore ≤ now ∧ now ≤ certificate.validity.notAfter) ∧
        certificate.isCa = false ∧ certificate.digitalSignature = true ∧
        (∀ requirement ∈ identity, Meets certificate requirement) ∧
        ∃ first, trustStore.enabled.head? = some first ∧ result = ⟨true, 1, some first.id⟩ := by
  have hreturn : ∀ returned : ValidationResult,
      (pure returned : Except ChainValidationError _) = .ok result ↔ result = returned :=
    fun returned => ⟨fun h => (Except.ok.inj h).symm, fun h => h ▸ rfl⟩
  cases identity with
  | none =>
    simp only [validateLeaf, bind_eq_ok_iff, requireValid_eq_ok_iff, require_eq_ok_iff,
      okOr_eq_ok_iff, hreturn, exists_const]
    simp
  | some requirement =>
    simp only [validateLeaf, bind_eq_ok_iff, requireValid_eq_ok_iff, require_eq_ok_iff,
      okOr_eq_ok_iff, validateIdentity_eq_ok_iff, hreturn, exists_const, Option.mem_some_iff,
      forall_eq']

/-! ### The anchor that is reported -/

/-- The two results name anchors of the store with the same bytes. -/
def SameAnchor (trustStore : TrustStore) (result result' : ValidationResult) : Prop :=
  ∃ anchor ∈ trustStore.anchors, ∃ anchor' ∈ trustStore.anchors,
    result.trustAnchorId = some anchor.id ∧ result'.trustAnchorId = some anchor'.id ∧
      anchor.certificateDer = anchor'.certificateDer

variable {Cert Name Key : Type} [DecidableEq Name] {x509 : X509Parser Cert Name Key}
  {metadata : X509Metadata Cert Name} {leafDer intermediateDer rootDer : List UInt8} {leaf : Cert}
  {result result' : ValidationResult}

/-- **When the two validators name the same anchor.** For every store that a run of `add` and
`remove` reaches, and every chain and leaf that are accepted at one instant: exactly when the
first enabled anchor has the bytes of the root. -/
theorem sameAnchor_iff (run : TrustStore.system.Run .new trustStore)
    (hchain : validateDerChain x509 now leafDer intermediateDer rootDer trustStore = .ok result)
    (hleaf : validateLeaf now (.ofCertificate x509 metadata leafDer leaf) trustStore identity =
      .ok result') :
    SameAnchor trustStore result result' ↔
      ∃ first, trustStore.enabled.head? = some first ∧ first.certificateDer = rootDer := by
  obtain ⟨-, -, anchor, hanchor, rfl⟩ := validateDerChain_eq_ok_iff.mp hchain
  obtain ⟨-, -, -, -, first, hfirst, rfl⟩ := validateLeaf_eq_ok_iff.mp hleaf
  obtain ⟨hmem, -, hder⟩ := find_enabled hanchor
  have hmem' : first ∈ trustStore.anchors :=
    (TrustStore.mem_enabled.mp (List.mem_of_mem_head? hfirst)).1
  have hunique := TrustStore.uniqueIds_of_run run
  constructor
  · rintro ⟨a, ha, b, hb, hid, hid', hbytes⟩
    obtain rfl := hunique.eq_of_id_eq hmem ha (Option.some.inj hid)
    obtain rfl := hunique.eq_of_id_eq hmem' hb (Option.some.inj hid')
    exact ⟨first, hfirst, hbytes.symm.trans hder⟩
  · rintro ⟨first', hfirst', hroot⟩
    obtain rfl : first = first' := Option.some.inj (hfirst.symm.trans hfirst')
    exact ⟨anchor, hmem, first, hmem', rfl, rfl, hder.trans hroot.symm⟩

/-- The metadata of the certificates of `byteParser`. -/
def byteMetadata : X509Metadata UInt8 Unit where
  extensions byte :=
    [.keyUsage ⟨byte = 1, byte ≠ 1⟩, .extendedKeyUsage true true,
      .subjectAlternativeName [.dnsName "api.internal", .ipAddress [127, 0, 0, 1]]]
  nameText _ := "api.internal"

/-- An identity is compared without regard to case; an address has to be there. -/
example : validateIdentity (.ofCertificate byteParser byteMetadata [1] 1)
      ⟨some "API.internal", some (.v4 0x7f000001#32), true, false⟩ = .ok () ∧
    validateIdentity (.ofCertificate byteParser byteMetadata [1] 1) (.ip (.v4 0x0a000001#32)) =
      .error .identityMismatch := by
  decide

def disabledAnchor : TrustAnchor := { TrustAnchor.new 6 "disabled" [9] with enabled := false }

/-- The root stands between two other anchors, of which the first is not enabled. -/
def rootBetween : TrustStore := ⟨[disabledAnchor, .new 8 "root" [3], .new 7 "other" [9]]⟩

/-- The anchors were added in this order. -/
def rootBetweenRun : TrustStore.system.Run .new rootBetween :=
  have first : TrustStore.system.Run .new ⟨[disabledAnchor]⟩ := .snoc .nil (.add _) rfl
  have second : TrustStore.system.Run .new ⟨[disabledAnchor, .new 8 "root" [3]]⟩ :=
    .snoc first (.add (.new 8 "root" [3])) rfl
  .snoc second (.add (.new 7 "other" [9])) rfl

theorem sameAnchor_iff_rootBetween :
    SameAnchor rootBetween ⟨true, 3, some 8⟩ ⟨true, 1, some 8⟩ := by
  have hchain : validateDerChain byteParser 5 [1] [2] [3] rootBetween =
      .ok ⟨true, 3, some 8⟩ := by
    decide
  have hleaf : validateLeaf 5 (.ofCertificate byteParser byteMetadata [1] 1) rootBetween
      (some (.dns "api.internal")) = .ok ⟨true, 1, some 8⟩ := by
    decide
  exact (sameAnchor_iff rootBetweenRun hchain hleaf).mpr ⟨_, rfl, rfl⟩

/-- A store to which another root was added before. -/
def otherFirst : TrustStore :=
  (TrustStore.new.after (.add (.new 7 "other" [9]))).after (.add (.new 8 "root" [3]))

theorem not_sameAnchor : ∃ result result',
    validateDerChain byteParser 5 [1] [2] [3] otherFirst = .ok result ∧
      validateLeaf 5 (.ofCertificate byteParser byteMetadata [1] 1) otherFirst
        (some (.dns "api.internal")) = .ok result' ∧
      ¬SameAnchor otherFirst result result' := by
  refine ⟨⟨true, 3, some 8⟩, ⟨true, 1, some 7⟩, by decide, by decide, ?_⟩
  have hanchors : otherFirst.anchors = [.new 7 "other" [9], .new 8 "root" [3]] := by decide
  rintro ⟨anchor, hanchor, anchor', hanchor', hid, hid', hbytes⟩
  rw [hanchors] at hanchor hanchor'
  simp only [List.mem_cons, List.not_mem_nil, or_false] at hanchor hanchor'
  rcases hanchor with rfl | rfl <;> rcases hanchor' with rfl | rfl
  · exact absurd hid (by decide)
  · exact absurd hid (by decide)
  · exact absurd hbytes (by decide)
  · exact absurd hid' (by decide)

end ChainValidator

end DaemonPki
