import DaemonPki.Foundation.Checks
import DaemonPki.Validation.Trust

/-!
# The validation of a certificate chain

The validator of a chain of three certificates, root, intermediate and leaf
(`daemon-pki-core/src/validation/chain.rs` and `certificate.rs`). The parser of certificates and
the verification of their signatures are those of another crate and are arguments.

The checks are made one after the other and the first that fails decides the error. Which error
that is depends on their order; whether the chain is accepted does not, and neither does it depend
on how many anchors carry the bytes of the root, nor on the order in which they were added.

## Main definitions

* `DaemonPki.CertificateValidity.validate`.
* `DaemonPki.X509Parser`: the crate that parses and verifies certificates.
* `DaemonPki.ChainValidator.validateDerChain`,
  `DaemonPki.ChainValidator.validateDerChainWithRevocation`.
* `DaemonPki.ChainValidator.Acceptable`: what is asked of the three certificates.

## Main results

* `DaemonPki.ChainValidator.validateDerChain_eq_ok_iff`: when a chain is accepted.
* `DaemonPki.ChainValidator.validateDerChain_of_run`: the same, in terms of the anchors added and
  not since removed.
-/

namespace DaemonPki

open Foundation

/-- Source: `certificate.rs`, lines 5–31. -/
inductive CertificateValidationError
  | notYetValid
  | expired
  | notACa
  | missingKeyUsage
  | missingExtendedKeyUsage
  | identityMismatch
  | missingIdentity
  | revoked
  deriving DecidableEq, Repr

/-- Source: `certificate.rs`, lines 63–67. -/
structure CertificateValidity where
  notBefore : OffsetDateTime
  notAfter : OffsetDateTime
  deriving DecidableEq, Repr

/-- Source: `certificate.rs`, lines 70–83. -/
def CertificateValidity.validate (validity : CertificateValidity) (now : OffsetDateTime) :
    Except CertificateValidationError Unit :=
  if now < validity.notBefore then .error .notYetValid
  else if validity.notAfter < now then .error .expired
  else .ok ()

theorem CertificateValidity.validate_eq_ok_iff {validity : CertificateValidity}
    {now : OffsetDateTime} {u : Unit} :
    validity.validate now = .ok u ↔ validity.notBefore ≤ now ∧ now ≤ validity.notAfter := by
  rw [validate, ← Int.not_lt, ← Int.not_lt]
  split_ifs <;> simp [*]

/-- Source: `chain.rs`, lines 46–81. -/
inductive ChainValidationError
  | certificate (error : CertificateValidationError)
  | noTrustAnchor
  | emptyChain
  | invalidIssuer
  | invalidCaUsage
  | leafIsCa
  | identityMismatch
  | revoked
  | invalidCertificate
  | invalidSignature
  | unsupportedSignatureAlgorithm
  deriving DecidableEq, Repr

/-- Source: `chain.rs`, lines 38–44. -/
structure ValidationResult where
  trusted : Bool
  chainDepth : ℕ
  trustAnchorId : Option Uuid
  deriving DecidableEq, Repr

/-- The key usages that the validator asks for. -/
structure KeyUsage where
  digitalSignature : Bool
  keyCertSign : Bool
  deriving DecidableEq, Repr

/-- What the validator takes from the crate that parses certificates: `Cert` are parsed
certificates, `Name` the names in them and `Key` public keys. -/
structure X509Parser (Cert Name Key : Type) where
  /-- The certificate at the beginning of the bytes, and the bytes after it. -/
  parse : List UInt8 → Option (List UInt8 × Cert)
  issuer : Cert → Name
  subject : Cert → Name
  isCa : Cert → Bool
  /-- The key usage extension, if there is one; `none` when it cannot be read. -/
  keyUsage : Cert → Option (Option KeyUsage)
  publicKey : Cert → Key
  /-- Whether the signature verifies under a key; without one, under the certificate's own. -/
  verifySignature : Cert → Option Key → Bool
  validity : Cert → CertificateValidity

namespace ChainValidator

variable {Cert Name Key : Type} [DecidableEq Name]

/-- The key usage extension can be read, is there and has the usage. Source: `chain.rs`,
lines 239–248, 250–259 and 322–333. -/
def requireUsage (x509 : X509Parser Cert Name Key) (usage : KeyUsage → Bool)
    (error : ChainValidationError) (certificate : Cert) : Except ChainValidationError Unit := do
  let keyUsage ← okOr .invalidCertificate (x509.keyUsage certificate)
  require ((keyUsage.map usage).getD false = true) error

/-- Source: `chain.rs`, lines 291–310. -/
def requireValid (now : OffsetDateTime) (validity : CertificateValidity) :
    Except ChainValidationError Unit :=
  (validity.validate now).mapError .certificate

/-- Source: `chain.rs`, lines 180–340. -/
def validateDerChain (x509 : X509Parser Cert Name Key) (now : OffsetDateTime)
    (leafDer intermediateDer rootDer : List UInt8) (trustStore : TrustStore) :
    Except ChainValidationError ValidationResult := do
  require (¬(leafDer = [] ∨ intermediateDer = [] ∨ rootDer = [])) .emptyChain
  let (_, leaf) ← okOr .invalidCertificate (x509.parse leafDer)
  let (_, intermediate) ← okOr .invalidCertificate (x509.parse intermediateDer)
  let (_, root) ← okOr .invalidCertificate (x509.parse rootDer)
  let anchor ← okOr .noTrustAnchor
    (trustStore.enabled.find? fun candidate => candidate.certificateDer = rootDer)
  require (x509.issuer leaf = x509.subject intermediate) .invalidIssuer
  require (x509.issuer intermediate = x509.subject root) .invalidIssuer
  require (x509.isCa intermediate = true) (.certificate .notACa)
  require (x509.isCa root = true) (.certificate .notACa)
  requireUsage x509 KeyUsage.keyCertSign .invalidCaUsage intermediate
  requireUsage x509 KeyUsage.keyCertSign .invalidCaUsage root
  require (x509.verifySignature leaf (some (x509.publicKey intermediate)) = true)
    .invalidSignature
  require (x509.verifySignature intermediate (some (x509.publicKey root)) = true)
    .invalidSignature
  require (x509.verifySignature root none = true) .invalidSignature
  requireValid now (x509.validity leaf)
  requireValid now (x509.validity intermediate)
  requireValid now (x509.validity root)
  require (x509.isCa leaf = false) .leafIsCa
  requireUsage x509 KeyUsage.digitalSignature (.certificate .missingKeyUsage) leaf
  return { trusted := true, chainDepth := 3, trustAnchorId := some anchor.id }

/-- Source: `chain.rs`, lines 152–169. -/
def validateDerChainWithRevocation (x509 : X509Parser Cert Name Key) (now : OffsetDateTime)
    (leafDer intermediateDer rootDer : List UInt8) (trustStore : TrustStore)
    (leafRevoked : Bool) : Except ChainValidationError ValidationResult :=
  if leafRevoked then .error .revoked
  else validateDerChain x509 now leafDer intermediateDer rootDer trustStore

/-! ### When a chain is accepted -/

/-- The certificate has a key usage extension, which can be read and has the usage. -/
def HasUsage (x509 : X509Parser Cert Name Key) (usage : KeyUsage → Bool) (certificate : Cert) :
    Prop :=
  ∃ keyUsage, x509.keyUsage certificate = some (some keyUsage) ∧ usage keyUsage = true

/-- What is asked of the three certificates of a chain. -/
structure Acceptable (x509 : X509Parser Cert Name Key) (now : OffsetDateTime)
    (leaf intermediate root : Cert) : Prop where
  leaf_issuer : x509.issuer leaf = x509.subject intermediate
  intermediate_issuer : x509.issuer intermediate = x509.subject root
  intermediate_isCa : x509.isCa intermediate = true
  root_isCa : x509.isCa root = true
  intermediate_usage : HasUsage x509 KeyUsage.keyCertSign intermediate
  root_usage : HasUsage x509 KeyUsage.keyCertSign root
  leaf_signature : x509.verifySignature leaf (some (x509.publicKey intermediate)) = true
  intermediate_signature : x509.verifySignature intermediate (some (x509.publicKey root)) = true
  root_signature : x509.verifySignature root none = true
  valid : ∀ certificate, certificate = leaf ∨ certificate = intermediate ∨ certificate = root →
    (x509.validity certificate).notBefore ≤ now ∧ now ≤ (x509.validity certificate).notAfter
  leaf_not_isCa : x509.isCa leaf = false
  leaf_usage : HasUsage x509 KeyUsage.digitalSignature leaf

variable {x509 : X509Parser Cert Name Key} {now : OffsetDateTime}
  {leafDer intermediateDer rootDer : List UInt8} {trustStore : TrustStore}

omit [DecidableEq Name] in
theorem requireUsage_eq_ok_iff {usage : KeyUsage → Bool} {error : ChainValidationError}
    {certificate : Cert} {u : Unit} :
    requireUsage x509 usage error certificate = .ok u ↔ HasUsage x509 usage certificate := by
  rw [requireUsage, bind_eq_ok_iff, HasUsage]
  simp only [okOr_eq_ok_iff, require_eq_ok_iff]
  refine ⟨fun ⟨keyUsage, hread, husage⟩ => ?_, fun ⟨keyUsage, hread, husage⟩ => ?_⟩
  · cases keyUsage with
    | none => cases husage
    | some keyUsage => exact ⟨keyUsage, hread, husage⟩
  · exact ⟨some keyUsage, hread, husage⟩

theorem requireValid_eq_ok_iff {validity : CertificateValidity} {u : Unit} :
    requireValid now validity = .ok u ↔ validity.notBefore ≤ now ∧ now ≤ validity.notAfter := by
  rw [requireValid, mapError_eq_ok_iff, CertificateValidity.validate_eq_ok_iff]

/-- The anchor that is found is enabled and has the bytes of the root. -/
theorem find_enabled {anchor : TrustAnchor} (h : (trustStore.enabled.find? fun candidate =>
      candidate.certificateDer = rootDer) = some anchor) :
    anchor ∈ trustStore.anchors ∧ anchor.enabled = true ∧ anchor.certificateDer = rootDer := by
  obtain ⟨hmem, henabled⟩ := TrustStore.mem_enabled.mp (List.mem_of_find?_eq_some h)
  exact ⟨hmem, henabled, by simpa using List.find?_some h⟩

/-- The bytes begin with the encoding of the certificate. -/
def Parses (x509 : X509Parser Cert Name Key) (der : List UInt8) (certificate : Cert) : Prop :=
  ∃ rest, x509.parse der = some (rest, certificate)

omit [DecidableEq Name] in
theorem Parses.unique {der : List UInt8} {certificate certificate' : Cert}
    (h : Parses x509 der certificate) (h' : Parses x509 der certificate') :
    certificate = certificate' := by
  obtain ⟨rest, hrest⟩ := h
  obtain ⟨rest', hrest'⟩ := h'
  rw [hrest] at hrest'
  exact (Prod.mk.inj (Option.some.inj hrest')).2

/-- **When a chain is accepted**, and with which result. -/
theorem validateDerChain_eq_ok_iff {result : ValidationResult} :
    validateDerChain x509 now leafDer intermediateDer rootDer trustStore = .ok result ↔
      (leafDer ≠ [] ∧ intermediateDer ≠ [] ∧ rootDer ≠ []) ∧
        (∃ leaf intermediate root, Parses x509 leafDer leaf ∧
          Parses x509 intermediateDer intermediate ∧ Parses x509 rootDer root ∧
          Acceptable x509 now leaf intermediate root) ∧
        ∃ anchor, (trustStore.enabled.find? fun candidate =>
            candidate.certificateDer = rootDer) = some anchor ∧
          result = ⟨true, 3, some anchor.id⟩ := by
  have hnonempty : ¬(leafDer = [] ∨ intermediateDer = [] ∨ rootDer = []) ↔
      leafDer ≠ [] ∧ intermediateDer ≠ [] ∧ rootDer ≠ [] := by
    simp only [not_or, ne_eq]
  simp only [validateDerChain, bind_eq_ok_iff, okOr_eq_ok_iff, require_eq_ok_iff,
    requireUsage_eq_ok_iff, requireValid_eq_ok_iff, Prod.exists, exists_and_left, exists_const,
    hnonempty]
  refine and_congr_right fun _ => ⟨?_, ?_⟩
  · rintro ⟨_, leaf, hleaf, _, intermediate, hintermediate, _, root, hroot, anchor, hanchor,
      hissuer, hissuer', hca, hca', husage, husage', hsignature, hsignature', hself, hvalid,
      hvalid', hvalid'', hleafCa, hleafUsage, hresult⟩
    refine ⟨⟨leaf, ⟨_, hleaf⟩, intermediate, ⟨_, hintermediate⟩, root, ⟨_, hroot⟩,
      ⟨hissuer, hissuer', hca, hca', husage, husage', hsignature, hsignature', hself, ?_, hleafCa,
        hleafUsage⟩⟩, anchor, hanchor, (Except.ok.inj hresult).symm⟩
    rintro certificate (rfl | rfl | rfl)
    · exact hvalid
    · exact hvalid'
    · exact hvalid''
  · rintro ⟨⟨leaf, ⟨_, hleaf⟩, intermediate, ⟨_, hintermediate⟩, root, ⟨_, hroot⟩, h⟩, anchor,
      hanchor, rfl⟩
    exact ⟨_, leaf, hleaf, _, intermediate, hintermediate, _, root, hroot, anchor, hanchor,
      h.leaf_issuer, h.intermediate_issuer, h.intermediate_isCa, h.root_isCa,
      h.intermediate_usage, h.root_usage, h.leaf_signature, h.intermediate_signature,
      h.root_signature, h.valid _ (Or.inl rfl), h.valid _ (Or.inr (Or.inl rfl)),
      h.valid _ (Or.inr (Or.inr rfl)), h.leaf_not_isCa, h.leaf_usage, rfl⟩

/-- With the revocation status of the leaf the same chains are accepted, unless it is revoked. -/
theorem validateDerChainWithRevocation_eq_ok_iff {leafRevoked : Bool} {result : ValidationResult} :
    validateDerChainWithRevocation x509 now leafDer intermediateDer rootDer trustStore leafRevoked =
        .ok result ↔
      leafRevoked = false ∧
        validateDerChain x509 now leafDer intermediateDer rootDer trustStore = .ok result := by
  cases leafRevoked <;> simp [validateDerChainWithRevocation]

/-- An anchor with the bytes of the root is found exactly when an enabled one has them. -/
theorem exists_find_enabled_iff :
    (∃ anchor, (trustStore.enabled.find? fun candidate =>
        candidate.certificateDer = rootDer) = some anchor) ↔
      ∃ anchor ∈ trustStore.anchors, anchor.enabled = true ∧ anchor.certificateDer = rootDer := by
  rw [← Option.isSome_iff_exists, List.find?_isSome]
  simp only [TrustStore.mem_enabled, decide_eq_true_eq, and_assoc]

/-- A chain is accepted. -/
def Accepts (x509 : X509Parser Cert Name Key) (now : OffsetDateTime)
    (leafDer intermediateDer rootDer : List UInt8) (trustStore : TrustStore) : Prop :=
  ∃ result, validateDerChain x509 now leafDer intermediateDer rootDer trustStore = .ok result

/-- Whether a chain is accepted depends on the store only in that an enabled anchor has the bytes
of the root. -/
theorem accepts_iff : Accepts x509 now leafDer intermediateDer rootDer trustStore ↔
    (leafDer ≠ [] ∧ intermediateDer ≠ [] ∧ rootDer ≠ []) ∧
      (∃ leaf intermediate root, Parses x509 leafDer leaf ∧
        Parses x509 intermediateDer intermediate ∧ Parses x509 rootDer root ∧
        Acceptable x509 now leaf intermediate root) ∧
      ∃ anchor ∈ trustStore.anchors, anchor.enabled = true ∧ anchor.certificateDer = rootDer := by
  rw [← exists_find_enabled_iff]
  simp only [Accepts, validateDerChain_eq_ok_iff]
  refine ⟨fun ⟨_, hnonempty, hchain, anchor, hanchor, _⟩ => ⟨hnonempty, hchain, anchor, hanchor⟩,
    fun ⟨hnonempty, hchain, anchor, hanchor⟩ => ⟨_, hnonempty, hchain, anchor, hanchor, rfl⟩⟩

/-- **Chain validation, relative to the current trust store.** For every store that a run of `add`
and `remove` reaches: a chain is accepted exactly when its three inputs are not empty and parse to
acceptable certificates, and an anchor that was added and not since removed is enabled and has the
bytes of the root. The anchor that is reported is such an anchor; anchor identifiers are unique;
and stores whose enabled anchors have the same bytes accept the same chains. -/
theorem validateDerChain_of_run (x509 : X509Parser Cert Name Key)
    (run : TrustStore.system.Run .new trustStore) (leafDer intermediateDer rootDer : List UInt8)
    (now : OffsetDateTime) :
    (Accepts x509 now leafDer intermediateDer rootDer trustStore ↔
      (leafDer ≠ [] ∧ intermediateDer ≠ [] ∧ rootDer ≠ []) ∧
        (∃ leaf intermediate root, Parses x509 leafDer leaf ∧
          Parses x509 intermediateDer intermediate ∧ Parses x509 rootDer root ∧
          Acceptable x509 now leaf intermediate root) ∧
        ∃ anchor, TrustStore.Registered anchor run ∧ anchor.enabled = true ∧
          anchor.certificateDer = rootDer) ∧
      (∀ result, validateDerChain x509 now leafDer intermediateDer rootDer trustStore =
          .ok result →
        ∃ anchor, TrustStore.Registered anchor run ∧ anchor.enabled = true ∧
          anchor.certificateDer = rootDer ∧ result.trustAnchorId = some anchor.id) ∧
      trustStore.UniqueIds ∧
      ∀ trustStore' (run' : TrustStore.system.Run .new trustStore'),
        (∀ der, (∃ anchor, TrustStore.Registered anchor run ∧ anchor.enabled = true ∧
            anchor.certificateDer = der) ↔
          ∃ anchor, TrustStore.Registered anchor run' ∧ anchor.enabled = true ∧
            anchor.certificateDer = der) →
        (Accepts x509 now leafDer intermediateDer rootDer trustStore ↔
          Accepts x509 now leafDer intermediateDer rootDer trustStore') := by
  simp only [accepts_iff, ← TrustStore.mem_anchors_iff_registered]
  refine ⟨trivial, fun result h => ?_, TrustStore.uniqueIds_of_run run, fun store' run' h => ?_⟩
  · obtain ⟨-, -, anchor, hanchor, rfl⟩ := validateDerChain_eq_ok_iff.mp h
    obtain ⟨hmem, henabled, hder⟩ := find_enabled hanchor
    exact ⟨anchor, hmem, henabled, hder, rfl⟩
  · rw [h rootDer]

/-- A parser for which one byte is a certificate: `1` a leaf, every other byte a CA. -/
def byteParser : X509Parser UInt8 Unit Unit where
  parse
    | [] => none
    | byte :: rest => some (rest, byte)
  issuer _ := ()
  subject _ := ()
  isCa byte := byte ≠ 1
  keyUsage byte := some (some ⟨byte = 1, byte ≠ 1⟩)
  publicKey _ := ()
  verifySignature _ _ := true
  validity _ := ⟨0, 10⟩

/-- Of two anchors with the bytes of the root, the one that is disabled is passed over. -/
example : validateDerChain byteParser 5 [1] [2] [3]
    ⟨[⟨7, "old", [3], false⟩, .new 8 "root" [3]]⟩ = .ok ⟨true, 3, some 8⟩ := by
  rfl

end ChainValidator

end DaemonPki
