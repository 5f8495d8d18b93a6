import DaemonPki.Certificate.Issuance
import Mathlib.Tactic.SplitIfs

/-!
# Certificate authorities

The root and the intermediate authority (`daemon-pki-core/src/ca/root.rs`): how they are generated
and how they are loaded from two PEM texts. Key pairs, issuers and the signature are those of other
crates and are arguments, together with what is relied on: that a key or a certificate reads back
from its PEM text, and that a signature verifies.

The texts of the errors of those crates are left out.

## Main definitions

* `DaemonPki.CaCrates`: what is taken from the other crates, and `DaemonPki.CaCrates.Lawful`.
* `DaemonPki.CertificateAuthority`, with `certificatePem` and `privateKeyPem`.
* `DaemonPki.RootCa.generate`, `DaemonPki.RootCa.fromPem`, `DaemonPki.IntermediateCa.generate`,
  `DaemonPki.IntermediateCa.fromPem`.
* `DaemonPki.CertificateAuthority.Same`: the same certificate and key.

## Main results

* `DaemonPki.CertificateAuthority.fromPem_eq_ok`: what is loaded has the texts it was loaded from.
-/

namespace DaemonPki

open Foundation

/-- Whom an authority may certify. -/
inductive BasicConstraints
  | unconstrained
  | constrained (pathLength : ℕ)
  deriving DecidableEq, Repr

inductive CaKeyUsagePurpose
  | keyCertSign
  | crlSign
  deriving DecidableEq, Repr

/-- The certificate of an authority as it is handed to the signer. -/
structure CaParams where
  commonName : String
  isCa : BasicConstraints
  keyUsages : List CaKeyUsagePurpose
  useAuthorityKeyIdentifierExtension : Bool
  deriving DecidableEq, Repr

/-- Source: `root.rs`, lines 37–50 and 132–145. -/
def CaParams.new (commonName : String) (isCa : BasicConstraints) : CaParams where
  commonName := commonName
  isCa := isCa
  keyUsages := [.keyCertSign, .crlSign]
  useAuthorityKeyIdentifierExtension := true

/-- Source: `root.rs`, lines 14–21. -/
inductive CaError
  | crypto
  | configuration (reason : String)
  deriving DecidableEq, Repr

/-- What the authorities take from other crates: `Key` are key pairs, `Issuer` are issuers, which
have a key pair and a name. The argument `seed` is the randomness of a signature. -/
structure CaCrates (Key Issuer : Type) where
  /-- `KeyPair::serialize_pem`. -/
  serializePem : Key → String
  /-- `KeyPair::from_pem`. -/
  keyFromPem : String → Option Key
  /-- `Issuer::new`. -/
  newIssuer : CaParams → Key → Issuer
  /-- `Issuer::from_ca_cert_pem`. -/
  issuerFromCaCertPem : String → Key → Option Issuer
  /-- `Issuer::key`. -/
  key : Issuer → Key
  /-- `CertificateParams::self_signed`. -/
  selfSigned : (seed : ℕ) → CaParams → Key → Option Certificate
  /-- `CertificateParams::signed_by`: the certificate of a key, signed by an issuer. -/
  signedBy : (seed : ℕ) → CaParams → Key → Issuer → Option Certificate
  /-- The contents of a PEM text. -/
  parsePem : String → Option (List UInt8)
  /-- Whether the signature of the certificate with this encoding verifies under a key. -/
  verifies : List UInt8 → Key → Bool

/-- What is relied on: a key and a certificate read back from their PEM texts, which are not
blank, an issuer has the key it was made with, and a signature verifies under the key of the
issuer. -/
structure CaCrates.Lawful {Key Issuer : Type} (crates : CaCrates Key Issuer) : Prop where
  keyFromPem_serializePem : ∀ key, crates.keyFromPem (crates.serializePem key) = some key
  serializePem_not_blank : ∀ key, ¬ (Text.trim (crates.serializePem key).toList).isEmpty
  key_newIssuer : ∀ params key, crates.key (crates.newIssuer params key) = key
  key_issuerFromCaCertPem : ∀ {certificatePem key issuer},
    crates.issuerFromCaCertPem certificatePem key = some issuer → crates.key issuer = key
  parsePem_selfSigned : ∀ {seed params key certificate},
    crates.selfSigned seed params key = some certificate →
    crates.parsePem certificate.pem = some certificate.der
  parsePem_signedBy : ∀ {seed params key issuer certificate},
    crates.signedBy seed params key issuer = some certificate →
    crates.parsePem certificate.pem = some certificate.der
  verifies_signedBy : ∀ {seed params key issuer certificate},
    crates.signedBy seed params key issuer = some certificate →
    crates.verifies certificate.der (crates.key issuer) = true

/-- An authority. Source: `root.rs`, lines 23–27 and 116–120. -/
structure CertificateAuthority (Issuer : Type) where
  issuer : Issuer
  certificatePem : String
  certificateDer : List UInt8

/-- The root authority. -/
abbrev RootCa := CertificateAuthority

/-- The intermediate authority. -/
abbrev IntermediateCa := CertificateAuthority

variable {Key Issuer : Type}

/-- Source: `root.rs`, lines 111–113 and 208–210. -/
def CertificateAuthority.privateKeyPem (crates : CaCrates Key Issuer)
    (ca : CertificateAuthority Issuer) : String :=
  crates.serializePem (crates.key ca.issuer)

/-- Load an authority from its two texts; `name` is how the errors call it. -/
def CertificateAuthority.fromPem (crates : CaCrates Key Issuer) (name : String)
    (certificatePem privateKeyPem : String) : Except CaError (CertificateAuthority Issuer) :=
  if (Text.trim certificatePem.toList).isEmpty then
    .error (.configuration (name ++ " certificate is empty"))
  else if (Text.trim privateKeyPem.toList).isEmpty then
    .error (.configuration (name ++ " private key is empty"))
  else
    match crates.keyFromPem privateKeyPem with
    | none => .error .crypto
    | some key =>
      match crates.issuerFromCaCertPem certificatePem key with
      | none => .error .crypto
      | some issuer =>
        match crates.parsePem certificatePem with
        | none => .error .crypto
        | some certificateDer => .ok ⟨issuer, certificatePem, certificateDer⟩

/-- Generate a root authority with the key that was drawn. Source: `root.rs`, lines 30–67. -/
def RootCa.generate (crates : CaCrates Key Issuer) (key : Option Key) (seed : ℕ)
    (commonName : String) : Except CaError (RootCa Issuer) :=
  if (Text.trim commonName.toList).isEmpty then
    .error (.configuration "root CA common name cannot be empty")
  else
    let params := CaParams.new commonName .unconstrained
    match key with
    | none => .error .crypto
    | some key =>
      match crates.selfSigned seed params key with
      | none => .error .crypto
      | some certificate => .ok ⟨crates.newIssuer params key, certificate.pem, certificate.der⟩

/-- Source: `root.rs`, lines 69–101. -/
def RootCa.fromPem (crates : CaCrates Key Issuer) (certificatePem privateKeyPem : String) :
    Except CaError (RootCa Issuer) :=
  CertificateAuthority.fromPem crates "root CA" certificatePem privateKeyPem

/-- Generate an intermediate authority with the key that was drawn, signed by the root. Source:
`root.rs`, lines 123–164. -/
def IntermediateCa.generate (crates : CaCrates Key Issuer) (key : Option Key) (seed : ℕ)
    (root : RootCa Issuer) (commonName : String) : Except CaError (IntermediateCa Issuer) :=
  if (Text.trim commonName.toList).isEmpty then
    .error (.configuration "intermediate CA common name cannot be empty")
  else
    let params := CaParams.new commonName (.constrained 0)
    match key with
    | none => .error .crypto
    | some key =>
      match crates.signedBy seed params key root.issuer with
      | none => .error .crypto
      | some certificate => .ok ⟨crates.newIssuer params key, certificate.pem, certificate.der⟩

/-- Source: `root.rs`, lines 166–198. -/
def IntermediateCa.fromPem (crates : CaCrates Key Issuer) (certificatePem privateKeyPem : String) :
    Except CaError (IntermediateCa Issuer) :=
  CertificateAuthority.fromPem crates "intermediate CA" certificatePem privateKeyPem

/-! ### What is loaded and what is generated -/

/-- The same certificate and key. -/
def CertificateAuthority.Same (crates : CaCrates Key Issuer)
    (ca ca' : CertificateAuthority Issuer) : Prop :=
  ca.certificatePem = ca'.certificatePem ∧ ca.certificateDer = ca'.certificateDer ∧
    crates.key ca.issuer = crates.key ca'.issuer

/-- The text of a private key that is not taken for one: it is blank, or no key reads back from
it. -/
def CaCrates.RejectsKey (crates : CaCrates Key Issuer) (privateKeyPem : String) : Prop :=
  (Text.trim privateKeyPem.toList).isEmpty = true ∨ crates.keyFromPem privateKeyPem = none

theorem CaCrates.Lawful.not_rejectsKey {crates : CaCrates Key Issuer} (hlawful : crates.Lawful)
    (key : Key) : ¬ crates.RejectsKey (crates.serializePem key) := by
  rintro (hblank | hnone)
  · exact hlawful.serializePem_not_blank key hblank
  · rw [hlawful.keyFromPem_serializePem] at hnone
    cases hnone

namespace CertificateAuthority

variable {crates : CaCrates Key Issuer} {ca : CertificateAuthority Issuer}
  {name certificatePem privateKeyPem : String}

theorem Same.refl (ca : CertificateAuthority Issuer) : ca.Same crates ca := ⟨rfl, rfl, rfl⟩

/-- **What is loaded** has the texts it was loaded from. -/
theorem fromPem_eq_ok (hlawful : crates.Lawful)
    (h : fromPem crates name certificatePem privateKeyPem = .ok ca) :
    ca.certificatePem = certificatePem ∧ crates.parsePem certificatePem = some ca.certificateDer ∧
      crates.keyFromPem privateKeyPem = some (crates.key ca.issuer) := by
  rw [fromPem] at h
  split_ifs at h
  split at h
  · cases h
  next key hkey =>
    split at h
    · cases h
    next issuer hissuer =>
      split at h
      · cases h
      next der hder =>
        cases h
        exact ⟨rfl, hder, by rw [hkey, hlawful.key_issuerFromCaCertPem hissuer]⟩

/-- A text that is no key is not loaded. -/
theorem fromPem_of_rejectsKey (h : crates.RejectsKey privateKeyPem) :
    ∃ e, fromPem crates name certificatePem privateKeyPem = .error e := by
  rw [fromPem]
  split_ifs with hcertificate hkey
  · exact ⟨_, rfl⟩
  · exact ⟨_, rfl⟩
  · rw [h.resolve_left hkey]
    exact ⟨_, rfl⟩

end CertificateAuthority

variable {crates : CaCrates Key Issuer} {key : Option Key} {seed : ℕ} {commonName : String}

/-- A root authority that is generated has the key that was drawn. -/
theorem RootCa.generate_eq_ok {root : RootCa Issuer} (hlawful : crates.Lawful)
    (h : RootCa.generate crates key seed commonName = .ok root) :
    key = some (crates.key root.issuer) ∧
      crates.parsePem root.certificatePem = some root.certificateDer := by
  rw [RootCa.generate] at h
  split_ifs at h
  cases key with
  | none => cases h
  | some key =>
    simp only at h
    split at h
    · cases h
    next certificate hcertificate =>
      cases h
      exact ⟨by rw [hlawful.key_newIssuer], hlawful.parsePem_selfSigned hcertificate⟩

/-- An intermediate authority that is generated has the key that was drawn and the signature of
the root. -/
theorem IntermediateCa.generate_eq_ok {root : RootCa Issuer} {intermediate : IntermediateCa Issuer}
    (hlawful : crates.Lawful)
    (h : IntermediateCa.generate crates key seed root commonName = .ok intermediate) :
    key = some (crates.key intermediate.issuer) ∧
      crates.parsePem intermediate.certificatePem = some intermediate.certificateDer ∧
      crates.verifies intermediate.certificateDer (crates.key root.issuer) = true := by
  rw [IntermediateCa.generate] at h
  split_ifs at h
  cases key with
  | none => cases h
  | some key =>
    simp only at h
    split at h
    · cases h
    next certificate hcertificate =>
      cases h
      exact ⟨by rw [hlawful.key_newIssuer], hlawful.parsePem_signedBy hcertificate,
        hlawful.verifies_signedBy hcertificate⟩

end DaemonPki
