import DaemonPki.Api.Http
import DaemonPki.Api.IssuedRecords

/-!
# The identity of a client

What the TLS layer makes of the certificate that a client presents
(`daemon-pki-api/src/tls/identity.rs`). Its serial number becomes a text here as it does in the
issuance service, but from another view of the integer: the service writes the bytes of the number,
this function the octets in the certificate, where a zero comes first if the number would begin
with a sign bit.

## Main definitions

* `DaemonPki.PresentedCertificate`, `DaemonPki.IdentityCrates`.
* `DaemonPki.identityFromClientCertificate`.
* `DaemonPki.OneSpelling`: the serial number is written as in the record of the certificate.

## Main results

* `DaemonPki.serialInteger_of_identity`: the text stands for the serial number.
* `DaemonPki.oneSpelling_iff`: which serial numbers have one spelling.
-/

namespace DaemonPki

open Foundation

/-! ### The identity -/

/-- What is read from the certificate of a client: the common names of the subject, each a text if
it can be read as one, and the serial number, as a number and as the octets in the certificate. -/
structure PresentedCertificate where
  commonNames : List (Option String)
  serial : ℕ
  rawSerial : List UInt8
  deriving DecidableEq, Repr

/-- What the identity takes from other crates. -/
structure IdentityCrates where
  /-- `X509Certificate::from_der`. -/
  fromDer : List UInt8 → Option (List UInt8 × PresentedCertificate)
  /-- `Sha256::digest`. -/
  sha256 : List UInt8 → Vector UInt8 32

/-- What is relied on: the octets of a positive serial number are its encoding in DER. -/
structure IdentityCrates.Lawful (crates : IdentityCrates) : Prop where
  rawSerial_eq : ∀ {der rest parsed}, crates.fromDer der = some (rest, parsed) →
    0 < parsed.serial → parsed.rawSerial = derInteger parsed.serial

/-- Source: `tls/identity.rs`, lines 14–57. -/
def identityFromClientCertificate (crates : IdentityCrates) (certificate : List UInt8) :
    Except String MtlsIdentity :=
  match crates.fromDer certificate with
  | none => .error "failed to parse client certificate"
  | some (_, parsed) =>
    let name := (parsed.commonNames.head?.bind id).getD "unknown-mtls-client"
    let serialNumber := String.ofList (lowerHex parsed.rawSerial)
    let fingerprint := (crates.sha256 certificate).toList
    let fingerprintSha256 := String.ofList (lowerHex fingerprint)
    let id := BitVec.ofNat 128 (ofBytesBe (fingerprint.take 16))
    .ok ⟨id, name, serialNumber, fingerprintSha256⟩

/-! ### Texts and records -/

theorem Records.isRevokedSerial_iff {records : Records} {order : records.Order}
    {serialNumber : String} : records.isRevokedSerial order serialNumber = true ↔
      ∃ id record, records.lookup id = some record ∧ record.serialNumber = serialNumber ∧
        record.revoked = true := by
  simp only [isRevokedSerial, List.any_eq_true, HashMap.Order.mem_values, Bool.and_eq_true,
    decide_eq_true_eq]
  constructor
  · rintro ⟨record, ⟨id, hrecord⟩, h⟩
    exact ⟨id, record, hrecord, h⟩
  · rintro ⟨id, record, hrecord, h⟩
    exact ⟨record, ⟨id, hrecord⟩, h⟩

/-! ### Spellings of a serial number -/

/-- The identity of a client has the serial number as the record of its certificate has it, and
the store finds the certificate by it when the record is revoked. -/
def OneSpelling (crates : IdentityCrates) (der : List UInt8) (serial : ℕ) : Prop :=
  ∀ identity, identityFromClientCertificate crates der = .ok identity →
    identity.serialNumber = serialText serial ∧
      ∀ (records : Records) (order : records.Order) id record, records.lookup id = some record →
        record.Issued serial → record.revoked = true →
          records.isRevokedSerial order identity.serialNumber = true

variable {crates : IdentityCrates} {der rest : List UInt8} {parsed : PresentedCertificate}

/-- The serial number of the identity is the text of its encoding. -/
theorem serialNumber_of_identity (hlawful : crates.Lawful)
    (hparse : crates.fromDer der = some (rest, parsed)) (hpositive : 0 < parsed.serial)
    {identity : MtlsIdentity} (h : identityFromClientCertificate crates der = .ok identity) :
    identity.serialNumber = String.ofList (lowerHex (derInteger parsed.serial)) := by
  rw [identityFromClientCertificate, hparse] at h
  rw [← Except.ok.inj h, hlawful.rawSerial_eq hparse hpositive]

/-- **The number of the identity** is that of the certificate, with the sign octet or without. -/
theorem serialInteger_of_identity (hlawful : crates.Lawful)
    (hparse : crates.fromDer der = some (rest, parsed)) (hpositive : 0 < parsed.serial)
    {identity : MtlsIdentity} (h : identityFromClientCertificate crates der = .ok identity) :
    serialInteger identity.serialNumber = some parsed.serial := by
  rw [serialNumber_of_identity hlawful hparse hpositive h,
    serialInteger_lowerHex (derInteger_ne_nil _), ofBytesBe_derInteger]

/-- It is the text of a number exactly when the encoding is the bytes of that number. -/
theorem serialNumber_eq_serialText_iff (hlawful : crates.Lawful)
    (hparse : crates.fromDer der = some (rest, parsed)) (hpositive : 0 < parsed.serial)
    {identity : MtlsIdentity} (h : identityFromClientCertificate crates der = .ok identity)
    {n : ℕ} : identity.serialNumber = serialText n ↔ derInteger parsed.serial = toBytesBe n := by
  rw [serialNumber_of_identity hlawful hparse hpositive h, serialText, String.ofList_inj,
    lowerHex_injective.eq_iff]

/-- By the serial number of an identity whose encoding has a sign octet, no store of issued
certificates finds a revocation. -/
theorem isRevokedSerial_of_topBit (hlawful : crates.Lawful)
    (hparse : crates.fromDer der = some (rest, parsed)) (hpositive : 0 < parsed.serial)
    (htop : topBit (toBytesBe parsed.serial) = true) {identity : MtlsIdentity}
    (hidentity : identityFromClientCertificate crates der = .ok identity) {records : Records}
    (order : records.Order) {serials : Uuid → ℕ} (hissued : records.Issued serials)
    (hserials : ∀ id, 0 < serials id) :
    records.isRevokedSerial order identity.serialNumber = false := by
  refine Bool.eq_false_iff.mpr fun hrevoked => ?_
  obtain ⟨id, record, hrecord, hserial, -⟩ := Records.isRevokedSerial_iff.mp hrevoked
  rw [(hissued id record hrecord).serialNumber_eq] at hserial
  have hsame :=
    (serialNumber_eq_serialText_iff hlawful hparse hpositive hidentity).mp hserial.symm
  exact derInteger_ne_toBytesBe htop (hserials id).ne' hsame

/-- **Which serial numbers have one spelling**: those whose bytes do not begin with a sign bit.
By the identity of a client with any other, no store of issued certificates finds a revocation. -/
theorem oneSpelling_iff (hlawful : crates.Lawful)
    (hparse : crates.fromDer der = some (rest, parsed)) (hpositive : 0 < parsed.serial) :
    (OneSpelling crates der parsed.serial ↔ topBit (toBytesBe parsed.serial) = false) ∧
      (topBit (toBytesBe parsed.serial) = true →
        ∀ identity, identityFromClientCertificate crates der = .ok identity →
          ∀ (records : Records) (order : records.Order) (serials : Uuid → ℕ),
            records.Issued serials → (∀ id, 0 < serials id) →
              records.isRevokedSerial order identity.serialNumber = false) := by
  refine ⟨⟨fun h => ?_, fun htop identity hidentity => ?_⟩, ?_⟩
  · have hidentity : ∃ identity, identityFromClientCertificate crates der = .ok identity := by
      rw [identityFromClientCertificate, hparse]
      exact ⟨_, rfl⟩
    obtain ⟨identity, hidentity⟩ := hidentity
    have hsame := (serialNumber_eq_serialText_iff hlawful hparse hpositive hidentity).mp
      (h identity hidentity).1
    exact derInteger_eq_toBytesBe_iff.mp hsame
  · have hsame : identity.serialNumber = serialText parsed.serial :=
      (serialNumber_eq_serialText_iff hlawful hparse hpositive hidentity).mpr
        (derInteger_eq_toBytesBe_iff.mpr htop)
    refine ⟨hsame, fun records order id record hrecord hissued hrevoked => ?_⟩
    have hserial : record.serialNumber = identity.serialNumber :=
      hissued.serialNumber_eq.trans hsame.symm
    exact Records.isRevokedSerial_iff.mpr ⟨id, record, hrecord, hserial, hrevoked⟩
  · intro htop identity hidentity records order serials hissued hserials
    exact isRevokedSerial_of_topBit hlawful hparse hpositive htop hidentity order hissued hserials

/-- Crates for which the bytes of a serial number are a certificate with it. -/
def serialCrates : IdentityCrates where
  fromDer bytes := some ([], ⟨[some "workload"], ofBytesBe bytes, derInteger (ofBytesBe bytes)⟩)
  sha256 _ := .replicate 32 0

theorem serialCrates_lawful : serialCrates.Lawful where
  rawSerial_eq h _ := by
    cases h
    rfl

/-- The serial number 10 has one spelling. -/
theorem oneSpelling_iff_ten : OneSpelling serialCrates [0x0a] 10 := by
  have hparse : serialCrates.fromDer [0x0a] =
      some ([], ⟨[some "workload"], 10, derInteger 10⟩) := rfl
  exact (oneSpelling_iff serialCrates_lawful hparse (by decide)).1.mpr (by decide)

/-- The serial number 128 is written `0080` in the identity and `80` in the record. -/
theorem not_oneSpelling : ¬OneSpelling serialCrates [0x80] 128 := by
  intro h
  have hspelling := (h _ rfl).1
  revert hspelling
  decide

end DaemonPki
