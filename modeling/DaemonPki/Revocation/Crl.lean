import DaemonPki.Certificate.Metadata
import DaemonPki.Foundation.Text
import Mathlib.Data.List.Forall2

/-!
# Certificate revocation lists

The revocation list that is built from the revoked certificates and signed
(`daemon-pki-core/src/revocation/crl.rs` and `status.rs`).

A serial number is kept as text and is decoded, two hexadecimal digits for each byte, when the
list is signed. The decoder slices the text at byte offsets, which panics inside a character, so
its result says whether it returns at all. The signature and the encoding are those of another
crate: a signed list is the list of parameters handed to it, and whether the signer succeeds is
an argument.

## Main definitions

* `DaemonPki.Outcome`: the result of a call that may panic.
* `DaemonPki.hexToBytes`.
* `DaemonPki.CertificateRevocationList` with `new`, `addRecord`, `containsSerial` and
  `signedDer`; `DaemonPki.CertificateRevocationListParams`.

## Main results

* `DaemonPki.CertificateRevocationList.mem_serials_of_signedDer`: the serial numbers of a signed
  list are those of its entries.
-/

namespace DaemonPki

open Foundation

/-- The result of a call that may panic. -/
inductive Outcome (α : Type*)
  | returned (value : α)
  | panicked
  deriving DecidableEq, Repr

/-- Source: `status.rs`, lines 8–20. -/
inductive RevocationReason
  | unspecified
  | keyCompromise
  | caCompromise
  | affiliationChanged
  | superseded
  | cessationOfOperation
  | certificateHold
  | removeFromCrl
  | privilegeWithdrawn
  | aaCompromise
  deriving DecidableEq, Repr

/-- Source: `status.rs`, lines 43–52. -/
structure RevocationRecord where
  certificateId : Uuid
  serialNumber : String
  reason : RevocationReason
  revokedAt : OffsetDateTime
  revokedBy : Uuid
  invalidityDate : Option OffsetDateTime
  comment : Option String
  deriving DecidableEq, Repr

/-- Source: `crl.rs`, lines 26–31. -/
structure CrlEntry where
  serialNumber : String
  reason : RevocationReason
  revokedAt : OffsetDateTime
  deriving DecidableEq, Repr

/-- Source: `crl.rs`, lines 33–40. -/
structure CertificateRevocationList where
  id : Uuid
  issuer : String
  generatedAt : OffsetDateTime
  nextUpdate : OffsetDateTime
  entries : List CrlEntry
  deriving DecidableEq, Repr

/-- Source: `crl.rs`, lines 17–24. -/
inductive CrlError
  | generation
  | invalidSerialNumber
  deriving DecidableEq, Repr

/-- The reason codes of the signing crate. -/
inductive RcgenRevocationReason
  | unspecified
  | keyCompromise
  | caCompromise
  | affiliationChanged
  | superseded
  | cessationOfOperation
  | certificateHold
  | removeFromCrl
  | privilegeWithdrawn
  | aaCompromise
  deriving DecidableEq, Repr

/-- One revoked certificate as it is handed to the signer, its serial number in bytes. -/
structure RevokedCertParams where
  serialNumber : List UInt8
  revocationTime : OffsetDateTime
  reasonCode : Option RcgenRevocationReason
  invalidityDate : Option OffsetDateTime
  deriving DecidableEq, Repr

/-- A revocation list as it is handed to the signer. -/
structure CertificateRevocationListParams where
  thisUpdate : OffsetDateTime
  nextUpdate : OffsetDateTime
  crlNumber : ℕ
  revokedCerts : List RevokedCertParams
  deriving DecidableEq, Repr

/-- The serial numbers of a revocation list. -/
def CertificateRevocationListParams.serials (params : CertificateRevocationListParams) :
    List (List UInt8) :=
  params.revokedCerts.map fun cert => cert.serialNumber

/-- Source: `crl.rs`, lines 119–152. -/
def mapReason : RevocationReason → RcgenRevocationReason
  | .unspecified => .unspecified
  | .keyCompromise => .keyCompromise
  | .caCompromise => .caCompromise
  | .affiliationChanged => .affiliationChanged
  | .superseded => .superseded
  | .cessationOfOperation => .cessationOfOperation
  | .certificateHold => .certificateHold
  | .removeFromCrl => .removeFromCrl
  | .privilegeWithdrawn => .privilegeWithdrawn
  | .aaCompromise => .aaCompromise

/-! ### Serial numbers -/

/-- The loop of `hex_to_bytes` over the bytes that remain: it stops at the first pair that is
not a number, and panics at a pair that does not begin and end between two characters. -/
def hexPairs : List UInt8 → Outcome (Option (List UInt8))
  | [] => .returned (some [])
  | [_] => .returned none
  | high :: low :: rest =>
    if !Text.isCharBoundary (high :: low :: rest) || !Text.isCharBoundary rest then .panicked
    else
      match Text.fromStrRadix 16 256 [high, low] with
      | none => .returned none
      | some byte =>
        match hexPairs rest with
        | .returned (some bytes) => .returned (some (UInt8.ofNat byte :: bytes))
        | .returned none => .returned none
        | .panicked => .panicked

/-- Source: `crl.rs`, lines 154–169. -/
def hexToBytes (value : String) : Outcome (Option (List UInt8)) :=
  let bytes := Text.utf8 value.toList
  if bytes.isEmpty || bytes.length % 2 ≠ 0 then .returned none else hexPairs bytes

namespace CertificateRevocationList

/-! ### Building and signing a list -/

/-- A new list, with the identifier and the clock reading drawn by the call. Source: `crl.rs`,
lines 43–54. -/
def new (id : Uuid) (now : OffsetDateTime) (issuer : String) (nextUpdate : OffsetDateTime) :
    CertificateRevocationList where
  id := id
  issuer := issuer
  generatedAt := now
  nextUpdate := nextUpdate
  entries := []

/-- Source: `crl.rs`, lines 56–65. -/
def addRecord (crl : CertificateRevocationList) (record : RevocationRecord) :
    CertificateRevocationList :=
  { crl with entries := crl.entries ++
      [{ serialNumber := record.serialNumber
         reason := record.reason
         revokedAt := record.revokedAt }] }

/-- Source: `crl.rs`, lines 75–82. -/
def containsSerial (crl : CertificateRevocationList) (serialNumber : String) : Bool :=
  crl.entries.any fun entry => entry.serialNumber = serialNumber

/-- The loop of `signed_der` over the entries. Source: `crl.rs`, lines 91–102. -/
def revokedCertParams :
    List CrlEntry → Outcome (Except CrlError (List RevokedCertParams))
  | [] => .returned (.ok [])
  | entry :: entries =>
    match hexToBytes entry.serialNumber with
    | .panicked => .panicked
    | .returned none => .returned (.error .invalidSerialNumber)
    | .returned (some serialBytes) =>
      match revokedCertParams entries with
      | .returned (.ok certs) => .returned (.ok
          ({ serialNumber := serialBytes
             revocationTime := entry.revokedAt
             reasonCode := some (mapReason entry.reason)
             invalidityDate := none } :: certs))
      | failed => failed

/-- Sign a list; `signs` says whether the signer succeeds. Source: `crl.rs`, lines 84–116. -/
def signedDer (crl : CertificateRevocationList) (crlNumber : ℕ) (signs : Bool) :
    Outcome (Except CrlError CertificateRevocationListParams) :=
  match revokedCertParams crl.entries with
  | .panicked => .panicked
  | .returned (.error e) => .returned (.error e)
  | .returned (.ok certs) =>
    if signs then .returned (.ok
      { thisUpdate := crl.generatedAt
        nextUpdate := crl.nextUpdate
        crlNumber := crlNumber
        revokedCerts := certs })
    else .returned (.error .generation)

variable {entries : List CrlEntry} {certs : List RevokedCertParams}

/-- The certificate is handed to the signer for the entry. -/
structure HandedAs (entry : CrlEntry) (cert : RevokedCertParams) : Prop where
  serialNumber : hexToBytes entry.serialNumber = .returned (some cert.serialNumber)
  revocationTime : cert.revocationTime = entry.revokedAt
  reasonCode : cert.reasonCode = some (mapReason entry.reason)

/-- When the loop completes, the certificates handed to the signer are the entries in order, with
their serial numbers decoded. -/
theorem forall₂_of_revokedCertParams (h : revokedCertParams entries = .returned (.ok certs)) :
    List.Forall₂ HandedAs entries certs := by
  induction entries generalizing certs with
  | nil =>
    rw [revokedCertParams] at h
    cases h
    exact .nil
  | cons entry entries ih =>
    rw [revokedCertParams] at h
    cases hserial : hexToBytes entry.serialNumber with
    | panicked =>
      rw [hserial] at h
      cases h
    | returned result =>
      rw [hserial] at h
      cases result with
      | none => cases h
      | some serialBytes =>
        cases hrest : revokedCertParams entries with
        | panicked =>
          rw [hrest] at h
          cases h
        | returned rest =>
          rw [hrest] at h
          cases rest with
          | error e => cases h
          | ok rest =>
            cases h
            exact .cons ⟨hserial, rfl, rfl⟩ (ih hrest)

/-- The loop completes when every serial number can be decoded. -/
theorem exists_revokedCertParams (h : ∀ entry ∈ entries,
    ∃ serial, hexToBytes entry.serialNumber = .returned (some serial)) :
    ∃ certs, revokedCertParams entries = .returned (.ok certs) := by
  induction entries with
  | nil => exact ⟨[], rfl⟩
  | cons entry entries ih =>
    obtain ⟨⟨serial, hserial⟩, hentries⟩ := List.forall_mem_cons.mp h
    obtain ⟨certs, hcerts⟩ := ih hentries
    exact ⟨_, by rw [revokedCertParams, hserial, hcerts]⟩

theorem signedDer_eq_ok_iff {crl : CertificateRevocationList} {crlNumber : ℕ} {signs : Bool}
    {params : CertificateRevocationListParams} :
    crl.signedDer crlNumber signs = .returned (.ok params) ↔ signs = true ∧
      ∃ certs, revokedCertParams crl.entries = .returned (.ok certs) ∧
        params = ⟨crl.generatedAt, crl.nextUpdate, crlNumber, certs⟩ := by
  rw [signedDer]
  cases revokedCertParams crl.entries with
  | panicked => simp
  | returned result =>
    cases result with
    | error e => simp
    | ok certs =>
      cases signs with
      | false => simp
      | true =>
        simp only [if_true, Outcome.returned.injEq, Except.ok.injEq, true_and, exists_eq_left']
        exact eq_comm

/-- The serial numbers of the certificates handed to the signer are those of the entries. -/
theorem mem_map_serialNumber_iff (h : List.Forall₂ HandedAs entries certs)
    (serial : List UInt8) :
    serial ∈ certs.map (fun cert => cert.serialNumber) ↔
      ∃ entry ∈ entries, hexToBytes entry.serialNumber = .returned (some serial) := by
  induction h with
  | nil => simp
  | cons hentry _ ih =>
    simp only [List.map_cons, List.mem_cons, ih, exists_eq_or_imp, hentry.serialNumber,
      Outcome.returned.injEq, Option.some.injEq]
    rw [eq_comm]

/-- **The serial numbers of a signed list** are those of its entries, decoded. -/
theorem mem_serials_of_signedDer {crl : CertificateRevocationList} {crlNumber : ℕ} {signs : Bool}
    {params : CertificateRevocationListParams}
    (h : crl.signedDer crlNumber signs = .returned (.ok params)) (serial : List UInt8) :
    serial ∈ params.serials ↔
      ∃ entry ∈ crl.entries, hexToBytes entry.serialNumber = .returned (some serial) := by
  obtain ⟨-, certs, hcerts, rfl⟩ := signedDer_eq_ok_iff.mp h
  exact mem_map_serialNumber_iff (forall₂_of_revokedCertParams hcerts) serial

theorem exists_serial_of_forall₂ (h : List.Forall₂ HandedAs entries certs) {entry : CrlEntry}
    (hentry : entry ∈ entries) :
    ∃ serial, hexToBytes entry.serialNumber = .returned (some serial) := by
  induction h with
  | nil => cases hentry
  | cons hfirst _ ih =>
    rcases List.mem_cons.mp hentry with rfl | hmem
    · exact ⟨_, hfirst.serialNumber⟩
    · exact ih hmem

/-- The serial number of every entry of a signed list could be decoded. -/
theorem decodes_of_signedDer {crl : CertificateRevocationList} {crlNumber : ℕ} {signs : Bool}
    {params : CertificateRevocationListParams}
    (h : crl.signedDer crlNumber signs = .returned (.ok params)) {entry : CrlEntry}
    (hentry : entry ∈ crl.entries) :
    ∃ serial, hexToBytes entry.serialNumber = .returned (some serial) := by
  obtain ⟨-, certs, hcerts, -⟩ := signedDer_eq_ok_iff.mp h
  exact exists_serial_of_forall₂ (forall₂_of_revokedCertParams hcerts) hentry

end CertificateRevocationList

end DaemonPki
