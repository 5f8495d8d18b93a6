import DaemonPki.Foundation.IpAddr
import Mathlib.Data.Int.Basic

/-!
# Certificate metadata

The metadata of one tracked certificate and its lifecycle state
(`daemon-pki-core/src/certificate/metadata.rs`). Every reading of the system clock is an
argument: a function that reads the clock takes the reading.

An instant is the number of nanoseconds since the Unix epoch, so that the difference of two
instants is a duration in nanoseconds and `Duration::whole_seconds` divides it by `10^9`,
truncating towards zero.

## Main definitions

* `DaemonPki.Uuid`, `DaemonPki.OffsetDateTime`, `DaemonPki.wholeSeconds`.
* `DaemonPki.CertificateState` with `isUsable` and `isTerminal`.
* `DaemonPki.CertificateMetadata` with `new`, `remainingSeconds`, `renewalDue` and its edits.
-/

namespace DaemonPki

open Foundation

/-- A UUID, as its 128 bits. -/
abbrev Uuid := BitVec 128

/-- `Uuid::nil`. -/
def Uuid.nil : Uuid := 0#128

/-- An instant, in nanoseconds since the Unix epoch. -/
abbrev OffsetDateTime := Int

/-- `Duration::whole_seconds` of a duration in nanoseconds. -/
def wholeSeconds (duration : Int) : Int := duration.tdiv 1000000000

theorem wholeSeconds_le_wholeSeconds {a b : Int} (h : a ≤ b) :
    wholeSeconds a ≤ wholeSeconds b :=
  Int.tdiv_le_tdiv (by decide) h

/-- The lifecycle state of a certificate. Source: `metadata.rs`, lines 7–15. -/
inductive CertificateState
  | active
  | expiring
  | renewalPending
  | renewed
  | revoked
  | expired
  deriving DecidableEq, Repr

namespace CertificateState

/-- Source: `metadata.rs`, lines 18–20. -/
def isUsable : CertificateState → Bool
  | active | expiring => true
  | _ => false

/-- Source: `metadata.rs`, lines 22–24. -/
def isTerminal : CertificateState → Bool
  | revoked | expired => true
  | _ => false

end CertificateState

/-- The cryptographic identity of a certificate. Source: `metadata.rs`, lines 27–35. -/
structure CertificateIdentity where
  commonName : Option String
  dnsNames : List String
  ipAddresses : List IpAddr
  clientAuth : Bool
  serverAuth : Bool
  deriving DecidableEq, Repr

/-- The inventory metadata of an issued certificate. Source: `metadata.rs`, lines 37–68. -/
structure CertificateMetadata where
  id : Uuid
  serialNumber : String
  issuer : String
  subject : String
  identity : CertificateIdentity
  state : CertificateState
  notBefore : OffsetDateTime
  notAfter : OffsetDateTime
  fingerprintSha256 : Option String
  createdAt : OffsetDateTime
  updatedAt : OffsetDateTime
  renewalWindowSeconds : Int
  workloadId : Option String
  deviceId : Option String
  serviceId : Option String
  tags : List String
  deriving DecidableEq, Repr

namespace CertificateMetadata

/-- The metadata of a new certificate, with the identifier and the clock reading drawn by the
call. Source: `metadata.rs`, lines 71–98. -/
def new (id : Uuid) (now : OffsetDateTime) (serialNumber issuer subject : String)
    (identity : CertificateIdentity) (notBefore notAfter : OffsetDateTime) :
    CertificateMetadata where
  id := id
  serialNumber := serialNumber
  issuer := issuer
  subject := subject
  identity := identity
  state := .active
  notBefore := notBefore
  notAfter := notAfter
  fingerprintSha256 := none
  createdAt := now
  updatedAt := now
  renewalWindowSeconds := 2592000
  workloadId := none
  deviceId := none
  serviceId := none
  tags := []

/-- Source: `metadata.rs`, lines 108–110. -/
def remainingSeconds (now : OffsetDateTime) (c : CertificateMetadata) : Int :=
  wholeSeconds (c.notAfter - now)

/-- Source: `metadata.rs`, lines 112–116. -/
def renewalDue (now : OffsetDateTime) (c : CertificateMetadata) : Bool :=
  decide (c.remainingSeconds now ≤ c.renewalWindowSeconds) && c.state.isUsable

/-- Source: `metadata.rs`, lines 118–121. -/
def markFingerprint (now : OffsetDateTime) (fingerprint : String) (c : CertificateMetadata) :
    CertificateMetadata :=
  { c with fingerprintSha256 := some fingerprint, updatedAt := now }

/-- Source: `metadata.rs`, lines 123–130. -/
def addTag (now : OffsetDateTime) (tag : String) (c : CertificateMetadata) : CertificateMetadata :=
  if tag ∈ c.tags then c
  else { c with tags := c.tags ++ [tag], updatedAt := now }

/-- Source: `metadata.rs`, lines 132–135. -/
def assignWorkload (now : OffsetDateTime) (workloadId : String) (c : CertificateMetadata) :
    CertificateMetadata :=
  { c with workloadId := some workloadId, updatedAt := now }

/-- Source: `metadata.rs`, lines 137–140. -/
def assignDevice (now : OffsetDateTime) (deviceId : String) (c : CertificateMetadata) :
    CertificateMetadata :=
  { c with deviceId := some deviceId, updatedAt := now }

/-- Source: `metadata.rs`, lines 142–145. -/
def assignService (now : OffsetDateTime) (serviceId : String) (c : CertificateMetadata) :
    CertificateMetadata :=
  { c with serviceId := some serviceId, updatedAt := now }

theorem renewalDue_iff {now : OffsetDateTime} {c : CertificateMetadata} :
    c.renewalDue now = true ↔
      c.remainingSeconds now ≤ c.renewalWindowSeconds ∧ c.state.isUsable = true := by
  simp [renewalDue]

/-- A certificate due for renewal stays due as time passes. -/
theorem renewalDue_of_le {now later : OffsetDateTime} {c : CertificateMetadata}
    (h : now ≤ later) (hdue : c.renewalDue now = true) : c.renewalDue later = true := by
  obtain ⟨hremaining, husable⟩ := renewalDue_iff.mp hdue
  refine renewalDue_iff.mpr ⟨?_, husable⟩
  have hle : c.remainingSeconds later ≤ c.remainingSeconds now :=
    wholeSeconds_le_wholeSeconds (Int.sub_le_sub_left h c.notAfter)
  exact Int.le_trans hle hremaining

end CertificateMetadata

end DaemonPki
