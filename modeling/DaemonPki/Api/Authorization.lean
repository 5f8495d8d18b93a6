import DaemonPki.Api.ClientIdentity
import DaemonPki.Api.SignedCertificates
import DaemonPki.Foundation.Fields

/-!
# Who is authorized

Two programs meet in one environment variable. The bootstrap of a first client
(`daemon-pki-api/src/bin/bootstrap-client.rs`) issues a certificate and prints its fingerprint; the
operator lists such fingerprints in `DAEMON_PKI_ISSUE_FINGERPRINTS`; and the start of the server
(`daemon-pki-api/src/bin/server.rs`) reads the authorization policy from there. The fingerprint of
a client that connects is computed by a third function, in `daemon-pki-api/src/tls/identity.rs`.

## Main definitions

* `DaemonPki.authorizationPolicy`: the policy that the server reads.
* `DaemonPki.bootstrapClient`, `DaemonPki.BootstrapReport`.
* `DaemonPki.ListedFingerprint`, `DaemonPki.listing`: what the operator writes.

## Main results

* `DaemonPki.canIssueCertificates_iff_mem_fields`: whom a value authorizes.
* `DaemonPki.authorized_iff_listed`: a list of printed fingerprints authorizes the certificates
  that they were printed for.
-/

namespace DaemonPki

open Foundation

/-! ### The policy -/

namespace AuthorizationPolicy

/-- Source: `http.rs`, lines 62–66. -/
def new : AuthorizationPolicy := ⟨[]⟩

/-- Source: `http.rs`, lines 73–81. -/
def allowCertificateIssuance (policy : AuthorizationPolicy) (fingerprintSha256 : String) :
    AuthorizationPolicy :=
  ⟨policy.certificateIssueIdentities ++ [fingerprintSha256]⟩

/-- Fingerprints that are allowed one after the other are there in order. -/
theorem foldl_allowCertificateIssuance (policy : AuthorizationPolicy)
    (fingerprints : List (List Char)) :
    fingerprints.foldl (fun policy fingerprint =>
        policy.allowCertificateIssuance (String.ofList fingerprint)) policy =
      ⟨policy.certificateIssueIdentities ++ fingerprints.map String.ofList⟩ := by
  induction fingerprints generalizing policy with
  | nil => rw [List.foldl_nil, List.map_nil, List.append_nil]
  | cons fingerprint fingerprints ih =>
    rw [List.foldl_cons, ih, allowCertificateIssuance, List.append_assoc]
    rfl

end AuthorizationPolicy

/-- The policy that the server reads from the variable, if it is set. Source: `server.rs`,
lines 147–166. -/
def authorizationPolicy (value : Option String) : AuthorizationPolicy :=
  match value with
  | none => .new
  | some value =>
    (Text.fields ',' value.toList).foldl (fun policy fingerprint =>
      policy.allowCertificateIssuance (String.ofList fingerprint)) .new

/-! ### The bootstrap of a client -/

/-- What one run of `bootstrap-client` meets: the file system, and what the issuer of the
certificate does, with the text of the key that is drawn. -/
structure BootstrapEnvironment where
  readsCertificate : Bool
  readsKey : Bool
  issuer : IssuerEnvironment
  keyPem : String
  writesCertificate : WriteResult
  writesKey : WriteResult

/-- What the program prints: the certificate that it issued, by its fingerprint. -/
structure BootstrapReport where
  certificate : Certificate
  fingerprintSha256 : String
  deriving DecidableEq, Repr

/-- The files of the client are written over what is there. Source: `bootstrap-client.rs`,
lines 17–160. -/
def bootstrapClient {Key Issuer : Type} (crates : CaCrates Key Issuer)
    (identities : IdentityCrates) (env : BootstrapEnvironment) (intermediate client : PairFiles) :
    Except StartError BootstrapReport × PairFiles :=
  match intermediate.certificate, intermediate.key with
  | some intermediateCertificate, some intermediatePrivateKey =>
    if !env.readsCertificate then (.error (.read "intermediate-ca.pem"), client)
    else if !env.readsKey then (.error (.read "intermediate-ca-key.pem"), client)
    else
      match IntermediateCa.fromPem crates intermediateCertificate intermediatePrivateKey with
      | .error e => (.error (.authority "failed to load persisted intermediate CA" e), client)
      | .ok _ =>
        match CertificateIssuer.issue env.issuer bootstrapClientRequest with
        | .error e => (.error (.issuance "failed to issue bootstrap client certificate" e), client)
        | .ok certificate =>
          let fingerprint := (identities.sha256 certificate.der).toList
          let fingerprintSha256 := String.ofList (lowerHex fingerprint)
          let client := { client with
            certificate := env.writesCertificate.file client.certificate "" certificate.pem }
          match env.writesCertificate with
          | .succeeded =>
            let client := { client with key := env.writesKey.file client.key "" env.keyPem }
            match env.writesKey with
            | .succeeded => (.ok ⟨certificate, fingerprintSha256⟩, client)
            | _ => (.error (.write "bootstrap-client-key.pem"), client)
          | _ => (.error (.write "bootstrap-client-cert.pem"), client)
  | none, _ => (.error (.read "intermediate-ca.pem"), client)
  | some _, none =>
    if !env.readsCertificate then (.error (.read "intermediate-ca.pem"), client)
    else (.error (.read "intermediate-ca-key.pem"), client)

section Bootstrap

variable {Key Issuer : Type} {crates : CaCrates Key Issuer} {identities : IdentityCrates}
  {env : BootstrapEnvironment} {intermediate client client' : PairFiles} {report : BootstrapReport}

/-- What a run that succeeds has issued, printed and left in the files of the client. -/
theorem bootstrapClient_eq_ok
    (h : bootstrapClient crates identities env intermediate client = (.ok report, client')) :
    CertificateIssuer.issue env.issuer bootstrapClientRequest = .ok report.certificate ∧
      report.fingerprintSha256 =
        String.ofList (lowerHex (identities.sha256 report.certificate.der).toList) ∧
      client' = ⟨some report.certificate.pem, some env.keyPem⟩ := by
  rw [bootstrapClient] at h
  split at h
  · split_ifs at h
    · cases h
    · cases h
    split at h
    · cases h
    split at h
    · cases h
    next certificate hissue =>
      simp only at h
      split at h
      next hcertificate =>
        split at h
        next hkey =>
          cases h
          exact ⟨hissue, rfl, by rw [hcertificate, hkey]; rfl⟩
        · cases h
      · cases h
  · cases h
  · split_ifs at h <;> cases h

end Bootstrap

/-! ### Whom a value authorizes -/

variable {identities : IdentityCrates} {der : List UInt8} {identity : MtlsIdentity}

theorem fingerprint_of_identity (h : identityFromClientCertificate identities der = .ok identity) :
    identity.fingerprintSha256 = String.ofList (lowerHex (identities.sha256 der).toList) := by
  rw [identityFromClientCertificate] at h
  split at h
  · cases h
  · rw [← Except.ok.inj h]

/-- A value authorizes the identities whose fingerprints are fields of it. -/
theorem canIssueCertificates_iff_mem_fields {value : String} :
    (authorizationPolicy (some value)).canIssueCertificates identity = true ↔
      identity.fingerprintSha256.toList ∈ Text.fields ',' value.toList := by
  rw [authorizationPolicy, AuthorizationPolicy.foldl_allowCertificateIssuance,
    AuthorizationPolicy.canIssueCertificates, List.any_eq_true]
  simp only [AuthorizationPolicy.new, List.nil_append, List.mem_map, decide_eq_true_eq,
    exists_eq_right]
  constructor
  · rintro ⟨field, hfield, hsame⟩
    rwa [← hsame, String.toList_ofList]
  · exact fun h => ⟨_, h, String.ofList_toList⟩

/-- What holds of the sixteen digits holds of the characters in the text of bytes. -/
theorem forall_mem_lowerHex {P : Char → Prop} (hP : ∀ d < 16, P (Nat.digitChar d))
    (bytes : List UInt8) : ∀ c ∈ lowerHex bytes, P c := by
  intro c hc
  obtain ⟨byte, -, hc⟩ := List.mem_flatMap.mp hc
  have hbyte : byte.toNat < 256 := byte.toNat_lt
  simp only [List.mem_cons, List.not_mem_nil, or_false] at hc
  rcases hc with rfl | rfl
  · exact hP _ (by omega)
  · exact hP _ (by omega)

theorem isWhitespace_of_mem_lowerHex (bytes : List UInt8) :
    ∀ c ∈ lowerHex bytes, Text.isWhitespace c = false :=
  forall_mem_lowerHex Text.isWhitespace_digitChar bytes

theorem comma_not_mem_lowerHex (bytes : List UInt8) : ',' ∉ lowerHex bytes := by
  have hdigits : ∀ d < 16, Nat.digitChar d ≠ ',' := by decide
  exact fun hcomma => forall_mem_lowerHex (P := fun c => c ≠ ',') hdigits bytes ',' hcomma rfl

theorem lowerHex_digest_ne_nil (digest : Vector UInt8 32) : lowerHex digest.toList ≠ [] := by
  intro hnil
  have hlength := length_utf8_lowerHex digest.toList
  rw [hnil, Vector.length_toList] at hlength
  cases hlength

/-- **Whom a value authorizes**: the clients whose fingerprint is a stretch of it between commas,
up to white space around it. -/
theorem authorized_iff_piece (h : identityFromClientCertificate identities der = .ok identity)
    (value : Option String) :
    (authorizationPolicy value).canIssueCertificates identity = true ↔
      ∃ text ∈ value, ∃ before piece after, text.toList = before.reverse ++ piece ++ after ∧
        ',' ∉ piece ∧ Text.Bounded ',' before ∧ Text.Bounded ',' after ∧
        Text.trim piece = lowerHex (identities.sha256 der).toList := by
  cases value with
  | none => exact iff_of_false Bool.false_ne_true (by simp)
  | some text =>
    rw [canIssueCertificates_iff_mem_fields, fingerprint_of_identity h, String.toList_ofList,
      Text.mem_fields_iff]
    simp only [Text.mem_splitOn_iff, Option.mem_some_iff, exists_eq_left']
    constructor
    · rintro ⟨-, piece, ⟨hcomma, before, after, htext, hbefore, hafter⟩, htrim⟩
      exact ⟨before, piece, after, htext, hcomma, hbefore, hafter, htrim⟩
    · rintro ⟨before, piece, after, htext, hcomma, hbefore, hafter, htrim⟩
      exact ⟨lowerHex_digest_ne_nil _, piece,
        ⟨hcomma, before, after, htext, hbefore, hafter⟩, htrim⟩

/-! ### What the operator lists -/

/-- A printed fingerprint with white space around it. -/
structure ListedFingerprint where
  before : List Char
  report : BootstrapReport
  after : List Char
  isBlank_before : Text.IsBlank before
  isBlank_after : Text.IsBlank after

/-- The stretch of the value that lists the fingerprint. -/
def ListedFingerprint.text (listed : ListedFingerprint) : List Char :=
  listed.before ++ listed.report.fingerprintSha256.toList ++ listed.after

/-- The value that lists fingerprints. -/
def listing (entries : List ListedFingerprint) : String :=
  String.ofList ([','].intercalate (entries.map ListedFingerprint.text))

theorem comma_not_mem_of_isBlank {text : List Char} (h : Text.IsBlank text) : ',' ∉ text :=
  fun hcomma => absurd (h ',' hcomma) (by decide)

/-- The fingerprint was printed by a run of `bootstrap-client`. -/
def ListedFingerprint.Printed {Key Issuer : Type} (crates : CaCrates Key Issuer)
    (identities : IdentityCrates) (listed : ListedFingerprint) : Prop :=
  ∃ env intermediate client client',
    bootstrapClient crates identities env intermediate client = (.ok listed.report, client')

section Printed

variable {Key Issuer : Type} {crates : CaCrates Key Issuer} {listed : ListedFingerprint}
  {entries : List ListedFingerprint}

theorem ListedFingerprint.Printed.fingerprint_eq (h : listed.Printed crates identities) :
    listed.report.fingerprintSha256.toList =
      lowerHex (identities.sha256 listed.report.certificate.der).toList := by
  obtain ⟨env, intermediate, client, client', hrun⟩ := h
  rw [(bootstrapClient_eq_ok hrun).2.1, String.toList_ofList]

theorem ListedFingerprint.Printed.comma_not_mem (h : listed.Printed crates identities) :
    ',' ∉ listed.text := by
  rw [text, h.fingerprint_eq]
  simp only [List.mem_append, not_or]
  exact ⟨⟨comma_not_mem_of_isBlank listed.isBlank_before, comma_not_mem_lowerHex _⟩,
    comma_not_mem_of_isBlank listed.isBlank_after⟩

theorem ListedFingerprint.Printed.trim_text (h : listed.Printed crates identities) :
    Text.trim listed.text = lowerHex (identities.sha256 listed.report.certificate.der).toList := by
  rw [text, Text.trim_blank_append listed.isBlank_before listed.isBlank_after, h.fingerprint_eq,
    Text.trim_eq_self (isWhitespace_of_mem_lowerHex _)]

/-- **A list of printed fingerprints authorizes the certificates that they were printed for.**
Every value authorizes the clients whose fingerprint is a stretch of it between commas, up to
white space; and a value that lists the fingerprints printed by runs of `bootstrap-client`, with
whatever white space around them, authorizes exactly the clients whose certificate has the digest
of one that those runs issued. -/
theorem authorized_iff_listed
    (h : identityFromClientCertificate identities der = .ok identity) :
    (∀ value, (authorizationPolicy value).canIssueCertificates identity = true ↔
      ∃ text ∈ value, ∃ before piece after, text.toList = before.reverse ++ piece ++ after ∧
        ',' ∉ piece ∧ Text.Bounded ',' before ∧ Text.Bounded ',' after ∧
        Text.trim piece = lowerHex (identities.sha256 der).toList) ∧
    ∀ entries : List ListedFingerprint,
      (∀ listed ∈ entries, listed.Printed crates identities) →
        ((authorizationPolicy (some (listing entries))).canIssueCertificates identity = true ↔
          ∃ listed ∈ entries,
            identities.sha256 listed.report.certificate.der = identities.sha256 der) := by
  refine ⟨authorized_iff_piece h, fun entries hprinted => ?_⟩
  have hpieces : ∀ piece ∈ entries.map ListedFingerprint.text, ',' ∉ piece := by
    intro piece hpiece
    obtain ⟨listed, hlisted, rfl⟩ := List.mem_map.mp hpiece
    exact (hprinted listed hlisted).comma_not_mem
  rw [canIssueCertificates_iff_mem_fields, fingerprint_of_identity h, String.toList_ofList,
    listing, String.toList_ofList, Text.mem_fields_intercalate_iff hpieces,
    and_iff_right (lowerHex_digest_ne_nil _)]
  simp only [List.mem_map, exists_exists_and_eq_and]
  refine exists_congr fun listed => and_congr_right fun hlisted => ?_
  rw [(hprinted listed hlisted).trim_text, lowerHex_injective.eq_iff, Vector.toList_inj]

end Printed

/-- Crates for which the digest of bytes is the first of them, over and over. -/
def firstByteCrates : IdentityCrates where
  fromDer bytes := some ([], ⟨[], ofBytesBe bytes, derInteger (ofBytesBe bytes)⟩)
  sha256 bytes := .replicate 32 (bytes.headD 0)

/-- A run of `bootstrap-client` that issues a certificate with the byte ten. -/
def bootstrapTen : Except StartError BootstrapReport × PairFiles :=
  bootstrapClient twoKeys firstByteCrates
    ⟨true, true, ⟨fun _ => true, .ok (), fun _ => .ok ⟨"CERTIFICATE", [10]⟩⟩, "PRIVATE KEY",
      .succeeded, .succeeded⟩
    ⟨some "CERTIFICATE 0", some "PRIVATE KEY 1"⟩ .absent

/-- The fingerprint that was printed, after a space. -/
def listedTen : ListedFingerprint where
  before := [' ']
  report := ⟨⟨"CERTIFICATE", [10]⟩, String.ofList (lowerHex (List.replicate 32 10))⟩
  after := []
  isBlank_before := by simp [Text.IsBlank, Text.isWhitespace]
  isBlank_after := by simp [Text.IsBlank]

/-- A client with this certificate is authorized, and one with another is not. -/
theorem authorized_iff_listed_ten :
    (∀ identity, identityFromClientCertificate firstByteCrates [10] = .ok identity →
      (authorizationPolicy (some (listing [listedTen]))).canIssueCertificates identity = true) ∧
    ∀ identity, identityFromClientCertificate firstByteCrates [11] = .ok identity →
      (authorizationPolicy (some (listing [listedTen]))).canIssueCertificates identity = false := by
  have hprinted : ∀ listed ∈ [listedTen], listed.Printed twoKeys firstByteCrates := by
    intro listed hlisted
    obtain rfl := List.mem_singleton.mp hlisted
    have hrun : bootstrapTen =
        (.ok listedTen.report, ⟨some "CERTIFICATE", some "PRIVATE KEY"⟩) := by decide +kernel
    exact ⟨_, _, _, _, hrun⟩
  refine ⟨fun identity h => ?_, fun identity h => ?_⟩
  · exact ((authorized_iff_listed h).2 [listedTen] hprinted).mpr ⟨listedTen, by simp, rfl⟩
  · rw [← Bool.not_eq_true, (authorized_iff_listed h).2 [listedTen] hprinted]
    rintro ⟨listed, hlisted, hdigest⟩
    obtain rfl := List.mem_singleton.mp hlisted
    revert hdigest
    decide

end DaemonPki
