import DaemonPki.Api.Certificates

/-!
# The manager of the revocation list

How the API server produces a revocation list (`daemon-pki-api/src/crl.rs`): it draws the next
number from a counter file, builds the list from the revoked records of the store, has it signed,
and writes it to a file. What the environment does to one production, that is its clock
readings, the order in which the table is visited, and the steps that fail, is one argument.

## Main definitions

* `DaemonPki.parseReason`, `DaemonPki.CrlManager.revocationList`.
* `DaemonPki.CrlFiles`, `DaemonPki.CrlManager.nextCrlNumber`,
  `DaemonPki.CrlManager.generateAndPersist`.

## Main results

* `DaemonPki.CrlManager.mem_serials_of_signedDer_revocationList`: the serial numbers of a signed
  list are those of the revoked records.
* `DaemonPki.CrlManager.generateAndPersist_eq_ok`: what the production of a list does.
-/

namespace DaemonPki

open Foundation

/-- Source: `crl.rs`, lines 135–175. -/
def parseReason (value : String) : RevocationReason :=
  match String.ofList (Text.toAsciiLowercase (Text.trim value.toList)) with
  | "keycompromise" | "key_compromise" | "key compromise" => .keyCompromise
  | "cacompromise" | "ca_compromise" | "ca compromise" => .caCompromise
  | "affiliationchanged" | "affiliation_changed" | "affiliation changed" => .affiliationChanged
  | "superseded" => .superseded
  | "cessationofoperation" | "cessation_of_operation" | "cessation of operation" =>
    .cessationOfOperation
  | "certificatehold" | "certificate_hold" | "certificate hold" => .certificateHold
  | "removefromcrl" | "remove_from_crl" | "remove from crl" => .removeFromCrl
  | "privilegelwithdrawn" | "privilegewithdrawn" | "privilege_withdrawn"
  | "privilege withdrawn" => .privilegeWithdrawn
  | "aacompromise" | "aa_compromise" | "aa compromise" => .aaCompromise
  | _ => .unspecified

/-- What one call of `fs::write` did: it succeeded, or it failed and left the file as it was,
empty, or written. -/
inductive WriteResult
  | succeeded
  | failedUnchanged
  | failedEmpty
  | failedWritten
  deriving DecidableEq, Repr

/-- The file after a call of `fs::write`. -/
def WriteResult.file {α : Type*} (old : Option α) (empty new : α) : WriteResult → Option α
  | succeeded => some new
  | failedUnchanged => old
  | failedEmpty => some empty
  | failedWritten => some new

/-- The file of the revocation list: incomplete, or a signed list. -/
inductive CrlFile
  | incomplete
  | signed (params : CertificateRevocationListParams)
  deriving DecidableEq, Repr

/-- The two files of the manager: the text of the counter, and the revocation list. -/
structure CrlFiles where
  number : Option String
  crl : Option CrlFile
  deriving DecidableEq, Repr

inductive CrlManagerError
  | readNumber
  | invalidNumber
  | numberExhausted
  | writeNumber
  | sign (error : CrlError)
  | writeCrl
  deriving DecidableEq, Repr

/-- What the environment does to one production of a list. -/
structure CrlEnvironment where
  /-- Whether the counter file can be read. -/
  readsNumber : Bool
  writesNumber : WriteResult
  now : OffsetDateTime
  /-- The identifier and the clock reading of the new list. -/
  listId : Uuid
  generatedAt : OffsetDateTime
  iteration : HashMap.Iteration Uuid CertificateRecord
  /-- Whether the signer succeeds. -/
  signs : Bool
  writesCrl : WriteResult

namespace CrlManager

/-! ### The list of the revoked records -/

/-- Source: `crl.rs`, lines 52–71. -/
def revocationRecord (now : OffsetDateTime) (certificate : CertificateRecord) :
    RevocationRecord where
  certificateId := certificate.id
  serialNumber := certificate.serialNumber
  reason := parseReason (certificate.revocationReason.getD "unspecified")
  revokedAt := certificate.revokedAt.getD now
  revokedBy := Uuid.nil
  invalidityDate := none
  comment := none

/-- Seven days. -/
def updatePeriod : Int := 604800000000000

/-- The loop of `generate_and_persist` over the certificates. Source: `crl.rs`, lines 47–74. -/
def addRevoked (now : OffsetDateTime) (crl : CertificateRevocationList)
    (certificates : List CertificateRecord) : CertificateRevocationList :=
  certificates.foldl (fun crl certificate =>
    if !certificate.revoked then crl else crl.addRecord (revocationRecord now certificate)) crl

/-- The list of the revoked records. Source: `crl.rs`, lines 39–74. -/
def revocationList (env : CrlEnvironment) (records : Records) : CertificateRevocationList :=
  addRevoked env.now
    (.new env.listId env.generatedAt "Daemon PKI Intermediate CA" (env.now + updatePeriod))
    (records.list (env.iteration records))

/-! ### The counter -/

/-- The number in the counter file, zero when there is none. Source: `crl.rs`, lines 101–118. -/
def currentCrlNumber (number : Option String) (reads : Bool) : Except CrlManagerError ℕ :=
  match number with
  | none => .ok 0
  | some text =>
    if !reads then .error .readNumber
    else
      match Text.fromStrRadix 10 (2 ^ 64) (Text.utf8 (Text.trim text.toList)) with
      | none => .error .invalidNumber
      | some current => .ok current

/-- Draw the next number and write it to the counter file. Source: `crl.rs`, lines 97–132. -/
def nextCrlNumber (number : Option String) (reads : Bool) (write : WriteResult) :
    Except CrlManagerError ℕ × Option String :=
  match currentCrlNumber number reads with
  | .error e => (.error e, number)
  | .ok current =>
    if current + 1 < 2 ^ 64 then
      let number' := write.file number "" (toString (current + 1))
      match write with
      | .succeeded => (.ok (current + 1), number')
      | _ => (.error .writeNumber, number')
    else (.error .numberExhausted, number)

/-! ### Production -/

/-- Produce a signed list and write it to its file. Source: `crl.rs`, lines 36–95. -/
def generateAndPersist (env : CrlEnvironment) (records : Records) (files : CrlFiles) :
    Outcome (Except CrlManagerError CertificateRevocationListParams) × CrlFiles :=
  match nextCrlNumber files.number env.readsNumber env.writesNumber with
  | (.error e, number) => (.returned (.error e), { files with number := number })
  | (.ok crlNumber, number) =>
    let files := { files with number := number }
    match (revocationList env records).signedDer crlNumber env.signs with
    | .panicked => (.panicked, files)
    | .returned (.error e) => (.returned (.error (.sign e)), files)
    | .returned (.ok der) =>
      let files := { files with crl := env.writesCrl.file files.crl .incomplete (.signed der) }
      match env.writesCrl with
      | .succeeded => (.returned (.ok der), files)
      | _ => (.returned (.error .writeCrl), files)

variable {env : CrlEnvironment} {records : Records} {files : CrlFiles} {crlNumber : ℕ}
  {signs : Bool} {der : CertificateRevocationListParams}

/-- The entry of a revoked record. -/
def revocationEntry (now : OffsetDateTime) (certificate : CertificateRecord) : CrlEntry where
  serialNumber := (revocationRecord now certificate).serialNumber
  reason := (revocationRecord now certificate).reason
  revokedAt := (revocationRecord now certificate).revokedAt

theorem entries_addRevoked (now : OffsetDateTime) (crl : CertificateRevocationList)
    (certificates : List CertificateRecord) : (addRevoked now crl certificates).entries =
      crl.entries ++ (certificates.filter fun certificate => certificate.revoked).map
        (revocationEntry now) := by
  induction certificates generalizing crl with
  | nil => simp [addRevoked]
  | cons certificate certificates ih =>
    rw [addRevoked, List.foldl_cons]
    cases hrevoked : certificate.revoked with
    | false =>
      rw [List.filter_cons_of_neg (by simpa using hrevoked)]
      exact ih crl
    | true =>
      rw [List.filter_cons_of_pos hrevoked, List.map_cons, List.append_cons]
      exact ih _

/-- The entries of the list are the revoked records of the store. -/
theorem mem_entries_iff {entry : CrlEntry} : entry ∈ (revocationList env records).entries ↔
    ∃ id record, records.lookup id = some record ∧ record.revoked = true ∧
      revocationEntry env.now record = entry := by
  rw [revocationList, entries_addRevoked]
  simp only [CertificateRevocationList.new, List.nil_append, List.mem_map, List.mem_filter,
    Records.mem_list]
  exact ⟨fun ⟨record, ⟨⟨id, hrecord⟩, hrevoked⟩, he⟩ => ⟨id, record, hrecord, hrevoked, he⟩,
    fun ⟨id, record, hrecord, hrevoked, he⟩ => ⟨record, ⟨⟨id, hrecord⟩, hrevoked⟩, he⟩⟩

/-- **The serial numbers of the signed list** are those of the revoked records. -/
theorem mem_serials_of_signedDer_revocationList
    (h : (revocationList env records).signedDer crlNumber signs = .returned (.ok der))
    (serial : List UInt8) : serial ∈ der.serials ↔ serial ∈ records.revokedSerials := by
  rw [CertificateRevocationList.mem_serials_of_signedDer h]
  constructor
  · rintro ⟨entry, hentry, hserial⟩
    obtain ⟨id, record, hrecord, hrevoked, rfl⟩ := mem_entries_iff.mp hentry
    exact ⟨id, record, hrecord, hrevoked, hserial⟩
  · rintro ⟨id, record, hrecord, hrevoked, hserial⟩
    exact ⟨_, mem_entries_iff.mpr ⟨id, record, hrecord, hrevoked, rfl⟩, hserial⟩

/-- When the list was signed, the serial number of every revoked record is on it. -/
theorem exists_serial_of_signedDer_revocationList
    (h : (revocationList env records).signedDer crlNumber signs = .returned (.ok der)) {id : Uuid}
    {record : CertificateRecord} (hrecord : records.lookup id = some record)
    (hrevoked : record.revoked = true) : ∃ serial ∈ der.serials,
      hexToBytes record.serialNumber = .returned (some serial) := by
  have hentry : revocationEntry env.now record ∈ (revocationList env records).entries :=
    mem_entries_iff.mpr ⟨id, record, hrecord, hrevoked, rfl⟩
  obtain ⟨serial, hserial⟩ := CertificateRevocationList.decodes_of_signedDer h hentry
  refine ⟨serial, ?_, hserial⟩
  exact (CertificateRevocationList.mem_serials_of_signedDer h serial).mpr ⟨_, hentry, hserial⟩

/-- The number that was written to the counter file is read from it. -/
theorem currentCrlNumber_toString {n : ℕ} (h : n < 2 ^ 64) :
    currentCrlNumber (some (toString n)) true = .ok n := by
  simp only [currentCrlNumber, Text.fromStrRadix_toString h, Bool.not_true, Bool.false_eq_true,
    if_false]

theorem nextCrlNumber_eq_ok {number number' : Option String} {reads : Bool} {write : WriteResult}
    (h : nextCrlNumber number reads write = (.ok crlNumber, number')) :
    ∃ current, currentCrlNumber number reads = .ok current ∧ current + 1 < 2 ^ 64 ∧
      crlNumber = current + 1 ∧ number' = some (toString (current + 1)) := by
  rw [nextCrlNumber] at h
  split at h
  · cases h
  · rename_i current hcurrent
    split_ifs at h with hlt
    · cases write <;> cases h
      exact ⟨current, hcurrent, hlt, rfl, rfl⟩
    · cases h

/-- Drawing a number does not fail as a signature does. -/
theorem nextCrlNumber_ne_sign (number : Option String) (reads : Bool) (write : WriteResult)
    (error : CrlError) : (nextCrlNumber number reads write).1 ≠ .error (.sign error) := by
  have hcurrent : currentCrlNumber number reads ≠ .error (.sign error) := by
    cases number with
    | none => rintro ⟨⟩
    | some text =>
      rw [currentCrlNumber]
      split_ifs
      · rintro ⟨⟩
      · split <;> rintro ⟨⟩
  rw [nextCrlNumber]
  split
  next e he => exact fun heq => hcurrent (he.trans heq)
  next current _ =>
    split_ifs
    · cases write <;> rintro ⟨⟩
    · rintro ⟨⟩

/-- What the production of a list does when it succeeds. -/
theorem generateAndPersist_eq_ok {files' : CrlFiles}
    (h : generateAndPersist env records files = (.returned (.ok der), files')) :
    ∃ current, currentCrlNumber files.number env.readsNumber = .ok current ∧
      current + 1 < 2 ^ 64 ∧
      (revocationList env records).signedDer (current + 1) env.signs = .returned (.ok der) ∧
      files' = ⟨some (toString (current + 1)), some (.signed der)⟩ := by
  rw [generateAndPersist] at h
  split at h
  · cases h
  · rename_i hnext
    obtain ⟨current, hcurrent, hlt, rfl, rfl⟩ := nextCrlNumber_eq_ok hnext
    refine ⟨current, hcurrent, hlt, ?_⟩
    rcases hsigned : (revocationList env records).signedDer (current + 1) env.signs with
      (e | signed) | _ <;> simp only [hsigned] at h
    · cases h
    · cases hwrite : env.writesCrl <;> simp only [hwrite] at h <;> cases h
      exact ⟨rfl, rfl⟩
    · cases h

/-- A list that is produced was signed. -/
theorem signedDer_of_generateAndPersist {files' : CrlFiles}
    (h : generateAndPersist env records files = (.returned (.ok der), files')) :
    ∃ crlNumber, (revocationList env records).signedDer crlNumber env.signs =
      .returned (.ok der) := by
  obtain ⟨current, -, -, hsigned, -⟩ := generateAndPersist_eq_ok h
  exact ⟨current + 1, hsigned⟩

end CrlManager

end DaemonPki
