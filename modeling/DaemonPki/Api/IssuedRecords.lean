import DaemonPki.Api.CrlNumbers
import DaemonPki.Api.Issuance

/-!
# The revocation list of issued certificates

The serial number of a certificate is a number; the issuance service keeps it as text, two
hexadecimal digits for each byte (`daemon-pki-api/src/issuance.rs`), and the signer of a
revocation list decodes the text into bytes (`daemon-pki-core/src/revocation/crl.rs`). In a store
whose records the service made, every text is decoded into the bytes it was made from, so the list
is signed, and it lists the revoked certificates by their numbers.

## Main definitions

* `DaemonPki.CertificateRecord.Issued`, `DaemonPki.Records.Issued`.
* `DaemonPki.Records.revocations`: the serial numbers of the revoked records, with their times.
* `DaemonPki.CrlManager.Produces`: what a call of `generate_and_persist` has signed, returns and
  writes.

## Main results

* `DaemonPki.hexToBytes_lowerHex`: a text of bytes is decoded into the bytes.
* `DaemonPki.IssuanceService.issued_issue`, `DaemonPki.Records.Issued.revokeRecord`: the records
  of a store remain issued ones.
* `DaemonPki.CrlManager.revocationList_of_issued`: the list is that of the revoked certificates.
-/

namespace DaemonPki

open Foundation

/-! ### Texts of serial numbers -/

theorem hexPairs_lowerHex (bytes : List UInt8) :
    hexPairs (Text.utf8 (lowerHex bytes)) = .returned (some bytes) := by
  induction bytes with
  | nil => rfl
  | cons byte bytes ih =>
    have hwhole := Text.isCharBoundary_utf8 (lowerHex (byte :: bytes))
    obtain ⟨high, low, hutf8, hvalue⟩ := utf8_lowerHex_cons byte bytes
    rw [hutf8] at hwhole
    rw [hutf8, hexPairs, hwhole, Text.isCharBoundary_utf8]
    simp [hvalue, ih]

/-- **A text of bytes is decoded into the bytes.** -/
theorem hexToBytes_lowerHex {bytes : List UInt8} (h : bytes ≠ []) :
    hexToBytes (String.ofList (lowerHex bytes)) = .returned (some bytes) := by
  have hlength : 0 < bytes.length := List.length_pos_iff.mpr h
  have hnil : Text.utf8 (lowerHex bytes) ≠ [] := by
    rw [← List.length_pos_iff, length_utf8_lowerHex]
    omega
  rw [hexToBytes, String.toList_ofList, length_utf8_lowerHex, hexPairs_lowerHex]
  simp [hnil]

theorem hexToBytes_serialText (serialNumber : ℕ) :
    hexToBytes (serialText serialNumber) = .returned (some (toBytesBe serialNumber)) :=
  hexToBytes_lowerHex (toBytesBe_ne_nil serialNumber)

/-- The number that a text stands for, however many zeros come first. -/
def serialInteger (serialNumber : String) : Option ℕ :=
  match hexToBytes serialNumber with
  | .returned (some bytes) => some (ofBytesBe bytes)
  | _ => none

theorem serialInteger_lowerHex {bytes : List UInt8} (h : bytes ≠ []) :
    serialInteger (String.ofList (lowerHex bytes)) = some (ofBytesBe bytes) := by
  rw [serialInteger, hexToBytes_lowerHex h]

theorem serialInteger_serialText (serialNumber : ℕ) :
    serialInteger (serialText serialNumber) = some serialNumber := by
  rw [serialInteger, hexToBytes_serialText]
  exact congrArg some (ofBytesBe_toBytesBe serialNumber)

/-! ### Issued records -/

/-- The record of an issued certificate with the serial number, revoked since or not. -/
def CertificateRecord.Issued (serialNumber : ℕ) (record : CertificateRecord) : Prop :=
  ∃ request id issuedAt certificatePem notAfter,
    record = HttpApi.issuedRecord request id issuedAt (serialText serialNumber) certificatePem
      notAfter ∨
    ∃ now reason, record = Records.markRevoked now reason (HttpApi.issuedRecord request id issuedAt
      (serialText serialNumber) certificatePem notAfter)

/-- All records are those of issued certificates, with the given serial numbers. -/
def Records.Issued (serials : Uuid → ℕ) (records : Records) : Prop :=
  ∀ id record, records.lookup id = some record → record.Issued (serials id)

theorem CertificateRecord.Issued.serialNumber_eq {serialNumber : ℕ} {record : CertificateRecord}
    (h : record.Issued serialNumber) : record.serialNumber = serialText serialNumber := by
  obtain ⟨_, _, _, _, _, rfl | ⟨_, _, rfl⟩⟩ := h
  · rfl
  · exact Records.serialNumber_markRevoked ..

/-- A revoked record has the time of its revocation. -/
theorem CertificateRecord.Issued.exists_revokedAt {serialNumber : ℕ} {record : CertificateRecord}
    (h : record.Issued serialNumber) (hrevoked : record.revoked = true) :
    ∃ now, record.revokedAt = some now := by
  obtain ⟨_, _, _, _, _, rfl | ⟨now, _, rfl⟩⟩ := h
  · cases hrevoked
  · exact ⟨now, rfl⟩

theorem CertificateRecord.Issued.markRevoked {serialNumber : ℕ} {record : CertificateRecord}
    (h : record.Issued serialNumber) (now : OffsetDateTime) (reason : String) :
    (Records.markRevoked now reason record).Issued serialNumber := by
  obtain ⟨request, id, issuedAt, pem, notAfter, rfl | ⟨now', reason', rfl⟩⟩ := h
  · exact ⟨request, id, issuedAt, pem, notAfter, Or.inr ⟨now, reason, rfl⟩⟩
  · exact ⟨request, id, issuedAt, pem, notAfter, Or.inr ⟨now', reason', rfl⟩⟩

theorem Records.issued_empty (serials : Uuid → ℕ) : Records.Issued serials ∅ := by
  intro id record hrecord
  cases hrecord

namespace Records

variable {records records' : Records} {serials : Uuid → ℕ}

/-- A revocation leaves issued records. -/
theorem Issued.revokeRecord (h : records.Issued serials) {now : OffsetDateTime} {id : Uuid}
    {reason : String} {certificate : CertificateRecord}
    (hrevoke : records.revokeRecord now id reason = some (certificate, records')) :
    records'.Issued serials := by
  obtain ⟨record, hrecord, rfl, rfl⟩ := revokeRecord_eq_some hrevoke
  intro key other hother
  rw [HashMap.lookup_insert_eq_ite] at hother
  split_ifs at hother with hkey
  · cases hother
    rw [hkey]
    exact (h id record hrecord).markRevoked now reason
  · exact h key other hother

/-- The record of an issued certificate joins issued records. -/
theorem Issued.insertRecord (h : records.Issued serials) {record : CertificateRecord}
    {serialNumber : ℕ} (hrecord : record.Issued serialNumber) :
    (records.insertRecord record).Issued (Function.update serials record.id serialNumber) := by
  intro id other hother
  rw [Records.insertRecord, HashMap.lookup_insert_eq_ite] at hother
  split_ifs at hother with hid
  · cases hother
    rw [hid, Function.update_self]
    exact hrecord
  · rw [Function.update_of_ne hid]
    exact h id other hother

/-- Storing the record of an issued certificate leaves issued records. -/
theorem Issued.insert {store store' : CertificateStore} (h : store.records.Issued serials)
    {request : IssueCertificateRequest} {id : Uuid} {issuedAt notAfter : OffsetDateTime}
    {serialNumber : ℕ} {certificatePem : String} {fault : Option PersistFault}
    {result : Except CertificateStoreError Uuid}
    (hinsert : store.insert (HttpApi.issuedRecord request id issuedAt (serialText serialNumber)
      certificatePem notAfter) fault = (result, store')) :
    ∃ serials', store'.records.Issued serials' := by
  rw [CertificateStore.records_of_insert hinsert]
  exact ⟨_, h.insertRecord ⟨request, id, issuedAt, certificatePem, notAfter, Or.inl rfl⟩⟩

end Records

/-- The records that an issuance leaves are issued ones, when those before are. -/
theorem IssuanceService.issued_issue {policy : IssuancePolicy} {principal : AuthenticatedPrincipal}
    {request : IssueCertificateRequest} {env : IssuanceEnvironment} {state : IssuanceState}
    {serials : Uuid → ℕ} (h : state.store.records.Issued serials) : ∃ serials',
      (issue policy principal request env state).2.store.records.Issued serials' := by
  have hends := issue_ends policy principal request env state
  generalize (issue policy principal request env state).1 = result at hends
  generalize (issue policy principal request env state).2 = state' at hends
  cases hends with
  | refused _ => exact ⟨serials, h⟩
  | failed _ => exact ⟨serials, h⟩
  | unreadable _ _ => exact ⟨serials, h⟩
  | unstored _ _ hinsert => exact h.insert hinsert
  | issued _ _ hinsert => exact h.insert hinsert

/-! ### The list -/

/-- The serial numbers of the revoked records, with the times of the revocations, in the order of
the visit. -/
def Records.revocations (records : Records) (serials : Uuid → ℕ) (order : records.Order) :
    List (ℕ × OffsetDateTime) :=
  order.keys.filterMap fun id =>
    match records.lookup id with
    | none => none
    | some record =>
      if record.revoked then record.revokedAt.map fun revokedAt => (serials id, revokedAt) else none

namespace CertificateRevocationList

/-- The certificate that is handed to the signer for an entry, its serial number as a number. -/
def entryPair (entry : CrlEntry) : ℕ × OffsetDateTime :=
  match hexToBytes entry.serialNumber with
  | .returned (some serial) => (ofBytesBe serial, entry.revokedAt)
  | _ => (0, entry.revokedAt)

/-- The certificates handed to the signer, their serial numbers as numbers. -/
theorem map_entryPair_of_forall₂ {entries : List CrlEntry} {certs : List RevokedCertParams}
    (h : List.Forall₂ HandedAs entries certs) :
    certs.map (fun cert => (ofBytesBe cert.serialNumber, cert.revocationTime)) =
      entries.map entryPair := by
  induction h with
  | nil => rfl
  | cons hentry _ ih =>
    rw [List.map_cons, List.map_cons, ih, entryPair, hentry.serialNumber, hentry.revocationTime]

end CertificateRevocationList

namespace CrlManager

variable {records : Records} {serials : Uuid → ℕ} {env : CrlEnvironment}

/-- The entries of the list, one for each revoked record. -/
theorem entries_perm (env : CrlEnvironment) (order : records.Order) :
    (revocationList env records).entries.Perm
      ((order.values.filter fun record => record.revoked).map (revocationEntry env.now)) := by
  rw [revocationList, entries_addRevoked]
  refine List.Perm.map _ (List.Perm.filter _ ?_)
  exact (List.perm_insertionSort _ _).trans ((env.iteration records).values_perm order)

/-- A serial number is on the list exactly when the store has a revoked record with it. -/
theorem containsSerial_revocationList (env : CrlEnvironment) (order : records.Order)
    (serialNumber : String) : (revocationList env records).containsSerial serialNumber =
      records.isRevokedSerial order serialNumber := by
  have hmap : ((order.values.filter fun record => record.revoked).map
      (revocationEntry env.now)).any (fun entry => entry.serialNumber = serialNumber) =
      records.isRevokedSerial order serialNumber := by
    rw [List.any_map, List.any_filter, Records.isRevokedSerial]
    refine congrArg order.values.any (funext fun record => ?_)
    exact Bool.and_comm _ _
  rw [CertificateRevocationList.containsSerial, ← hmap]
  exact (entries_perm env order).any_eq

/-- The pairs of the revoked records are those of the entries. -/
theorem map_entryPair_revoked (h : records.Issued serials) (now : OffsetDateTime)
    (order : records.Order) :
    ((order.values.filter fun record => record.revoked).map (revocationEntry now)).map
      CertificateRevocationList.entryPair = records.revocations serials order := by
  rw [HashMap.Order.values, List.filter_filterMap, List.map_map, List.map_filterMap,
    Records.revocations]
  refine List.filterMap_congr fun id _ => ?_
  cases hrecord : records.lookup id with
  | none => rfl
  | some record =>
    have hissued := h id record hrecord
    cases hrevoked : record.revoked with
    | false => simp [hrevoked]
    | true =>
      obtain ⟨revokedAt, hrevokedAt⟩ := hissued.exists_revokedAt hrevoked
      simp [hrevoked, hrevokedAt, CertificateRevocationList.entryPair, revocationEntry,
        revocationRecord, hissued.serialNumber_eq, hexToBytes_serialText, ofBytesBe_toBytesBe]

/-- Every entry of the list of issued records can be decoded. -/
theorem decodes_of_issued (h : records.Issued serials) {entry : CrlEntry}
    (hentry : entry ∈ (revocationList env records).entries) :
    ∃ serial, hexToBytes entry.serialNumber = .returned (some serial) := by
  obtain ⟨id, record, hrecord, -, rfl⟩ := mem_entries_iff.mp hentry
  refine ⟨toBytesBe (serials id), ?_⟩
  rw [revocationEntry, revocationRecord, (h id record hrecord).serialNumber_eq,
    hexToBytes_serialText]

/-! ### What is produced -/

/-- The list that is signed with a number for these certificates. -/
def signedParams (env : CrlEnvironment) (records : Records) (certs : List RevokedCertParams)
    (crlNumber : ℕ) : CertificateRevocationListParams where
  thisUpdate := (revocationList env records).generatedAt
  nextUpdate := (revocationList env records).nextUpdate
  crlNumber := crlNumber
  revokedCerts := certs

/-- A call of `generate_and_persist` has no list signed, returns none and writes none but those
with these certificates, does not fail because of a serial number, and produces the list whenever
the number can be drawn, the signer succeeds and the file can be written. -/
structure Produces (env : CrlEnvironment) (records : Records) (certs : List RevokedCertParams)
    (files : CrlFiles) : Prop where
  signed_eq : ∀ der, signed env records files = some der →
    ∃ crlNumber, der = signedParams env records certs crlNumber
  returned_eq : ∀ der files', generateAndPersist env records files = (.returned (.ok der), files') →
    ∃ crlNumber, der = signedParams env records certs crlNumber ∧
      signed env records files = some der ∧
      files' = ⟨some (toString crlNumber), some (.signed der)⟩
  written : (generateAndPersist env records files).2.crl = files.crl ∨
    (generateAndPersist env records files).2.crl = some .incomplete ∨
    ∃ crlNumber, (generateAndPersist env records files).2.crl =
      some (.signed (signedParams env records certs crlNumber))
  not_panicked : (generateAndPersist env records files).1 ≠ .panicked
  not_invalidSerialNumber : (generateAndPersist env records files).1 ≠
    .returned (.error (.sign .invalidSerialNumber))
  succeeds : ∀ current, currentCrlNumber files.number env.readsNumber = .ok current →
    current + 1 < 2 ^ 64 → env.writesNumber = .succeeded → env.signs = true →
    env.writesCrl = .succeeded → generateAndPersist env records files =
      (.returned (.ok (signedParams env records certs (current + 1))),
        ⟨some (toString (current + 1)),
          some (.signed (signedParams env records certs (current + 1)))⟩)

section Produces

variable {certs : List RevokedCertParams} {files : CrlFiles} {crlNumber : ℕ} {signs : Bool}
  {der : CertificateRevocationListParams}

/-- What the signer gets are the entries as they are decoded. -/
theorem signedDer_of_revokedCertParams
    (h : CertificateRevocationList.revokedCertParams (revocationList env records).entries =
      .returned (.ok certs)) (crlNumber : ℕ) (signs : Bool) :
    (revocationList env records).signedDer crlNumber signs =
      if signs then .returned (.ok (signedParams env records certs crlNumber))
      else .returned (.error .generation) := by
  rw [CertificateRevocationList.signedDer, h]
  rfl

theorem eq_signedParams_of_signedDer
    (h : CertificateRevocationList.revokedCertParams (revocationList env records).entries =
      .returned (.ok certs))
    (hsigned : (revocationList env records).signedDer crlNumber signs = .returned (.ok der)) :
    der = signedParams env records certs crlNumber := by
  rw [signedDer_of_revokedCertParams h] at hsigned
  cases signs with
  | false => cases hsigned
  | true => exact (Except.ok.inj (Outcome.returned.inj hsigned)).symm

/-- The ways a call goes: it fails before the signature, at the signature, or the list is signed and
written, or not quite. -/
theorem generateAndPersist_cases
    (h : CertificateRevocationList.revokedCertParams (revocationList env records).entries =
      .returned (.ok certs)) (files : CrlFiles) : ∃ number,
    (∃ e, e ≠ .sign .invalidSerialNumber ∧
      generateAndPersist env records files = (.returned (.error e), ⟨number, files.crl⟩)) ∨
    ∃ crlNumber result, result ≠ .error (.sign .invalidSerialNumber) ∧
      generateAndPersist env records files = (.returned result,
        ⟨number, env.writesCrl.file files.crl .incomplete
          (.signed (signedParams env records certs crlNumber))⟩) := by
  have hsign := nextCrlNumber_ne_sign files.number env.readsNumber env.writesNumber
    .invalidSerialNumber
  rw [generateAndPersist]
  generalize nextCrlNumber files.number env.readsNumber env.writesNumber = drawn at hsign ⊢
  obtain ⟨e | crlNumber, number⟩ := drawn
  · exact ⟨number, Or.inl ⟨e, fun heq => hsign (congrArg Except.error heq), rfl⟩⟩
  simp only [signedDer_of_revokedCertParams h]
  cases env.signs with
  | false => exact ⟨number, Or.inl ⟨.sign .generation, by rintro ⟨⟩, rfl⟩⟩
  | true => cases env.writesCrl <;> exact ⟨number, Or.inr ⟨crlNumber, _, by rintro ⟨⟩, rfl⟩⟩

/-- When nothing fails, the list with the next number is produced. -/
theorem generateAndPersist_of_succeeds
    (h : CertificateRevocationList.revokedCertParams (revocationList env records).entries =
      .returned (.ok certs)) {current : ℕ}
    (hcurrent : currentCrlNumber files.number env.readsNumber = .ok current)
    (hlt : current + 1 < 2 ^ 64) (hnumber : env.writesNumber = .succeeded)
    (hsigns : env.signs = true) (hcrl : env.writesCrl = .succeeded) :
    generateAndPersist env records files =
      (.returned (.ok (signedParams env records certs (current + 1))),
        ⟨some (toString (current + 1)),
          some (.signed (signedParams env records certs (current + 1)))⟩) := by
  have hnext : nextCrlNumber files.number env.readsNumber env.writesNumber =
      (.ok (current + 1), some (toString (current + 1))) := by
    rw [nextCrlNumber, hcurrent, hnumber]
    exact if_pos hlt
  rw [generateAndPersist, hnext]
  simp only [signedDer_of_revokedCertParams h, hsigns, hcrl]
  rfl

/-- **What a call produces** when the entries can be decoded. -/
theorem produces_of_revokedCertParams
    (h : CertificateRevocationList.revokedCertParams (revocationList env records).entries =
      .returned (.ok certs)) (files : CrlFiles) : Produces env records certs files where
  signed_eq der hder := by
    obtain ⟨crlNumber, hlist⟩ := signedDer_of_signed hder
    exact ⟨crlNumber, eq_signedParams_of_signedDer h hlist⟩
  returned_eq der files' hder := by
    obtain ⟨current, -, -, hlist, rfl⟩ := generateAndPersist_eq_ok hder
    exact ⟨current + 1, eq_signedParams_of_signedDer h hlist, signed_of_generateAndPersist hder,
      rfl⟩
  written := by
    obtain ⟨number, ⟨e, -, hcall⟩ | ⟨crlNumber, result, -, hcall⟩⟩ :=
      generateAndPersist_cases h files <;> rw [hcall]
    · exact Or.inl rfl
    · cases env.writesCrl with
      | succeeded => exact Or.inr (Or.inr ⟨crlNumber, rfl⟩)
      | failedUnchanged => exact Or.inl rfl
      | failedEmpty => exact Or.inr (Or.inl rfl)
      | failedWritten => exact Or.inr (Or.inr ⟨crlNumber, rfl⟩)
  not_panicked := by
    obtain ⟨number, ⟨e, -, hcall⟩ | ⟨crlNumber, result, -, hcall⟩⟩ :=
      generateAndPersist_cases h files <;> rw [hcall] <;> rintro ⟨⟩
  not_invalidSerialNumber := by
    obtain ⟨number, ⟨e, hne, hcall⟩ | ⟨crlNumber, result, hne, hcall⟩⟩ :=
      generateAndPersist_cases h files <;> rw [hcall] <;> intro heq
    · exact hne (Except.error.inj (Outcome.returned.inj heq))
    · exact hne (Outcome.returned.inj heq)
  succeeds _ := generateAndPersist_of_succeeds h

end Produces

/-- **The list of issued records is that of the revoked certificates.** It has one entry for each
revoked record and contains the serial numbers that the store says are revoked. What is handed to
the signer are the serial numbers of the revoked certificates as numbers, with the times of their
revocations; the signature fails only if the signer does, and no call of `generate_and_persist`
returns or writes any other list. Whatever the bytes of a serial number are, they are decoded from
their text. -/
theorem revocationList_of_issued (h : records.Issued serials) (env : CrlEnvironment)
    (order : records.Order) :
    ((revocationList env records).entries.Perm
        ((order.values.filter fun record => record.revoked).map (revocationEntry env.now)) ∧
      ∀ serialNumber, (revocationList env records).containsSerial serialNumber =
        records.isRevokedSerial order serialNumber) ∧
    (∃ certs, (certs.map fun cert : RevokedCertParams =>
        (ofBytesBe cert.serialNumber, cert.revocationTime)).Perm
          (records.revocations serials order) ∧
      (∀ crlNumber signs, (revocationList env records).signedDer crlNumber signs =
        if signs then .returned (.ok (signedParams env records certs crlNumber))
        else .returned (.error .generation)) ∧
      ∀ files, Produces env records certs files) ∧
    ∀ bytes, bytes ≠ [] → hexToBytes (String.ofList (lowerHex bytes)) = .returned (some bytes) := by
  obtain ⟨certs, hcerts⟩ :=
    CertificateRevocationList.exists_revokedCertParams fun _ hentry => decodes_of_issued h hentry
  have hpairs := CertificateRevocationList.map_entryPair_of_forall₂
    (CertificateRevocationList.forall₂_of_revokedCertParams hcerts)
  refine ⟨⟨entries_perm env order, containsSerial_revocationList env order⟩, ⟨certs, ?_,
    signedDer_of_revokedCertParams hcerts, produces_of_revokedCertParams hcerts⟩,
    fun bytes => hexToBytes_lowerHex⟩
  rw [hpairs, ← map_entryPair_revoked h env.now order]
  exact (entries_perm env order).map _

/-- A store with two issued certificates, the first of them revoked. -/
def twoIssuedRecords : Records :=
  ((∅ : Records).insertRecord (Records.markRevoked 5 "superseded"
    (HttpApi.issuedRecord ⟨"first", [], [], true, false⟩ 1 0 (serialText 10) "" 0))).insertRecord
      (HttpApi.issuedRecord ⟨"second", [], [], true, false⟩ 2 0 (serialText 256) "" 0)

theorem issued_twoIssuedRecords :
    twoIssuedRecords.Issued (Function.update (Function.update (fun _ => 0) 1 10) 2 256) :=
  ((Records.issued_empty _).insertRecord ⟨_, _, _, _, _, Or.inr ⟨_, _, rfl⟩⟩).insertRecord
    ⟨_, _, _, _, _, Or.inl rfl⟩

/-- The list with the number one, of the first certificate, is written and returned. -/
theorem revocationList_of_issued_twoIssuedRecords :
    (revocationList faultlessEnvironment.crl twoIssuedRecords).containsSerial "0a" = true ∧
      ∃ certs : List RevokedCertParams,
        certs.map (fun cert => (ofBytesBe cert.serialNumber, cert.revocationTime)) = [(10, 5)] ∧
        generateAndPersist faultlessEnvironment.crl twoIssuedRecords ⟨none, none⟩ =
          (.returned (.ok ⟨0, updatePeriod, 1, certs⟩),
            ⟨some "1", some (.signed ⟨0, updatePeriod, 1, certs⟩)⟩) := by
  obtain ⟨⟨-, hcontains⟩, ⟨certs, hpairs, -, hproduces⟩, -⟩ := revocationList_of_issued
    issued_twoIssuedRecords faultlessEnvironment.crl (Records.byId twoIssuedRecords)
  refine ⟨(hcontains "0a").trans (by decide), certs, List.perm_singleton.mp hpairs, ?_⟩
  exact (hproduces ⟨none, none⟩).succeeds 0 rfl (by decide) rfl rfl rfl

end CrlManager

end DaemonPki
