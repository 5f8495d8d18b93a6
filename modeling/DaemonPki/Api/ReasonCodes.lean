import DaemonPki.Api.CrlManager

/-!
# Reason codes on the revocation list

The way of a reason from the operator to the revocation list: the revoke endpoint stores the text
that it is sent (`daemon-pki-api/src/http.rs`), the manager of the list reads the text as a reason
(`daemon-pki-api/src/crl.rs`), and the signer of the list turns the reason into a code
(`daemon-pki-core/src/revocation/crl.rs`). One of the reasons that the manager reads takes a
certificate off a list, and it is passed on like the others.

## Main definitions

* `DaemonPki.NamesRemoval`: the texts that are read as `removeFromCRL`.
* `DaemonPki.reasonInEffect`: the text under which a certificate is listed.
* `DaemonPki.CrlManager.EntryOf`, `DaemonPki.CrlManager.ReadsAsRevoked`.

## Main results

* `DaemonPki.parseReason_eq_removeFromCrl_iff`.
* `DaemonPki.CrlManager.readsAsRevoked_iff`: which revocations read as revocations.
-/

namespace DaemonPki

open Foundation

/-! ### Reasons -/

/-- The text is a spelling of `removeFromCRL`, up to white space around it and case. -/
def NamesRemoval (value : String) : Prop :=
  String.ofList (Text.toAsciiLowercase (Text.trim value.toList)) ∈
    ["removefromcrl", "remove_from_crl", "remove from crl"]

instance (value : String) : Decidable (NamesRemoval value) := inferInstanceAs (Decidable (_ ∈ _))

theorem parseReason_eq_removeFromCrl_iff {value : String} :
    parseReason value = .removeFromCrl ↔ NamesRemoval value := by
  rw [parseReason, NamesRemoval]
  generalize String.ofList (Text.toAsciiLowercase (Text.trim value.toList)) = text
  split <;> simp_all

/-- The second mapping keeps the reasons apart. -/
theorem mapReason_eq_removeFromCrl_iff {reason : RevocationReason} :
    mapReason reason = .removeFromCrl ↔ reason = .removeFromCrl := by
  cases reason <;> decide

/-- The text under which a certificate is listed once it was revoked with a request for the given
reason: a first revocation writes the reason of the request, a later one leaves what is there. -/
def reasonInEffect (record : CertificateRecord) (reason : Option String) : String :=
  if record.revoked then record.revocationReason.getD "unspecified"
  else reason.getD "revoked by operator"

theorem revocationReason_markRevoked (now : OffsetDateTime) (reason : Option String)
    (record : CertificateRecord) :
    (Records.markRevoked now (reason.getD "revoked by operator") record).revocationReason.getD
      "unspecified" = reasonInEffect record reason := by
  rw [Records.markRevoked, reasonInEffect]
  cases record.revoked <;> rfl

namespace CrlManager

variable {env : CrlEnvironment} {records : Records} {files files' : CrlFiles} {crlNumber : ℕ}
  {signs : Bool} {der : CertificateRevocationListParams} {certificate : CertificateRecord}

/-! ### Entries of a list -/

/-- The records that are on the list, in the order of their entries. -/
def revokedRecords (env : CrlEnvironment) (records : Records) : List CertificateRecord :=
  (records.list (env.iteration records)).filter fun certificate => certificate.revoked

theorem mem_revokedRecords_iff : certificate ∈ revokedRecords env records ↔
    (∃ id, records.lookup id = some certificate) ∧ certificate.revoked = true := by
  rw [revokedRecords, List.mem_filter, Records.mem_list]

/-- A signed list has one certificate for each of these records, in their order. -/
theorem handedAs_of_signedDer
    (h : (revocationList env records).signedDer crlNumber signs = .returned (.ok der)) :
    List.Forall₂ (fun certificate cert =>
        CertificateRevocationList.HandedAs (revocationEntry env.now certificate) cert)
      (revokedRecords env records) der.revokedCerts := by
  obtain ⟨-, certs, hcerts, rfl⟩ := CertificateRevocationList.signedDer_eq_ok_iff.mp h
  have hall := CertificateRevocationList.forall₂_of_revokedCertParams hcerts
  rw [revocationList, entries_addRevoked] at hall
  exact List.forall₂_map_left_iff.mp hall

/-- The entry of a signed list for a record of the store. -/
def EntryOf (env : CrlEnvironment) (records : Records) (der : CertificateRevocationListParams)
    (certificate : CertificateRecord) (entry : RevokedCertParams) : Prop :=
  (certificate, entry) ∈ (revokedRecords env records).zip der.revokedCerts

/-- Every revoked record has an entry. -/
theorem exists_entryOf
    (h : (revocationList env records).signedDer crlNumber signs = .returned (.ok der))
    (hcertificate : certificate ∈ revokedRecords env records) :
    ∃ entry, EntryOf env records der certificate entry := by
  obtain ⟨i, hi, rfl⟩ := List.mem_iff_getElem.mp hcertificate
  have hlength := (handedAs_of_signedDer h).length_eq
  have hi' : i < der.revokedCerts.length := hlength ▸ hi
  refine ⟨der.revokedCerts[i], List.mem_iff_getElem.mpr ⟨i, ?_, List.getElem_zip⟩⟩
  rw [List.length_zip]
  exact lt_min hi hi'

theorem reason_revocationEntry (now : OffsetDateTime) (certificate : CertificateRecord) :
    (revocationEntry now certificate).reason =
      parseReason (certificate.revocationReason.getD "unspecified") := by
  rw [revocationEntry, revocationRecord]

/-- The code of an entry is what the reason of its record is mapped to. -/
theorem reasonCode_of_entryOf
    (h : (revocationList env records).signedDer crlNumber signs = .returned (.ok der))
    {entry : RevokedCertParams} (hentry : EntryOf env records der certificate entry) :
    entry.reasonCode =
      some (mapReason (parseReason (certificate.revocationReason.getD "unspecified"))) := by
  have hcode := (List.forall₂_zip (handedAs_of_signedDer h) hentry).reasonCode
  rwa [reason_revocationEntry] at hcode

/-- The entries for the record have a code, and it is not `removeFromCRL`. -/
def ReadsAsRevoked (env : CrlEnvironment) (records : Records)
    (der : CertificateRevocationListParams) (certificate : CertificateRecord) : Prop :=
  ∀ entry, EntryOf env records der certificate entry →
    ∃ code, entry.reasonCode = some code ∧ code ≠ .removeFromCrl

/-- A record on a signed list reads as revoked unless its reason names the removal. -/
theorem readsAsRevoked_of_signedDer_iff
    (h : (revocationList env records).signedDer crlNumber signs = .returned (.ok der))
    (hcertificate : certificate ∈ revokedRecords env records) :
    ReadsAsRevoked env records der certificate ↔
      ¬NamesRemoval (certificate.revocationReason.getD "unspecified") := by
  rw [← parseReason_eq_removeFromCrl_iff, ← mapReason_eq_removeFromCrl_iff]
  constructor
  · intro hreads
    obtain ⟨entry, hentry⟩ := exists_entryOf h hcertificate
    obtain ⟨code, hcode, hne⟩ := hreads entry hentry
    rw [reasonCode_of_entryOf h hentry] at hcode
    rwa [Option.some.inj hcode]
  · intro hne entry hentry
    exact ⟨_, reasonCode_of_entryOf h hentry, hne⟩

/-- **Which revocations read as revocations.** After a request to revoke a record of the store was
carried out, the entry for the record on a list that is produced says that it is revoked exactly
when the reason in effect does not name the removal from the list. -/
theorem readsAsRevoked_iff {store store' : CertificateStore} {now : OffsetDateTime} {id : Uuid}
    {reason : Option String} {fault : Option PersistFault} {record updated : CertificateRecord}
    (hrecord : store.get id = some record)
    (hrevoke : store.revoke now id (reason.getD "revoked by operator") fault =
      (.ok (some updated), store'))
    (hproduced : generateAndPersist env store'.records files = (.returned (.ok der), files')) :
    ReadsAsRevoked env store'.records der updated ↔
      ¬NamesRemoval (reasonInEffect record reason) := by
  obtain ⟨record', hrecord', rfl, hrecords, -⟩ := CertificateStore.revoke_eq_ok_some hrevoke
  obtain rfl : record' = record := Option.some.inj (hrecord'.symm.trans hrecord)
  obtain ⟨number, hsigned⟩ := signedDer_of_generateAndPersist hproduced
  have hcertificate : Records.markRevoked now (reason.getD "revoked by operator") record' ∈
      revokedRecords env store'.records := by
    refine mem_revokedRecords_iff.mpr ⟨⟨id, ?_⟩, Records.revoked_markRevoked _ _ _⟩
    rw [hrecords]
    exact Finmap.lookup_insert _
  rw [readsAsRevoked_of_signedDer_iff hsigned hcertificate, revocationReason_markRevoked]

/-- An environment in which nothing fails. -/
def faultless : CrlEnvironment :=
  ⟨true, .succeeded, 0, 0, 0, Records.byId, true, .succeeded⟩

/-- A store with one certificate. -/
def oneCertificate : CertificateStore :=
  ((CertificateStore.mk ∅ none).insert (.new 1 0 "0a" "workload" [] [] true false "" "" none)
    none).2

theorem readsAsRevoked_iff_superseded : ∃ updated store' der files',
    oneCertificate.revoke 5 1 "superseded" none = (.ok (some updated), store') ∧
      generateAndPersist faultless store'.records ⟨none, none⟩ =
        (.returned (.ok der), files') ∧
      ReadsAsRevoked faultless store'.records der updated := by
  have hrecord : oneCertificate.get 1 =
      some (.new 1 0 "0a" "workload" [] [] true false "" "" none) := rfl
  obtain ⟨updated, store', der, files', hrevoke, hproduced⟩ : ∃ updated store' der files',
      oneCertificate.revoke 5 1 ((some "superseded").getD "revoked by operator") none =
        (.ok (some updated), store') ∧
      generateAndPersist faultless store'.records ⟨none, none⟩ = (.returned (.ok der), files') :=
    ⟨_, _, _, _, rfl, rfl⟩
  have hreads := (readsAsRevoked_iff hrecord hrevoke hproduced).mpr (by decide)
  exact ⟨updated, store', der, files', hrevoke, hproduced, hreads⟩

/-- A certificate that is revoked for the reason `removeFromCRL` is on the list with this code. -/
theorem not_readsAsRevoked : ∃ updated store' der files',
    oneCertificate.revoke 5 1 "removeFromCRL" none = (.ok (some updated), store') ∧
      generateAndPersist faultless store'.records ⟨none, none⟩ =
        (.returned (.ok der), files') ∧
      ¬ReadsAsRevoked faultless store'.records der updated := by
  refine ⟨_, _, _, _, rfl, rfl, fun h => ?_⟩
  obtain ⟨code, hcode, hne⟩ := h ⟨[10], 5, some .removeFromCrl, none⟩ List.mem_cons_self
  cases hcode
  exact hne rfl

end CrlManager

end DaemonPki
