import DaemonPki.Foundation.FiniteMap
import DaemonPki.Revocation.Crl
import Mathlib.Data.List.Sort

/-!
# The certificate store

The inventory of the API server (`daemon-pki-api/src/certificates.rs`): a map of records in
memory and its serialization in a file. A mutating method first changes the map, then writes the
whole map to the file; when the second step fails, the first is not undone.

The text of the file is a JSON document. Of the encoding it is used that a map reads back as
itself, so the file is modelled by what `open` reads in it: nothing, a map, or no map at all.

## Main definitions

* `DaemonPki.CertificateRecord`, `DaemonPki.Records`, `DaemonPki.StoreFile`.
* `DaemonPki.Records.insertRecord`, `revokeRecord`, `removeRecord`: the changes of the map.
* `DaemonPki.CertificateStore` with `insert`, `revoke`, `remove` and `persist`.
* `DaemonPki.Records.revokedSerials`, `DaemonPki.Records.KeepsRevoked`.

## Main results

* `DaemonPki.Records.keepsRevoked_insertRecord`, `DaemonPki.Records.keepsRevoked_revokeRecord`:
  what is revoked stays revoked, unless a record is overwritten.
-/

namespace DaemonPki

open Foundation

/-- Source: `certificates.rs`, lines 11–27. -/
structure CertificateRecord where
  id : Uuid
  serialNumber : String
  commonName : String
  dnsNames : List String
  ipAddresses : List String
  clientAuth : Bool
  serverAuth : Bool
  issuer : String
  certificatePem : String
  issuedAt : OffsetDateTime
  notAfter : Option OffsetDateTime
  revoked : Bool
  revokedAt : Option OffsetDateTime
  revocationReason : Option String
  deriving DecidableEq, Repr

/-- The record of a new certificate, with the identifier and the clock reading drawn by the
call. Source: `certificates.rs`, lines 30–57. -/
def CertificateRecord.new (id : Uuid) (now : OffsetDateTime) (serialNumber commonName : String)
    (dnsNames ipAddresses : List String) (clientAuth serverAuth : Bool)
    (issuer certificatePem : String) (notAfter : Option OffsetDateTime) : CertificateRecord where
  id := id
  serialNumber := serialNumber
  commonName := commonName
  dnsNames := dnsNames
  ipAddresses := ipAddresses
  clientAuth := clientAuth
  serverAuth := serverAuth
  issuer := issuer
  certificatePem := certificatePem
  issuedAt := now
  notAfter := notAfter
  revoked := false
  revokedAt := none
  revocationReason := none

/-- Source: `certificates.rs`, lines 60–67. -/
inductive CertificateStoreError
  | io
  | serialization
  deriving DecidableEq, Repr

/-- The records of the certificates, by identifier. -/
abbrev Records := HashMap Uuid CertificateRecord

/-- The iteration by increasing identifier. -/
def Records.byId : HashMap.Iteration Uuid CertificateRecord :=
  .sortedBy BitVec.toNat fun _ _ => BitVec.eq_of_toNat_eq

/-- What `open` reads in an existing file: only white space, the serialization of a map, any other
text, or bytes that are not UTF-8. -/
inductive StoreFile
  | blank
  | json (records : Records)
  | malformed
  | binary
  deriving DecidableEq

/-- The records that `open` reads, from a file that need not exist. Source: `certificates.rs`,
lines 85–95. -/
def StoreFile.read : Option StoreFile → Except CertificateStoreError Records
  | none => .ok ∅
  | some .blank => .ok ∅
  | some (.json records) => .ok records
  | some .malformed => .error .serialization
  | some .binary => .error .io

namespace Records

/-! ### Changes of the map -/

/-- Source: `certificates.rs`, lines 113–120. -/
def insertRecord (records : Records) (record : CertificateRecord) : Records :=
  records.insert record.id record

/-- The record as `revoke` leaves it: only the first revocation is written. Source:
`certificates.rs`, lines 170–175. -/
def markRevoked (now : OffsetDateTime) (reason : String) (record : CertificateRecord) :
    CertificateRecord :=
  if !record.revoked then
    { record with
      revoked := true
      revokedAt := some now
      revocationReason := some reason }
  else record

/-- Source: `certificates.rs`, lines 160–178. -/
def revokeRecord (records : Records) (now : OffsetDateTime) (id : Uuid) (reason : String) :
    Option (CertificateRecord × Records) :=
  match records.lookup id with
  | none => none
  | some record =>
    let updated := markRevoked now reason record
    some (updated, records.insert id updated)

/-- Source: `certificates.rs`, lines 205–212. -/
def removeRecord (records : Records) (id : Uuid) : Option (CertificateRecord × Records) :=
  match records.lookup id with
  | none => none
  | some record => some (record, records.erase id)

/-- All records, the last issued first. Source: `certificates.rs`, lines 139–153. -/
def list (records : Records) (order : records.Order) : List CertificateRecord :=
  order.values.insertionSort fun a b => b.issuedAt ≤ a.issuedAt

/-- Source: `certificates.rs`, lines 185–200. -/
def isRevokedSerial (records : Records) (order : records.Order) (serialNumber : String) : Bool :=
  order.values.any fun record => record.serialNumber = serialNumber && record.revoked

end Records

/-! ### The store and its file -/

/-- Why the map could not be written: its serialization, the directory, the temporary file, or
the renaming of it. -/
inductive PersistFault
  | serialization
  | createDir
  | write
  | rename
  deriving DecidableEq, Repr

/-- The map in memory and the file at the path of the store. -/
structure CertificateStore where
  records : Records
  file : Option StoreFile
  deriving DecidableEq

namespace CertificateStore

/-- Write the map to the file. The file is replaced as a whole by the last step; a fault leaves
it as it was. Source: `certificates.rs`, lines 234–257. -/
def persist (store : CertificateStore) :
    Option PersistFault → Except CertificateStoreError Unit × CertificateStore
  | some .serialization => (.error .serialization, store)
  | some .createDir | some .write | some .rename => (.error .io, store)
  | none => (.ok (), { store with file := some (.json store.records) })

/-- Source: `certificates.rs`, lines 107–125. -/
def insert (store : CertificateStore) (record : CertificateRecord)
    (fault : Option PersistFault) : Except CertificateStoreError Uuid × CertificateStore :=
  let id := record.id
  match persist { store with records := store.records.insertRecord record } fault with
  | (.error e, store') => (.error e, store')
  | (.ok (), store') => (.ok id, store')

/-- Source: `certificates.rs`, lines 127–137. -/
def get (store : CertificateStore) (id : Uuid) : Option CertificateRecord :=
  store.records.lookup id

/-- Source: `certificates.rs`, lines 155–183. -/
def revoke (store : CertificateStore) (now : OffsetDateTime) (id : Uuid) (reason : String)
    (fault : Option PersistFault) :
    Except CertificateStoreError (Option CertificateRecord) × CertificateStore :=
  match store.records.revokeRecord now id reason with
  | none => (.ok none, store)
  | some (updated, records) =>
    match persist { store with records := records } fault with
    | (.error e, store') => (.error e, store')
    | (.ok (), store') => (.ok (some updated), store')

/-- Source: `certificates.rs`, lines 201–219. -/
def remove (store : CertificateStore) (id : Uuid) (fault : Option PersistFault) :
    Except CertificateStoreError (Option CertificateRecord) × CertificateStore :=
  match store.records.removeRecord id with
  | none => (.ok none, store)
  | some (removed, records) =>
    match persist { store with records := records } fault with
    | (.error e, store') => (.error e, store')
    | (.ok (), store') => (.ok (some removed), store')

/-- The two outcomes of `persist`: the file holds the map, or nothing has changed. -/
theorem persist_cases (store : CertificateStore) (fault : Option PersistFault) :
    store.persist fault = (.ok (), { store with file := some (.json store.records) }) ∨
      ∃ e, store.persist fault = (.error e, store) := by
  cases fault with
  | none => exact Or.inl rfl
  | some fault => cases fault <;> exact Or.inr ⟨_, rfl⟩

/-- An insertion is in the map, whatever becomes of the file. -/
theorem records_of_insert {store store' : CertificateStore} {record : CertificateRecord}
    {fault : Option PersistFault} {result : Except CertificateStoreError Uuid}
    (h : store.insert record fault = (result, store')) :
    store'.records = store.records.insertRecord record := by
  rw [insert] at h
  rcases persist_cases { store with records := store.records.insertRecord record } fault with
    hp | ⟨e, hp⟩ <;> rw [hp] at h <;> cases h <;> rfl

end CertificateStore

namespace Records

variable {records records' records'' : Records}

/-! ### Revoked records -/

theorem mem_list {order : records.Order} {record : CertificateRecord} :
    record ∈ records.list order ↔ ∃ id, records.lookup id = some record := by
  rw [list, (List.perm_insertionSort _ _).mem_iff, HashMap.Order.mem_values]

/-- The decoded serial numbers of the revoked records. -/
def revokedSerials (records : Records) : Set (List UInt8) :=
  {serial | ∃ id record, records.lookup id = some record ∧ record.revoked = true ∧
    hexToBytes record.serialNumber = .returned (some serial)}

/-- Every revoked record of `records` is revoked in `records'`, under the same serial number. -/
def KeepsRevoked (records records' : Records) : Prop :=
  ∀ id record, records.lookup id = some record → record.revoked = true →
    ∃ record', records'.lookup id = some record' ∧ record'.revoked = true ∧
      record'.serialNumber = record.serialNumber

theorem KeepsRevoked.refl (records : Records) : records.KeepsRevoked records :=
  fun _ record hrecord hrevoked => ⟨record, hrecord, hrevoked, rfl⟩

theorem KeepsRevoked.trans (h : records.KeepsRevoked records')
    (h' : records'.KeepsRevoked records'') : records.KeepsRevoked records'' := by
  intro id record hrecord hrevoked
  obtain ⟨record', hrecord', hrevoked', hserial⟩ := h id record hrecord hrevoked
  obtain ⟨record'', hrecord'', hrevoked'', hserial'⟩ := h' id record' hrecord' hrevoked'
  exact ⟨record'', hrecord'', hrevoked'', hserial'.trans hserial⟩

theorem KeepsRevoked.revokedSerials_subset (h : records.KeepsRevoked records') :
    records.revokedSerials ⊆ records'.revokedSerials := by
  rintro serial ⟨id, record, hrecord, hrevoked, hserial⟩
  obtain ⟨record', hrecord', hrevoked', heq⟩ := h id record hrecord hrevoked
  exact ⟨id, record', hrecord', hrevoked', heq ▸ hserial⟩

/-- A record with a fresh identifier overwrites none. -/
theorem keepsRevoked_insertRecord {record : CertificateRecord}
    (hfresh : records.lookup record.id = none) :
    records.KeepsRevoked (records.insertRecord record) := by
  intro id other hother hrevoked
  have hne : id ≠ record.id := fun e => by rw [e, hfresh] at hother; cases hother
  exact ⟨other, (Finmap.lookup_insert_of_ne records hne).trans hother, hrevoked, rfl⟩

theorem serialNumber_markRevoked (now : OffsetDateTime) (reason : String)
    (record : CertificateRecord) :
    (markRevoked now reason record).serialNumber = record.serialNumber := by
  rw [markRevoked]
  split_ifs <;> rfl

theorem revoked_markRevoked (now : OffsetDateTime) (reason : String) (record : CertificateRecord) :
    (markRevoked now reason record).revoked = true := by
  rw [markRevoked]
  split_ifs with h
  · rfl
  · simpa using h

theorem lookup_of_revokeRecord_eq_none {now : OffsetDateTime} {id : Uuid} {reason : String}
    (h : records.revokeRecord now id reason = none) : records.lookup id = none := by
  rw [revokeRecord] at h
  split at h
  next hrecord => exact hrecord
  next => cases h

/-- What a revocation does: the record is revoked afterwards, under the same serial number, and
every other record is as it was. -/
theorem revokeRecord_eq_some {now : OffsetDateTime} {id : Uuid} {reason : String}
    {updated : CertificateRecord}
    (h : records.revokeRecord now id reason = some (updated, records')) :
    ∃ record, records.lookup id = some record ∧ updated = markRevoked now reason record ∧
      records' = records.insert id updated := by
  rw [revokeRecord] at h
  cases hrecord : records.lookup id with
  | none =>
    rw [hrecord] at h
    cases h
  | some record =>
    rw [hrecord] at h
    cases h
    exact ⟨record, rfl, rfl, rfl⟩

/-- What a removal does: the record is gone, and every other record is as it was. -/
theorem removeRecord_eq_some {id : Uuid} {removed : CertificateRecord}
    (h : records.removeRecord id = some (removed, records')) :
    records.lookup id = some removed ∧ records' = records.erase id := by
  rw [removeRecord] at h
  cases hrecord : records.lookup id with
  | none =>
    rw [hrecord] at h
    cases h
  | some record =>
    rw [hrecord] at h
    cases h
    exact ⟨rfl, rfl⟩

/-- The reason does not matter when the record is revoked already, or not there. -/
theorem revokeRecord_congr {id : Uuid}
    (h : ∀ record, records.lookup id = some record → record.revoked = true) (now : OffsetDateTime)
    (reason reason' : String) :
    records.revokeRecord now id reason = records.revokeRecord now id reason' := by
  rw [revokeRecord, revokeRecord]
  cases hrecord : records.lookup id with
  | none => rfl
  | some record => simp only [markRevoked, h record hrecord, Bool.not_true, Bool.false_eq_true,
      if_false]

theorem keepsRevoked_revokeRecord {now : OffsetDateTime} {id : Uuid} {reason : String}
    {updated : CertificateRecord}
    (h : records.revokeRecord now id reason = some (updated, records')) :
    records.KeepsRevoked records' := by
  obtain ⟨record, hrecord, rfl, rfl⟩ := revokeRecord_eq_some h
  intro k other hother hrevoked
  rw [HashMap.lookup_insert_eq_ite]
  split_ifs with hk
  · subst hk
    obtain rfl : record = other := Option.some.inj (hrecord.symm.trans hother)
    exact ⟨_, rfl, revoked_markRevoked now reason record,
      serialNumber_markRevoked now reason record⟩
  · exact ⟨other, hother, hrevoked, rfl⟩

end Records

/-- What a revocation that returns a record has done: the record is in the map and in the file as
it was returned. -/
theorem CertificateStore.revoke_eq_ok_some {store store' : CertificateStore} {now : OffsetDateTime}
    {id : Uuid} {reason : String} {fault : Option PersistFault} {updated : CertificateRecord}
    (h : store.revoke now id reason fault = (.ok (some updated), store')) :
    ∃ record, store.records.lookup id = some record ∧
      updated = Records.markRevoked now reason record ∧
      store'.records = store.records.insert id updated ∧
      store'.file = some (.json store'.records) := by
  rw [revoke] at h
  cases hrevoke : store.records.revokeRecord now id reason with
  | none =>
    rw [hrevoke] at h
    cases h
  | some pair =>
    obtain ⟨marked, records⟩ := pair
    obtain ⟨record, hrecord, rfl, rfl⟩ := Records.revokeRecord_eq_some hrevoke
    rw [hrevoke] at h
    rcases persist_cases { store with
        records := store.records.insert id (Records.markRevoked now reason record) } fault with
      hp | ⟨e, hp⟩ <;> simp only [hp] at h <;> cases h
    exact ⟨record, hrecord, rfl, rfl, rfl⟩

end DaemonPki
