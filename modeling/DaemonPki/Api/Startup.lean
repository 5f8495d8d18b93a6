import DaemonPki.Ca.Authority
import DaemonPki.Foundation.Checks
import DaemonPki.Foundation.Transition

/-!
# The start of the server

What the server does with its data directory before it listens
(`daemon-pki-api/src/bin/server.rs`): it loads or creates the root authority, the intermediate
authority and its own certificate, each kept in two files. The files are written one by one, and a
start may fail or crash before, between and during the writes, which leaves one file of a pair or a
part of a text. What carries the hierarchy over such starts is that a pair is created only where
neither file exists, and that no later pair is begun before the earlier one is complete.

## Main definitions

* `DaemonPki.loadOrCreate`: load the pair, create it, or refuse.
* `DaemonPki.loadOrCreateRoot`, `DaemonPki.loadOrCreateIntermediate`,
  `DaemonPki.loadOrCreateServerCertificate`, `DaemonPki.start`.
* `DaemonPki.PairFiles.Unusable`, `DaemonPki.PairFiles.Holds`: what a pair of files amounts to.
* `DaemonPki.Starts`, `DaemonPki.starting`: the starts on one directory.

## Main results

* `DaemonPki.hierarchy_of_run`: the authorities are never replaced.
-/

namespace DaemonPki

open Foundation

/-! ### Pairs of files -/

/-- The texts of a certificate and of its key, as far as the files exist. -/
structure PairFiles where
  certificate : Option String
  key : Option String
  deriving DecidableEq, Repr

/-- No file of the pair. -/
def PairFiles.absent : PairFiles := ⟨none, none⟩

/-- The names of the two files, and what the errors say about the pair. -/
structure PairNames where
  certificate : String
  key : String
  incomplete : String
  deriving DecidableEq, Repr

/-- What `fs::write` of a file that does not exist comes to. It is `stopped` when it fails or the
process crashes there: then nothing is left, or the text `left`. -/
inductive FileWrite
  | completed
  | stopped (left : Option String)
  deriving DecidableEq, Repr

/-- What the file system does for one pair. -/
structure PairEnvironment where
  readsCertificate : Bool
  readsKey : Bool
  writesCertificate : FileWrite
  writesKey : FileWrite
  deriving DecidableEq, Repr

/-- The context of the error that ends a start. The names are those of files in the data
directory. -/
inductive StartError
  | read (name : String)
  | write (name : String)
  | authority (context : String) (error : CaError)
  | issuance (context : String) (error : IssuanceError)
  | incomplete (reason : String)
  deriving DecidableEq, Repr

/-- Loads a pair when both files exist, creates it when neither does, and refuses otherwise.
Creation yields the result and the two texts to write. -/
def loadOrCreate {α : Type} (names : PairNames) (load : String → String → Except StartError α)
    (create : Except StartError (α × String × String)) (env : PairEnvironment)
    (files : PairFiles) : Except StartError α × PairFiles :=
  match files.certificate, files.key with
  | some certificate, some key =>
    if !env.readsCertificate then (.error (.read names.certificate), files)
    else if !env.readsKey then (.error (.read names.key), files)
    else (load certificate key, files)
  | none, none =>
    match create with
    | .error e => (.error e, files)
    | .ok (created, certificate, key) =>
      match env.writesCertificate with
      | .stopped left => (.error (.write names.certificate), { files with certificate := left })
      | .completed =>
        match env.writesKey with
        | .stopped left =>
          (.error (.write names.key), { certificate := some certificate, key := left })
        | .completed => (.ok created, { certificate := some certificate, key := some key })
  | _, _ => (.error (.incomplete names.incomplete), files)

/-- What one call of `load_or_create_root` or `load_or_create_intermediate` meets: the file system,
and the key and the randomness that would be drawn. -/
structure AuthorityEnvironment (Key : Type) where
  files : PairEnvironment
  key : Option Key
  seed : ℕ

variable {Key Issuer : Type}

/-- The pair of an authority: `context` is what the errors of `load` and `generate` say. -/
def loadOrCreateAuthority (crates : CaCrates Key Issuer) (names : PairNames)
    (loadContext generateContext : String)
    (load : String → String → Except CaError (CertificateAuthority Issuer))
    (generate : Option Key → ℕ → Except CaError (CertificateAuthority Issuer))
    (env : AuthorityEnvironment Key) (files : PairFiles) :
    Except StartError (CertificateAuthority Issuer) × PairFiles :=
  loadOrCreate names
    (fun certificate key => (load certificate key).mapError (.authority loadContext))
    (match generate env.key env.seed with
      | .error e => .error (.authority generateContext e)
      | .ok ca => .ok (ca, ca.certificatePem, ca.privateKeyPem crates))
    env.files files

/-- Source: `server.rs`, lines 26–58. -/
def loadOrCreateRoot (crates : CaCrates Key Issuer) (env : AuthorityEnvironment Key)
    (files : PairFiles) : Except StartError (RootCa Issuer) × PairFiles :=
  loadOrCreateAuthority crates
    { certificate := "root-ca.pem"
      key := "root-ca-key.pem"
      incomplete :=
        "root CA storage is incomplete: both root-ca.pem and root-ca-key.pem must exist" }
    "failed to load persisted root CA" "failed to generate root CA"
    (RootCa.fromPem crates)
    (fun key seed => RootCa.generate crates key seed "Daemon PKI Root CA") env files

/-- Source: `server.rs`, lines 60–98. -/
def loadOrCreateIntermediate (crates : CaCrates Key Issuer) (root : RootCa Issuer)
    (env : AuthorityEnvironment Key) (files : PairFiles) :
    Except StartError (IntermediateCa Issuer) × PairFiles :=
  loadOrCreateAuthority crates
    { certificate := "intermediate-ca.pem"
      key := "intermediate-ca-key.pem"
      incomplete :=
        "intermediate CA storage is incomplete: both intermediate-ca.pem and " ++
          "intermediate-ca-key.pem must exist" }
    "failed to load persisted intermediate CA" "failed to generate intermediate CA"
    (IntermediateCa.fromPem crates)
    (fun key seed => IntermediateCa.generate crates key seed root "Daemon PKI Workload CA")
    env files

/-- What one call of `load_or_create_server_certificate` meets: the file system, what the issuer of
the certificate does, and the text of the key that is drawn. -/
structure ServerCertificateEnvironment where
  files : PairEnvironment
  issuer : IssuerEnvironment
  keyPem : String

/-- The request for the certificate of the server. Source: `server.rs`, lines 118–120. -/
def serverCertificateRequest : CertificateRequest :=
  (CertificateRequest.new "daemon-pki-api.internal").withDnsName "daemon-pki-api.internal"

/-- The texts that are found are not parsed here. Source: `server.rs`, lines 100–146. -/
def loadOrCreateServerCertificate (env : ServerCertificateEnvironment) (files : PairFiles) :
    Except StartError (String × String) × PairFiles :=
  loadOrCreate
    { certificate := "server-cert.pem"
      key := "server-key.pem"
      incomplete :=
        "server certificate storage is incomplete: both server-cert.pem and server-key.pem must " ++
          "exist" }
    (fun certificate key => .ok (certificate, key))
    (match CertificateIssuer.issue env.issuer serverCertificateRequest with
      | .error e => .error (.issuance "failed to issue API server certificate" e)
      | .ok certificate =>
        .ok ((certificate.pem, env.keyPem), certificate.pem, env.keyPem))
    env.files files

/-! ### A start -/

/-- The three pairs of the data directory. -/
structure DataDir where
  root : PairFiles
  intermediate : PairFiles
  server : PairFiles
  deriving DecidableEq, Repr

/-- The directory of the first start. -/
def DataDir.empty : DataDir := ⟨.absent, .absent, .absent⟩

/-- What one start meets. -/
structure StartEnvironment (Key : Type) where
  root : AuthorityEnvironment Key
  intermediate : AuthorityEnvironment Key
  server : ServerCertificateEnvironment

/-- How far a start gets. -/
inductive StartOutcome (Issuer : Type)
  | noRoot (error : StartError)
  | noIntermediate (root : RootCa Issuer) (error : StartError)
  | noServerCertificate (root : RootCa Issuer) (intermediate : IntermediateCa Issuer)
      (error : StartError)
  | started (root : RootCa Issuer) (intermediate : IntermediateCa Issuer)
      (serverCertificate : String × String)

namespace StartOutcome

/-- The root that `load_or_create_root` returned, if the start got past it. -/
def root? : StartOutcome Issuer → Option (RootCa Issuer)
  | noRoot _ => none
  | noIntermediate root _ | noServerCertificate root _ _ | started root _ _ => some root

/-- The intermediate that `load_or_create_intermediate` returned, if the start got past it. -/
def intermediate? : StartOutcome Issuer → Option (IntermediateCa Issuer)
  | noRoot _ | noIntermediate _ _ => none
  | noServerCertificate _ intermediate _ | started _ intermediate _ => some intermediate

/-- Whether the start has the three of them. -/
def isStarted : StartOutcome Issuer → Bool
  | started _ _ _ => true
  | _ => false

end StartOutcome

/-- Source: `server.rs`, lines 184–196. -/
def start (crates : CaCrates Key Issuer) (env : StartEnvironment Key) (dir : DataDir) :
    StartOutcome Issuer × DataDir :=
  match loadOrCreateRoot crates env.root dir.root with
  | (.error e, rootFiles) => (.noRoot e, { dir with root := rootFiles })
  | (.ok root, rootFiles) =>
    match loadOrCreateIntermediate crates root env.intermediate dir.intermediate with
    | (.error e, intermediateFiles) =>
      (.noIntermediate root e,
        { dir with root := rootFiles, intermediate := intermediateFiles })
    | (.ok intermediate, intermediateFiles) =>
      match loadOrCreateServerCertificate env.server dir.server with
      | (.error e, serverFiles) =>
        (.noServerCertificate root intermediate e, ⟨rootFiles, intermediateFiles, serverFiles⟩)
      | (.ok serverCertificate, serverFiles) =>
        (.started root intermediate serverCertificate,
          ⟨rootFiles, intermediateFiles, serverFiles⟩)

/-! ### The cases of `loadOrCreate` -/

/-- One file of the pair exists, and the other does not. -/
def PairFiles.Incomplete (files : PairFiles) : Prop :=
  files.certificate.isSome ≠ files.key.isSome

theorem PairFiles.Incomplete.ne_absent {files : PairFiles} (h : files.Incomplete) :
    files ≠ .absent := by
  rintro rfl
  exact h rfl

section LoadOrCreate

variable {α : Type} {names : PairNames} {load : String → String → Except StartError α}
  {create : Except StartError (α × String × String)} {env : PairEnvironment}
  {files files' : PairFiles} {result : Except StartError α} {certificate key : String}

/-- Two files are loaded and stay. -/
theorem loadOrCreate_of_eq_some (hcertificate : files.certificate = some certificate)
    (hkey : files.key = some key)
    (h : loadOrCreate names load create env files = (result, files')) :
    files' = files ∧ ∀ a, result = .ok a → load certificate key = .ok a := by
  simp only [loadOrCreate, hcertificate, hkey] at h
  split_ifs at h
  · cases h
    exact ⟨rfl, fun a ha => by cases ha⟩
  · cases h
    exact ⟨rfl, fun a ha => by cases ha⟩
  · cases h
    exact ⟨rfl, fun a ha => ha⟩

/-- A single file is refused and stays. -/
theorem loadOrCreate_of_incomplete (hfiles : files.Incomplete) :
    loadOrCreate names load create env files = (.error (.incomplete names.incomplete), files) := by
  rw [PairFiles.Incomplete] at hfiles
  cases hcertificate : files.certificate with
  | none =>
    cases hkey : files.key with
    | none => simp [hcertificate, hkey] at hfiles
    | some key => simp only [loadOrCreate, hcertificate, hkey]
  | some certificate =>
    cases hkey : files.key with
    | none => simp only [loadOrCreate, hcertificate, hkey]
    | some key => simp [hcertificate, hkey] at hfiles

/-- Files that exist stay. -/
theorem loadOrCreate_of_ne_absent (hfiles : files ≠ .absent) :
    (loadOrCreate names load create env files).2 = files := by
  by_cases hincomplete : files.Incomplete
  · rw [loadOrCreate_of_incomplete hincomplete]
  · obtain ⟨certificate, key⟩ := files
    cases certificate with
    | none =>
      cases key with
      | none => exact absurd rfl hfiles
      | some key => simp [PairFiles.Incomplete] at hincomplete
    | some certificate =>
      cases key with
      | none => simp [PairFiles.Incomplete] at hincomplete
      | some key => exact (loadOrCreate_of_eq_some rfl rfl (Prod.eta _).symm).1

/-- Where there is no file a pair is created. A start that is stopped leaves at most a certificate
without a key, or a certificate and what the write of the key left. -/
theorem loadOrCreate_absent
    (h : loadOrCreate names load create env .absent = (result, files')) :
    ((∃ e, result = .error e) ∧
        (files' = .absent ∨ files'.Incomplete ∨
          ∃ a certificate key left, create = .ok (a, certificate, key) ∧
            env.writesKey = .stopped (some left) ∧
            files' = { certificate := some certificate, key := some left })) ∨
      ∃ a certificate key, create = .ok (a, certificate, key) ∧ result = .ok a ∧
        files' = { certificate := some certificate, key := some key } := by
  simp only [loadOrCreate, PairFiles.absent] at h
  split at h
  · cases h
    exact Or.inl ⟨⟨_, rfl⟩, Or.inl rfl⟩
  next _ a certificate key =>
    split at h
    next left hcertificate =>
      cases h
      refine Or.inl ⟨⟨_, rfl⟩, ?_⟩
      cases left with
      | none => exact Or.inl rfl
      | some left => exact Or.inr (Or.inl (by simp [PairFiles.Incomplete]))
    next hcertificate =>
      split at h
      next left hkey =>
        cases h
        refine Or.inl ⟨⟨_, rfl⟩, Or.inr ?_⟩
        cases left with
        | none => exact Or.inl (by simp [PairFiles.Incomplete])
        | some left => exact Or.inr ⟨a, certificate, key, left, rfl, hkey, rfl⟩
      next hkey =>
        cases h
        exact Or.inr ⟨a, certificate, key, rfl, rfl, rfl⟩

end LoadOrCreate

/-! ### The pair of an authority -/

/-- A pair from which no authority is loaded: a file is missing, or the text of the key is not
taken for one. -/
def PairFiles.Unusable (crates : CaCrates Key Issuer) (files : PairFiles) : Prop :=
  files.Incomplete ∨ ∃ text, files.key = some text ∧ crates.RejectsKey text

/-- A pair with the certificate and the key of an authority. -/
structure PairFiles.Holds (crates : CaCrates Key Issuer) (ca : CertificateAuthority Issuer)
    (files : PairFiles) : Prop where
  certificate : files.certificate = some ca.certificatePem
  key : files.key = some (ca.privateKeyPem crates)
  parsePem : crates.parsePem ca.certificatePem = some ca.certificateDer

/-- What a pair amounts to, and which authorities have been returned from it. -/
inductive PairStatus (crates : CaCrates Key Issuer) (files : PairFiles)
    (returned : List (CertificateAuthority Issuer)) : Prop
  | absent (hfiles : files = .absent) (hreturned : returned = [])
  | unusable (hfiles : files.Unusable crates) (hreturned : returned = [])
  | holds (ca : CertificateAuthority Issuer) (hfiles : files.Holds crates ca)
      (hreturned : ∀ ca' ∈ returned, ca'.Same crates ca)

/-- The text that a stopped write of the key leaves is not taken for a key, unless it is whole. -/
def AuthorityEnvironment.Truncates (crates : CaCrates Key Issuer)
    (env : AuthorityEnvironment Key) : Prop :=
  ∀ text, env.files.writesKey = .stopped (some text) →
    crates.RejectsKey text ∨ env.key.map crates.serializePem = some text

namespace PairFiles

variable {crates : CaCrates Key Issuer} {ca ca' : CertificateAuthority Issuer}
  {files : PairFiles}

theorem Holds.ne_absent (h : files.Holds crates ca) : files ≠ .absent := by
  rintro rfl
  cases h.certificate

theorem Unusable.ne_absent (h : files.Unusable crates) : files ≠ .absent := by
  rintro rfl
  rcases h with h | ⟨text, htext, -⟩
  · exact h rfl
  · cases htext

/-- A pair holds one authority. -/
theorem Holds.same (hlawful : crates.Lawful) (h : files.Holds crates ca)
    (h' : files.Holds crates ca') : ca.Same crates ca' := by
  have hcertificate := Option.some.inj (h.certificate.symm.trans h'.certificate)
  have hkey := congrArg crates.keyFromPem (Option.some.inj (h.key.symm.trans h'.key))
  simp only [CertificateAuthority.privateKeyPem, hlawful.keyFromPem_serializePem,
    Option.some.injEq] at hkey
  have hder : some ca.certificateDer = some ca'.certificateDer := by
    rw [← h.parsePem, hcertificate, h'.parsePem]
  exact ⟨hcertificate, Option.some.inj hder, hkey⟩

/-- A pair that holds an authority is not unusable. -/
theorem Holds.not_unusable (hlawful : crates.Lawful) (h : files.Holds crates ca) :
    ¬ files.Unusable crates := by
  rintro (hincomplete | ⟨text, htext, hrejects⟩)
  · exact hincomplete (by rw [h.certificate, h.key]; rfl)
  · rw [h.key, Option.some.injEq] at htext
    rw [← htext] at hrejects
    exact hlawful.not_rejectsKey _ hrejects

/-- What is the same as an authority that a pair holds, the pair holds too. -/
theorem Holds.of_same (h : files.Holds crates ca) (hsame : ca'.Same crates ca) :
    files.Holds crates ca' := by
  obtain ⟨hcertificate, hder, hkey⟩ := hsame
  exact ⟨by rw [h.certificate, hcertificate],
    by rw [h.key, CertificateAuthority.privateKeyPem, CertificateAuthority.privateKeyPem, hkey],
    by rw [hcertificate, h.parsePem, hder]⟩

end PairFiles

/-- What was returned from a pair, its files hold. -/
theorem PairStatus.holds_of_mem {crates : CaCrates Key Issuer} {files : PairFiles}
    {returned : List (CertificateAuthority Issuer)} {ca : CertificateAuthority Issuer}
    (h : PairStatus crates files returned) (hca : ca ∈ returned) : files.Holds crates ca := by
  cases h with
  | absent _ hreturned => exact absurd hca (by rw [hreturned]; exact List.not_mem_nil)
  | unusable _ hreturned => exact absurd hca (by rw [hreturned]; exact List.not_mem_nil)
  | holds ca' hfiles hreturned => exact hfiles.of_same (hreturned ca hca)

section LoadOrCreateAuthority

variable {crates : CaCrates Key Issuer} {names : PairNames}
  {name loadContext generateContext : String}
  {generate : Option Key → ℕ → Except CaError (CertificateAuthority Issuer)}
  {env : AuthorityEnvironment Key} {files files' : PairFiles}
  {result : Except StartError (CertificateAuthority Issuer)} {ca : CertificateAuthority Issuer}
  {returned : List (CertificateAuthority Issuer)}

/-- A pair that is unusable is refused and stays. -/
theorem loadOrCreateAuthority_of_unusable (hfiles : files.Unusable crates) :
    ∃ e, loadOrCreateAuthority crates names loadContext generateContext
      (CertificateAuthority.fromPem crates name) generate env files = (.error e, files) := by
  by_cases hincomplete : files.Incomplete
  · exact ⟨_, loadOrCreate_of_incomplete hincomplete⟩
  · obtain ⟨text, htext, hrejects⟩ := hfiles.resolve_left hincomplete
    cases hcertificate : files.certificate with
    | none => exact absurd (by simp [PairFiles.Incomplete, hcertificate, htext]) hincomplete
    | some certificate =>
      obtain ⟨e, he⟩ : ∃ e, CertificateAuthority.fromPem crates name certificate text = .error e :=
        CertificateAuthority.fromPem_of_rejectsKey hrejects
      rw [loadOrCreateAuthority]
      generalize hloaded : loadOrCreate _ _ _ _ _ = loaded
      obtain ⟨result, files'⟩ := loaded
      obtain ⟨rfl, hload⟩ := loadOrCreate_of_eq_some hcertificate htext hloaded
      cases result with
      | error e => exact ⟨e, rfl⟩
      | ok ca =>
        have hok := hload ca rfl
        rw [he] at hok
        cases hok

/-- A pair that holds an authority stays, and what is loaded is that authority. -/
theorem loadOrCreateAuthority_of_holds (hlawful : crates.Lawful) (hfiles : files.Holds crates ca)
    (h : loadOrCreateAuthority crates names loadContext generateContext
      (CertificateAuthority.fromPem crates name) generate env files = (result, files')) :
    files' = files ∧ ∀ ca', result = .ok ca' → files.Holds crates ca' := by
  obtain ⟨hstay, hload⟩ := loadOrCreate_of_eq_some hfiles.certificate hfiles.key h
  refine ⟨hstay, fun ca' hca' => hfiles.of_same ?_⟩
  have hok := mapError_eq_ok_iff.mp (hload ca' hca')
  obtain ⟨hcertificate, hder, hkey⟩ := CertificateAuthority.fromPem_eq_ok hlawful hok
  rw [hfiles.parsePem, Option.some.injEq] at hder
  rw [CertificateAuthority.privateKeyPem, hlawful.keyFromPem_serializePem,
    Option.some.injEq] at hkey
  exact ⟨hcertificate, hder.symm, hkey.symm⟩

/-- The texts that are written are those of the authority that is generated. -/
theorem generated_eq_ok {certificate key : String}
    (h : (match generate env.key env.seed with
      | .error e => .error (.authority generateContext e)
      | .ok ca => .ok (ca, ca.certificatePem, ca.privateKeyPem crates) :
        Except StartError (CertificateAuthority Issuer × String × String)) =
      .ok (ca, certificate, key)) :
    generate env.key env.seed = .ok ca ∧ certificate = ca.certificatePem ∧
      key = ca.privateKeyPem crates := by
  split at h
  · cases h
  next ca' hca' =>
    cases h
    exact ⟨hca', rfl, rfl⟩

/-- Where there is no file, either the authority that is generated is stored, and no other one is
returned, or the call fails and leaves nothing from which an authority is loaded. -/
theorem loadOrCreateAuthority_absent (htruncates : env.Truncates crates)
    (hgenerate : ∀ ca, generate env.key env.seed = .ok ca →
      env.key = some (crates.key ca.issuer) ∧
        crates.parsePem ca.certificatePem = some ca.certificateDer)
    (h : loadOrCreateAuthority crates names loadContext generateContext
      (CertificateAuthority.fromPem crates name) generate env .absent = (result, files')) :
    ((∃ e, result = .error e) ∧ (files' = .absent ∨ files'.Unusable crates)) ∨
      ∃ ca, generate env.key env.seed = .ok ca ∧ files'.Holds crates ca ∧
        ∀ ca', result = .ok ca' → ca' = ca := by
  rcases loadOrCreate_absent h with ⟨herror, hfiles⟩ | ⟨ca, certificate, key, hok, rfl, rfl⟩
  · rcases hfiles with rfl | hincomplete | ⟨ca, certificate, key, left, hok, hleft, rfl⟩
    · exact Or.inl ⟨herror, Or.inl rfl⟩
    · exact Or.inl ⟨herror, Or.inr (Or.inl hincomplete)⟩
    · obtain ⟨hca, rfl, rfl⟩ := generated_eq_ok hok
      obtain ⟨hkey, hparsePem⟩ := hgenerate ca hca
      rcases htruncates left hleft with hrejects | hwhole
      · exact Or.inl ⟨herror, Or.inr (Or.inr ⟨left, rfl, hrejects⟩)⟩
      · rw [hkey, Option.map_some, Option.some.injEq] at hwhole
        refine Or.inr ⟨ca, hca, ⟨rfl, by rw [← hwhole]; rfl, hparsePem⟩, ?_⟩
        rintro ca' rfl
        obtain ⟨e, he⟩ := herror
        cases he
  · obtain ⟨hca, rfl, rfl⟩ := generated_eq_ok hok
    refine Or.inr ⟨ca, hca, ⟨rfl, rfl, (hgenerate ca hca).2⟩, ?_⟩
    rintro ca' hca'
    cases hca'
    rfl

/-- What a call for the pair of an authority does, when `generated` is what would be generated: the
status of the pair is kept, what is returned is what the files then hold, files that exist stay as
they are, and where there is none only what is generated can be stored. -/
structure PairEffect (crates : CaCrates Key Issuer)
    (generated : Except CaError (CertificateAuthority Issuer))
    (returned : List (CertificateAuthority Issuer)) (files : PairFiles)
    (result : Except StartError (CertificateAuthority Issuer)) (files' : PairFiles) : Prop where
  status : PairStatus crates files' (returned ++ result.toOption.toList)
  holds : ∀ ca, result = .ok ca → files'.Holds crates ca
  stays : files ≠ .absent → files' = files
  created : files = .absent → ∀ ca, files'.Holds crates ca →
    ∃ ca', generated = .ok ca' ∧ ca.Same crates ca'

/-- The pair of an authority where there is no file. -/
theorem pairEffect_of_absent (hlawful : crates.Lawful) (htruncates : env.Truncates crates)
    (hgenerate : ∀ ca, generate env.key env.seed = .ok ca →
      env.key = some (crates.key ca.issuer) ∧
        crates.parsePem ca.certificatePem = some ca.certificateDer)
    (h : loadOrCreateAuthority crates names loadContext generateContext
      (CertificateAuthority.fromPem crates name) generate env .absent = (result, files')) :
    PairEffect crates (generate env.key env.seed) [] .absent result files' := by
  rcases loadOrCreateAuthority_absent htruncates hgenerate h with
    ⟨⟨e, rfl⟩, hfiles⟩ | ⟨ca, hca, hholds, hresult⟩
  · refine ⟨?_, ?_, fun hne => absurd rfl hne, fun _ ca hholds => ?_⟩
    · exact hfiles.elim (fun hfiles => .absent hfiles rfl) fun hfiles => .unusable hfiles rfl
    · intro ca hca
      cases hca
    · exact (hfiles.elim hholds.ne_absent (hholds.not_unusable hlawful)).elim
  · refine ⟨.holds ca hholds ?_, ?_, fun hne => absurd rfl hne, ?_⟩
    · intro ca' hca'
      rw [List.nil_append, Option.mem_toList, toOption_eq_some_iff] at hca'
      rw [hresult ca' hca']
      exact .refl _
    · intro ca' hca'
      rw [hresult ca' hca']
      exact hholds
    · intro _ ca' hca'
      exact ⟨ca, hca, hca'.same hlawful hholds⟩

/-- **The specification of a pair of an authority**, whatever its status is. -/
theorem PairStatus.loadOrCreateAuthority (hlawful : crates.Lawful)
    (htruncates : env.Truncates crates)
    (hgenerate : ∀ ca, generate env.key env.seed = .ok ca →
      env.key = some (crates.key ca.issuer) ∧
        crates.parsePem ca.certificatePem = some ca.certificateDer)
    (hstatus : PairStatus crates files returned)
    (h : loadOrCreateAuthority crates names loadContext generateContext
      (CertificateAuthority.fromPem crates name) generate env files = (result, files')) :
    PairEffect crates (generate env.key env.seed) returned files result files' := by
  cases hstatus with
  | absent hfiles hreturned =>
    subst hfiles hreturned
    exact pairEffect_of_absent hlawful htruncates hgenerate h
  | unusable hfiles hreturned =>
    obtain ⟨e, he⟩ := loadOrCreateAuthority_of_unusable hfiles
    cases he.symm.trans h
    refine ⟨.unusable hfiles (by rw [hreturned]; rfl), ?_, fun _ => rfl,
      fun habsent => absurd habsent hfiles.ne_absent⟩
    intro ca hca
    cases hca
  | holds ca hfiles hreturned =>
    obtain ⟨rfl, hresult⟩ := loadOrCreateAuthority_of_holds hlawful hfiles h
    refine ⟨.holds ca hfiles ?_, hresult, fun _ => rfl,
      fun habsent => absurd habsent hfiles.ne_absent⟩
    intro ca' hca'
    rcases List.mem_append.mp hca' with hold | hnew
    · exact hreturned ca' hold
    · rw [Option.mem_toList, toOption_eq_some_iff] at hnew
      exact (hresult ca' hnew).same hlawful hfiles

end LoadOrCreateAuthority

section Members

variable {crates : CaCrates Key Issuer} {env : AuthorityEnvironment Key} {root : RootCa Issuer}
  {files : PairFiles}

theorem loadOrCreateRoot_of_unusable (hfiles : files.Unusable crates) :
    ∃ e, loadOrCreateRoot crates env files = (.error e, files) :=
  loadOrCreateAuthority_of_unusable hfiles

theorem loadOrCreateRoot_of_ne_absent (hfiles : files ≠ .absent) :
    ∃ result, loadOrCreateRoot crates env files = (result, files) :=
  ⟨_, Prod.ext rfl (loadOrCreate_of_ne_absent hfiles)⟩

theorem loadOrCreateIntermediate_of_unusable (hfiles : files.Unusable crates) :
    ∃ e, loadOrCreateIntermediate crates root env files = (.error e, files) :=
  loadOrCreateAuthority_of_unusable hfiles

theorem loadOrCreateIntermediate_of_ne_absent (hfiles : files ≠ .absent) :
    ∃ result, loadOrCreateIntermediate crates root env files = (result, files) :=
  ⟨_, Prod.ext rfl (loadOrCreate_of_ne_absent hfiles)⟩

end Members

/-! ### Runs -/

/-- The directory between two starts, and the authorities that the starts so far have returned. -/
structure Starts (Issuer : Type) where
  dir : DataDir
  roots : List (RootCa Issuer)
  intermediates : List (IntermediateCa Issuer)

namespace Starts

/-- Before the first start. -/
def new : Starts Issuer := ⟨.empty, [], []⟩

/-- One more start. -/
def after (crates : CaCrates Key Issuer) (s : Starts Issuer) (env : StartEnvironment Key) :
    Starts Issuer where
  dir := (start crates env s.dir).2
  roots := s.roots ++ (start crates env s.dir).1.root?.toList
  intermediates := s.intermediates ++ (start crates env s.dir).1.intermediate?.toList

/-- **The invariant**: a pair is begun only when the one before it is complete, and the
intermediate authority that is stored has the signature of the root that is stored. -/
structure Ordered (crates : CaCrates Key Issuer) (s : Starts Issuer) : Prop where
  root : PairStatus crates s.dir.root s.roots
  intermediate : PairStatus crates s.dir.intermediate s.intermediates
  signed : s.dir.intermediate ≠ .absent → ∃ root, s.dir.root.Holds crates root ∧
    ∀ intermediate, s.dir.intermediate.Holds crates intermediate →
      crates.verifies intermediate.certificateDer (crates.key root.issuer) = true
  server : s.dir.server ≠ .absent →
    ∃ intermediate, s.dir.intermediate.Holds crates intermediate

end Starts

/-- What a start meets is as a crash leaves it: a text of a key that is cut off is not taken for a
key. -/
structure StartEnvironment.Truncates (crates : CaCrates Key Issuer)
    (env : StartEnvironment Key) : Prop where
  root : env.root.Truncates crates
  intermediate : env.intermediate.Truncates crates

/-- The starts of the server on one directory that no one else modifies. -/
def starting (crates : CaCrates Key Issuer) : LTS (Starts Issuer) (StartEnvironment Key) :=
  (LTS.ofFun (Starts.after crates)).restrict fun _ env => env.Truncates crates

namespace Starts.Ordered

variable {crates : CaCrates Key Issuer} {s : Starts Issuer} {root : RootCa Issuer}
  {intermediate : IntermediateCa Issuer} {files' : PairFiles}

theorem new : (Starts.new : Starts Issuer).Ordered crates where
  root := .absent rfl rfl
  intermediate := .absent rfl rfl
  signed h := absurd rfl h
  server h := absurd rfl h

/-- Where there is an intermediate authority, the root stays. -/
theorem loadOrCreateRoot (hlawful : crates.Lawful) {env : AuthorityEnvironment Key}
    (htruncates : env.Truncates crates) (h : s.Ordered crates)
    {result : Except StartError (RootCa Issuer)}
    (hroot : loadOrCreateRoot crates env s.dir.root = (result, files')) :
    Ordered crates ⟨{ s.dir with root := files' }, s.roots ++ result.toOption.toList,
      s.intermediates⟩ ∧ ∀ root, result = .ok root → files'.Holds crates root := by
  have hgenerate : ∀ ca, RootCa.generate crates env.key env.seed "Daemon PKI Root CA" = .ok ca →
      env.key = some (crates.key ca.issuer) ∧
        crates.parsePem ca.certificatePem = some ca.certificateDer :=
    fun ca hca => RootCa.generate_eq_ok hlawful hca
  obtain ⟨hstatus, hreturned, hstay, -⟩ :=
    h.root.loadOrCreateAuthority hlawful htruncates hgenerate hroot
  refine ⟨⟨hstatus, h.intermediate, fun hne => ?_, h.server⟩, hreturned⟩
  obtain ⟨root, hholds, hverifies⟩ := h.signed hne
  rw [hstay hholds.ne_absent]
  exact ⟨root, hholds, hverifies⟩

/-- An intermediate authority that is created has the signature of the root that is stored. -/
theorem loadOrCreateIntermediate (hlawful : crates.Lawful) {env : AuthorityEnvironment Key}
    (htruncates : env.Truncates crates) (h : s.Ordered crates)
    (hroot : s.dir.root.Holds crates root) {result : Except StartError (IntermediateCa Issuer)}
    (hintermediate : loadOrCreateIntermediate crates root env s.dir.intermediate =
      (result, files')) :
    Ordered crates ⟨{ s.dir with intermediate := files' }, s.roots,
      s.intermediates ++ result.toOption.toList⟩ ∧
      ∀ intermediate, result = .ok intermediate → files'.Holds crates intermediate := by
  have hgenerate : ∀ ca, IntermediateCa.generate crates env.key env.seed root
      "Daemon PKI Workload CA" = .ok ca → env.key = some (crates.key ca.issuer) ∧
        crates.parsePem ca.certificatePem = some ca.certificateDer := by
    intro ca hca
    obtain ⟨hkey, hder, -⟩ := IntermediateCa.generate_eq_ok hlawful hca
    exact ⟨hkey, hder⟩
  obtain ⟨hstatus, hreturned, hstay, hcreated⟩ :=
    h.intermediate.loadOrCreateAuthority hlawful htruncates hgenerate hintermediate
  refine ⟨⟨h.root, hstatus, fun _ => ?_, fun hne => ?_⟩, hreturned⟩
  · by_cases habsent : s.dir.intermediate = .absent
    · refine ⟨root, hroot, fun intermediate hholds => ?_⟩
      obtain ⟨ca, hca, hsame⟩ := hcreated habsent intermediate hholds
      rw [hsame.2.1]
      exact (IntermediateCa.generate_eq_ok hlawful hca).2.2
    · rw [hstay habsent]
      exact h.signed habsent
  · obtain ⟨intermediate, hholds⟩ := h.server hne
    rw [hstay hholds.ne_absent]
    exact ⟨intermediate, hholds⟩

/-- The certificate of the server is created only under an intermediate authority that is
stored. -/
theorem loadOrCreateServerCertificate (h : s.Ordered crates)
    (hintermediate : s.dir.intermediate.Holds crates intermediate) :
    Ordered crates { s with dir := { s.dir with server := files' } } :=
  ⟨h.root, h.intermediate, h.signed, fun _ => ⟨intermediate, hintermediate⟩⟩

/-- **The step lemma**: a start keeps the invariant, whatever it meets. -/
theorem after (hlawful : crates.Lawful) {env : StartEnvironment Key}
    (htruncates : env.Truncates crates) (h : s.Ordered crates) :
    (s.after crates env).Ordered crates := by
  rw [Starts.after, start]
  split
  next e rootFiles hroot =>
    have hordered := (h.loadOrCreateRoot hlawful htruncates.root hroot).1
    simpa [StartOutcome.root?, StartOutcome.intermediate?, Except.toOption] using hordered
  next root rootFiles hroot =>
    obtain ⟨hordered, hholds⟩ := h.loadOrCreateRoot hlawful htruncates.root hroot
    split
    next e intermediateFiles hintermediate =>
      exact (hordered.loadOrCreateIntermediate hlawful htruncates.intermediate (hholds root rfl)
        hintermediate).1
    next intermediate intermediateFiles hintermediate =>
      obtain ⟨hordered, hholds⟩ := hordered.loadOrCreateIntermediate hlawful
        htruncates.intermediate (hholds root rfl) hintermediate
      split
      · exact hordered.loadOrCreateServerCertificate (hholds intermediate rfl)
      · exact hordered.loadOrCreateServerCertificate (hholds intermediate rfl)

/-- An intermediate authority that was returned has the signature of every root that was. -/
theorem verifies (hlawful : crates.Lawful) (h : s.Ordered crates) (hroot : root ∈ s.roots)
    (hintermediate : intermediate ∈ s.intermediates) :
    crates.verifies intermediate.certificateDer (crates.key root.issuer) = true := by
  have hholds := h.intermediate.holds_of_mem hintermediate
  obtain ⟨root', hroot', hverifies⟩ := h.signed hholds.ne_absent
  rw [((h.root.holds_of_mem hroot).same hlawful hroot').2.2]
  exact hverifies intermediate hholds

end Starts.Ordered

/-- The directory has one file of a pair only, or a text of an authority's key that is not taken
for one. -/
def DataDir.Damaged (crates : CaCrates Key Issuer) (dir : DataDir) : Prop :=
  dir.root.Unusable crates ∨ dir.intermediate.Unusable crates ∨ dir.server.Incomplete

/-- A start on a damaged directory fails and changes nothing. -/
theorem start_of_damaged {crates : CaCrates Key Issuer} {s : Starts Issuer}
    (h : s.Ordered crates) (hdamaged : s.dir.Damaged crates) (env : StartEnvironment Key) :
    (start crates env s.dir).1.isStarted = false ∧ (start crates env s.dir).2 = s.dir := by
  have hroot (hne : s.dir.intermediate ≠ .absent) :
      ∃ result, loadOrCreateRoot crates env.root s.dir.root = (result, s.dir.root) := by
    obtain ⟨root, hholds, -⟩ := h.signed hne
    exact loadOrCreateRoot_of_ne_absent hholds.ne_absent
  rw [start]
  rcases hdamaged with hunusable | hunusable | hincomplete
  · obtain ⟨e, he⟩ : ∃ e, loadOrCreateRoot crates env.root s.dir.root = (.error e, s.dir.root) :=
      loadOrCreateRoot_of_unusable hunusable
    rw [he]
    exact ⟨rfl, rfl⟩
  · obtain ⟨result, hresult⟩ := hroot hunusable.ne_absent
    rw [hresult]
    cases result with
    | error e => exact ⟨rfl, rfl⟩
    | ok root =>
      obtain ⟨e, he⟩ : ∃ e, loadOrCreateIntermediate crates root env.intermediate
          s.dir.intermediate = (.error e, s.dir.intermediate) :=
        loadOrCreateIntermediate_of_unusable hunusable
      simp only [he]
      exact ⟨rfl, trivial⟩
  · obtain ⟨intermediate, hholds⟩ := h.server hincomplete.ne_absent
    obtain ⟨result, hresult⟩ := hroot hholds.ne_absent
    rw [hresult]
    cases result with
    | error e => exact ⟨rfl, rfl⟩
    | ok root =>
      obtain ⟨result, hresult⟩ : ∃ result, loadOrCreateIntermediate crates root env.intermediate
          s.dir.intermediate = (result, s.dir.intermediate) :=
        loadOrCreateIntermediate_of_ne_absent hholds.ne_absent
      simp only [hresult]
      cases result with
      | error e => exact ⟨rfl, rfl⟩
      | ok intermediate =>
        simp only [loadOrCreateServerCertificate, loadOrCreate_of_incomplete hincomplete]
        exact ⟨rfl, trivial⟩

/-- **The authorities are never replaced**: over all starts on one directory, all roots that were
returned have the same certificate and key, so have all intermediate authorities, which have the
signature of that root; and a start on a damaged directory fails and changes nothing. -/
theorem hierarchy_of_run {crates : CaCrates Key Issuer} (hlawful : crates.Lawful)
    {s : Starts Issuer} (run : (starting crates).Run .new s) :
    (∀ root ∈ s.roots, ∀ root' ∈ s.roots, root.Same crates root') ∧
      (∀ intermediate ∈ s.intermediates, ∀ intermediate' ∈ s.intermediates,
        intermediate.Same crates intermediate') ∧
      (∀ root ∈ s.roots, ∀ intermediate ∈ s.intermediates,
        crates.verifies intermediate.certificateDer (crates.key root.issuer) = true) ∧
      (s.dir.Damaged crates → ∀ env, (start crates env s.dir).1.isStarted = false ∧
        (start crates env s.dir).2 = s.dir) := by
  have hordered : s.Ordered crates :=
    LTS.Run.invariant (fun s env t h hstep => hstep.2 ▸ h.after hlawful hstep.1) .new run
  refine ⟨fun root hroot root' hroot' => ?_, fun _ hca _ hca' => ?_,
    fun root hroot intermediate hintermediate => ?_, fun hdamaged env => ?_⟩
  · exact (hordered.root.holds_of_mem hroot).same hlawful (hordered.root.holds_of_mem hroot')
  · exact (hordered.intermediate.holds_of_mem hca).same hlawful
      (hordered.intermediate.holds_of_mem hca')
  · exact hordered.verifies hlawful hroot hintermediate
  · exact start_of_damaged hordered hdamaged env

/-- Crates with two keys. A certificate consists of the key that signed it. -/
def twoKeys : CaCrates Bool Bool where
  serializePem key := if key then "PRIVATE KEY 1" else "PRIVATE KEY 0"
  keyFromPem text :=
    if text = "PRIVATE KEY 1" then some true
    else if text = "PRIVATE KEY 0" then some false
    else none
  newIssuer _ key := key
  issuerFromCaCertPem _ key := some key
  key issuer := issuer
  selfSigned _ _ key :=
    some (if key then ⟨"CERTIFICATE 1", [1]⟩ else ⟨"CERTIFICATE 0", [0]⟩)
  signedBy _ _ _ issuer :=
    some (if issuer then ⟨"CERTIFICATE 1", [1]⟩ else ⟨"CERTIFICATE 0", [0]⟩)
  parsePem text :=
    if text = "CERTIFICATE 1" then some [1]
    else if text = "CERTIFICATE 0" then some [0]
    else none
  verifies der key := der = if key then [1] else [0]

theorem twoKeys_lawful : twoKeys.Lawful where
  keyFromPem_serializePem key := by cases key <;> decide
  serializePem_not_blank key := by cases key <;> decide +kernel
  key_newIssuer _ _ := rfl
  key_issuerFromCaCertPem h := Option.some.inj h.symm
  parsePem_selfSigned {_ _ key _} h := by
    obtain rfl := Option.some.inj h
    cases key <;> decide
  parsePem_signedBy {_ _ _ issuer _} h := by
    obtain rfl := Option.some.inj h
    cases issuer <;> decide
  verifies_signedBy {_ _ _ issuer _} h := by
    obtain rfl := Option.some.inj h
    cases issuer <;> decide

/-- The key `true` for the root, and `false` for the intermediate authority, whose key is written
as `write`. -/
def twoKeysStart (write : FileWrite) : StartEnvironment Bool where
  root := ⟨⟨true, true, .completed, .completed⟩, some true, 0⟩
  intermediate := ⟨⟨true, true, .completed, write⟩, some false, 0⟩
  server :=
    { files := ⟨true, true, .completed, .completed⟩
      issuer := ⟨fun _ => true, .ok (), fun _ => .ok ⟨"CERTIFICATE 0", [0]⟩⟩
      keyPem := "PRIVATE KEY 1" }

theorem twoKeysStart_truncates {write : FileWrite}
    (h : ∀ text, write = .stopped (some text) → twoKeys.RejectsKey text) :
    (twoKeysStart write).Truncates twoKeys where
  root text htext := by cases htext
  intermediate text htext := Or.inl (h text htext)

/-- After a start that crashed while the key of the intermediate authority was written, no start
gets past `load_or_create_intermediate`. -/
theorem hierarchy_of_cutOffKey :
    (start twoKeys (twoKeysStart .completed)
      (Starts.new.after twoKeys (twoKeysStart (.stopped (some "PRIVATE")))).dir).1.isStarted =
        false := by
  have hrejects : twoKeys.RejectsKey "PRIVATE" := Or.inr (by decide)
  refine ((hierarchy_of_run twoKeys_lawful (.snoc .nil (twoKeysStart (.stopped (some "PRIVATE")))
    ⟨twoKeysStart_truncates ?_, rfl⟩)).2.2.2 (Or.inr (Or.inl (Or.inr ⟨"PRIVATE", ?_, hrejects⟩)))
      (twoKeysStart .completed)).1
  · rintro text htext
    cases htext
    exact hrejects
  · decide +kernel

end DaemonPki
