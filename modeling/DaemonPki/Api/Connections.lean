import DaemonPki.Api.ClientIdentity
import DaemonPki.Api.ConcurrentRevocation
import DaemonPki.Api.Http

/-!
# Open connections and revocation

The tasks of the connections (`http.rs`, lines 162–236). A task takes the acceptor that is
installed, makes the handshake with it, and reads and handles one request. The certificate of the
client is looked for on a revocation list in the handshake, and only there: what the handlers do
afterwards depends on its fingerprint. Any number of connections are open at once, and a
certificate may be revoked over one of them while another that it has authenticated is open.

A request that revokes takes the steps of `RevokeStep`, or fails at one of them; all others are
handled in one step. A connection that has not come yet is one that has been accepted and waits.

## Main definitions

* `DaemonPki.HttpApi.revocation`, `DaemonPki.RevokeFailure`.
* `DaemonPki.CertificateRevocationListParams.Refuses`: what the handshake asks of a list.
* `DaemonPki.ConnectionPc`, `DaemonPki.ConnectionStep`, `DaemonPki.connections`.
* `DaemonPki.Acknowledged`, `DaemonPki.AcknowledgedIsTaken`, `DaemonPki.ConnectionInvariant`.
* `DaemonPki.ConnectionPc.Barred`: the handshake is not completed and will not be.

## Main results

* `DaemonPki.exists_run_of_handleConnection`: a connection, run alone, takes these steps.
* `DaemonPki.CertificateRevocationListParams.refuses_iff_of_identity`: the serial numbers are
  compared, not their texts.
* `DaemonPki.connectionInvariant_step`: every step keeps the invariant.
* `DaemonPki.barred_of_acknowledged`: after a revocation, no handshake.
* `DaemonPki.disclosedAfterRevocation_authenticated`: a handshake from before is good for one
  request.
-/

namespace DaemonPki

open Foundation

/-! ### The tasks -/

/-- The revocation that a request on a route asks for, if it gets past the checks. Source:
`http.rs`, lines 335–346 and 559–624. -/
def HttpApi.revocationOfRoute (crates : Crates) (config : ApiConfig) (identity : MtlsIdentity)
    (body : List UInt8) : Route → Option (Uuid × Option String)
  | .revoke path =>
    if config.authorization.canIssueCertificates identity then
      match certificateIdFromRevokePath crates path, revokeBody crates body with
      | some id, some reason => some (id, reason)
      | _, _ => none
    else none
  | _ => none

/-- The revocation that a connection asks for. Source: `http.rs`, lines 245–292. -/
def HttpApi.revocation (crates : Crates) (config : ApiConfig) (identity : MtlsIdentity)
    (fragments : List (List UInt8)) : Option (Uuid × Option String) :=
  let requestBytes := readRequest fragments
  if requestBytes.isEmpty then none
  else
    match crates.parseHead requestBytes with
    | .complete method path bodyOffset =>
      revocationOfRoute crates config identity (requestBytes.drop bodyOffset) (route method path)
    | _ => none

/-- What the next step of a request to revoke hands to the signer. -/
def RevokePc.signs : RevokePc → List Signing
  | .listed _ crlNumber crl _ =>
    match CertificateRevocationList.revokedCertParams crl.entries with
    | .returned (.ok _) => [.crl crlNumber crl]
    | _ => []
  | _ => []

/-- The answer when the acceptor could not be refreshed. Source: `http.rs`, lines 634–651. -/
def refreshFailed : HttpResponse :=
  ⟨500, .error "certificate revoked but TLS revocation state could not be refreshed"⟩

/-- The failures of a request to revoke where it stands, and what it is then answered. Source:
`http.rs`, lines 626–687; `tls/manager.rs`, lines 60–82; `crl.rs`, lines 36–132. -/
inductive RevokeFailure : Node → RevokePc → Node → Outcome HttpResponse → Prop
  | persist {node : Node} {certificate : CertificateRecord} {fault : PersistFault}
      {error : CertificateStoreError} {store : CertificateStore}
      (h : node.store.persist (some fault) = (.error error, store)) :
      RevokeFailure node (.marked certificate) { node with store := store }
        (.returned ⟨500, .storeError error⟩)
  | readNumber {node : Node} {certificate : CertificateRecord} {reads : Bool}
      {error : CrlManagerError}
      (h : CrlManager.currentCrlNumber node.crlFiles.number reads = .error error) :
      RevokeFailure node (.persisted certificate) node (.returned refreshFailed)
  | numberExhausted {node : Node} {certificate : CertificateRecord} {current : ℕ}
      (h : ¬ current + 1 < 2 ^ 64) :
      RevokeFailure node (.counted certificate current) node (.returned refreshFailed)
  | writeNumber {node : Node} {certificate : CertificateRecord} {current : ℕ} {write : WriteResult}
      (hlt : current + 1 < 2 ^ 64) (h : write ≠ .succeeded) :
      RevokeFailure node (.counted certificate current)
        { node with crlFiles := { node.crlFiles with
          number := write.file node.crlFiles.number "" (toString (current + 1)) } }
        (.returned refreshFailed)
  | sign {node : Node} {certificate : CertificateRecord} {crlNumber : ℕ}
      {crl : CertificateRevocationList} {taken : Records} {signs : Bool} {error : CrlError}
      (h : crl.signedDer crlNumber signs = .returned (.error error)) :
      RevokeFailure node (.listed certificate crlNumber crl taken) node (.returned refreshFailed)
  | panic {node : Node} {certificate : CertificateRecord} {crlNumber : ℕ}
      {crl : CertificateRevocationList} {taken : Records} {signs : Bool}
      (h : crl.signedDer crlNumber signs = .panicked) :
      RevokeFailure node (.listed certificate crlNumber crl taken) node .panicked
  | writeCrl {node : Node} {certificate : CertificateRecord}
      {crlDer : CertificateRevocationListParams} {taken : Records} {write : WriteResult}
      (h : write ≠ .succeeded) :
      RevokeFailure node (.signed certificate crlDer taken)
        { node with crlFiles := { node.crlFiles with
          crl := write.file node.crlFiles.crl .incomplete (.signed crlDer) } }
        (.returned refreshFailed)
  | configure {node : Node} {certificate : CertificateRecord}
      {crlDer : CertificateRevocationListParams} {taken : Records} :
      RevokeFailure node (.written certificate crlDer taken) node (.returned refreshFailed)

/-- The serial number of the client is on the list. The TLS layer compares the integers: the
identity may write a sign octet before the bytes that the list has. -/
def CertificateRevocationListParams.Refuses (crlDer : CertificateRevocationListParams)
    (identity : MtlsIdentity) : Prop :=
  ∃ serial ∈ crlDer.serials, serialInteger identity.serialNumber = some (ofBytesBe serial)

/-- Where the task of a connection stands. In the handshake it has the list of the acceptor that
it took. -/
inductive ConnectionPc
  | accepted
  | handshaking (acceptor : CertificateRevocationListParams)
  | refused
  | authenticated
  | received (fragments : List (List UInt8))
  | revoking (pc : RevokePc)
  | answered (reply : Reply)

inductive ConnectionAction
  | takeAcceptor
  | handshake
  | read
  | process
  | revoke (action : RevokeAction)
  | fail
  deriving DecidableEq, Repr

/-- The steps of the task of a connection with the certificate of `identity`. A handshake fails
when the certificate is on the list, and may fail otherwise. The identifier that an issuance
draws is not the one of a record. Source: `http.rs`, lines 162–362. -/
inductive ConnectionStep (crates : Crates) (config : ApiConfig) (identity : MtlsIdentity) :
    ApiState → ConnectionPc → ConnectionAction → ApiState → ConnectionPc → Prop
  | takeAcceptor {state : ApiState} :
      ConnectionStep crates config identity state .accepted .takeAcceptor state
        (.handshaking state.node.installed)
  | handshake {state : ApiState} {acceptor : CertificateRevocationListParams}
      (h : ¬ acceptor.Refuses identity) :
      ConnectionStep crates config identity state (.handshaking acceptor) .handshake state
        .authenticated
  | refuse {state : ApiState} {acceptor : CertificateRevocationListParams} :
      ConnectionStep crates config identity state (.handshaking acceptor) .handshake state .refused
  | read {state : ApiState} (fragments : List (List UInt8)) :
      ConnectionStep crates config identity state .authenticated .read state (.received fragments)
  | process {state state' : ApiState} {fragments : List (List UInt8)}
      {env : ConnectionEnvironment} {reply : Reply}
      (hrevocation : HttpApi.revocation crates config identity fragments = none)
      (hfresh : state.node.store.records.lookup env.issuance.recordId = none)
      (h : HttpApi.handleConnection crates config identity env fragments state =
        (reply, state')) :
      ConnectionStep crates config identity state (.received fragments) .process state'
        (.answered reply)
  | revocation {state : ApiState} {fragments : List (List UInt8)} {id : Uuid}
      {reason : Option String}
      (h : HttpApi.revocation crates config identity fragments = some (id, reason)) :
      ConnectionStep crates config identity state (.received fragments) .process state
        (.revoking (.received id reason))
  | revoke {state : ApiState} {pc pc' : RevokePc} {action : RevokeAction} {node' : Node}
      (h : RevokeStep state.node pc action node' pc') :
      ConnectionStep crates config identity state (.revoking pc) (.revoke action)
        { state with
          node := node'
          signings := state.signings ++ pc.signs } (.revoking pc')
  | fail {state : ApiState} {pc : RevokePc} {node' : Node} {outcome : Outcome HttpResponse}
      (h : RevokeFailure state.node pc node' outcome) :
      ConnectionStep crates config identity state (.revoking pc) .fail
        { state with
          node := node'
          signings := state.signings ++ pc.signs } (.answered (.ofOutcome outcome))

variable {ι : Type*}

/-- The interleavings of the connections, each with the certificate of its client. -/
def connections [DecidableEq ι] (crates : Crates) (config : ApiConfig)
    (identity : ι → MtlsIdentity) : LTS (Threads ι ApiState ConnectionPc) (ι × ConnectionAction) :=
  interleave fun i => ConnectionStep crates config (identity i)

/-- What the client has been answered. -/
def ConnectionPc.answer : ConnectionPc → Option Reply
  | .answered reply => some reply
  | .revoking (.answered certificate) => some (.json ⟨200, .certificate certificate⟩)
  | .revoking .notFound => some (.json ⟨404, .error "certificate not found"⟩)
  | _ => none

/-! ### One connection without interruption -/

section Revocation

variable {crates : Crates} {config : ApiConfig} {identity : MtlsIdentity}
  {fragments : List (List UInt8)} {id : Uuid} {reason : Option String}

theorem HttpApi.handleRoute_of_revocation {body : List UInt8} {route : Route}
    (h : revocationOfRoute crates config identity body route = some (id, reason))
    (env : ConnectionEnvironment) (state : ApiState) :
    handleRoute crates config identity env body state route =
      (.ofOutcome (handleRevokeCertificate true (some id) (some reason) env.now env.fault
        env.refresh state.node).1,
      { state with
        node := (handleRevokeCertificate true (some id) (some reason) env.now env.fault
          env.refresh state.node).2
        signings := state.signings ++
          revokeSignings true (some id) (some reason) env state.node }) := by
  cases route with
  | revoke path =>
    rw [revocationOfRoute] at h
    split_ifs at h with hauthorized
    split at h
    next id' reason' hid hbody =>
      cases h
      rw [handleRoute, hauthorized, hid, hbody]
    next => cases h
  | _ => cases h

/-- A request to revoke that does not get past the checks is answered with an error and changes
nothing. -/
theorem HttpApi.handleRoute_of_no_revocation {body : List UInt8} {path : String}
    (h : revocationOfRoute crates config identity body (.revoke path) = none)
    (env : ConnectionEnvironment) (state : ApiState) :
    ∃ status message, handleRoute crates config identity env body state (.revoke path) =
        (.json ⟨status, .error message⟩, state) ∧
      (config.authorization.canIssueCertificates identity = true → status ≠ 403) := by
  have hsame : { state with signings := state.signings ++ [] } = state := by
    rw [List.append_nil]
  rw [revocationOfRoute] at h
  rw [handleRoute]
  cases hauthorized : config.authorization.canIssueCertificates identity with
  | false => exact ⟨403, _, Prod.ext rfl hsame, by rintro ⟨⟩⟩
  | true =>
    rw [hauthorized, if_pos rfl] at h
    cases hid : certificateIdFromRevokePath crates path with
    | none => exact ⟨400, _, Prod.ext rfl hsame, fun _ => by decide⟩
    | some id =>
      cases hbody : revokeBody crates body with
      | none => exact ⟨400, _, Prod.ext rfl hsame, fun _ => by decide⟩
      | some reason =>
        rw [hid, hbody] at h
        cases h

theorem HttpApi.handleConnection_of_revocation
    (h : revocation crates config identity fragments = some (id, reason))
    (env : ConnectionEnvironment) (state : ApiState) :
    handleConnection crates config identity env fragments state =
      (.ofOutcome (handleRevokeCertificate true (some id) (some reason) env.now env.fault
        env.refresh state.node).1,
      { state with
        node := (handleRevokeCertificate true (some id) (some reason) env.now env.fault
          env.refresh state.node).2
        signings := state.signings ++
          revokeSignings true (some id) (some reason) env state.node }) := by
  rw [handleConnection]
  rw [revocation] at h
  split_ifs at h ⊢
  cases hhead : crates.parseHead (readRequest fragments) with
  | complete method path bodyOffset =>
    rw [hhead] at h
    exact handleRoute_of_revocation h env state
  | _ =>
    rw [hhead] at h
    cases h

end Revocation

/-- The answer to a request to revoke after the refresh of the acceptor. -/
def refreshAnswer (certificate : CertificateRecord) :
    Outcome (Except RefreshError Unit) → Outcome HttpResponse
  | .panicked => .panicked
  | .returned (.error _) => .returned refreshFailed
  | .returned (.ok ()) => .returned ⟨200, .certificate certificate⟩

section Uninterrupted

variable [DecidableEq ι] {crates : Crates} {config : ApiConfig} {identity : ι → MtlsIdentity}
  {c start : Threads ι ApiState ConnectionPc} {i : ι} {state state' : ApiState}
  {certificate : CertificateRecord}

/-- A step that hands nothing to the signer. -/
theorem connections_revoke_step {node : Node} {revokePc revokePc' : RevokePc}
    {revokeAction : RevokeAction} (hsigns : revokePc.signs = [])
    (h : RevokeStep state.node revokePc revokeAction node revokePc') :
    (connections crates config identity).step (c.move i state (.revoking revokePc))
      (i, .revoke revokeAction) (c.move i { state with node := node } (.revoking revokePc')) := by
  have hstep : (connections crates config identity).step (c.move i state (.revoking revokePc))
      (i, .revoke revokeAction) _ := interleave_move_step (.revoke h)
  rwa [hsigns, List.append_nil] at hstep

/-- The connection can come to answer with this reply in this state. -/
def Answers (crates : Crates) (config : ApiConfig) (identity : ι → MtlsIdentity)
    (start : Threads ι ApiState ConnectionPc) (i : ι) (state : ApiState) (reply : Reply) : Prop :=
  ∃ pc : ConnectionPc, pc.answer = some reply ∧
    Nonempty ((connections crates config identity).Run start (start.move i state pc))

theorem answers_of_failure {node : Node} {revokePc : RevokePc} {outcome : Outcome HttpResponse}
    (run : (connections crates config identity).Run start (start.move i state (.revoking revokePc)))
    (h : RevokeFailure state.node revokePc node outcome) :
    Answers crates config identity start i
      { state with
        node := node
        signings := state.signings ++ revokePc.signs } (.ofOutcome outcome) :=
  ⟨_, rfl, ⟨run.snoc _ (interleave_move_step (.fail h))⟩⟩

/-- A failure at which nothing is handed to the signer. -/
theorem answers_of_silent_failure {node : Node} {revokePc : RevokePc}
    {outcome : Outcome HttpResponse}
    (run : (connections crates config identity).Run start (start.move i state (.revoking revokePc)))
    (hsigns : revokePc.signs = []) (h : RevokeFailure state.node revokePc node outcome) :
    Answers crates config identity start i { state with node := node } (.ofOutcome outcome) := by
  have hanswers := answers_of_failure run h
  rwa [hsigns, List.append_nil] at hanswers

/-- The draw of the next number, not interrupted: it fails, and so does the request, or the
number is drawn. -/
theorem answers_or_numbered {reads : Bool} {write : WriteResult} {number : Option String}
    {result : Except CrlManagerError ℕ}
    (run : (connections crates config identity).Run start
      (start.move i state (.revoking (.persisted certificate))))
    (h : CrlManager.nextCrlNumber state.node.crlFiles.number reads write = (result, number)) :
    (∃ error, result = .error error ∧ Answers crates config identity start i
      { state with node := { state.node with crlFiles := { state.node.crlFiles with
        number := number } } } (.ofOutcome (.returned refreshFailed))) ∨
    ∃ crlNumber, result = .ok crlNumber ∧ Nonempty ((connections crates config identity).Run start
      (start.move i { state with node := { state.node with crlFiles := { state.node.crlFiles with
        number := number } } } (.revoking (.numbered certificate crlNumber)))) := by
  rw [CrlManager.nextCrlNumber] at h
  cases hcurrent : CrlManager.currentCrlNumber state.node.crlFiles.number reads with
  | error error =>
    rw [hcurrent] at h
    cases h
    exact Or.inl ⟨error, rfl, answers_of_silent_failure run rfl (.readNumber hcurrent)⟩
  | ok current =>
    have counted := run.snoc _ (connections_revoke_step rfl (.readNumber hcurrent))
    simp only [hcurrent] at h
    split_ifs at h with hlt
    · have hfails (hwrite : write ≠ .succeeded) := answers_of_silent_failure counted rfl
        (.writeNumber hlt hwrite)
      cases write with
      | succeeded =>
        cases h
        exact Or.inr ⟨current + 1, rfl,
          ⟨counted.snoc _ (connections_revoke_step rfl (.writeNumber hlt))⟩⟩
      | _ =>
        cases h
        exact Or.inl ⟨_, rfl, hfails (by decide)⟩
    · cases h
      exact Or.inl ⟨_, rfl, answers_of_silent_failure counted rfl (.numberExhausted hlt)⟩

/-- What the production of a list hands to the signer, when a number is drawn. -/
theorem signs_listed (certificate : CertificateRecord) {env : CrlEnvironment} {records : Records}
    {files : CrlFiles} {crlNumber : ℕ} {number : Option String}
    (h : CrlManager.nextCrlNumber files.number env.readsNumber env.writesNumber =
      (.ok crlNumber, number)) :
    ((CrlManager.signedList env records files).map
        fun (crlNumber, crl) => Signing.crl crlNumber crl).toList =
      (RevokePc.listed certificate crlNumber (CrlManager.revocationList env records)
        records).signs := by
  rw [CrlManager.signedList, RevokePc.signs, h]
  simp only
  rcases CertificateRevocationList.revokedCertParams
    (CrlManager.revocationList env records).entries with (e | certs) | _ <;> rfl

/-- The refresh of the acceptor, not interrupted. -/
theorem answers_refresh (env : RefreshEnvironment)
    (run : (connections crates config identity).Run start
      (start.move i state (.revoking (.persisted certificate)))) :
    Answers crates config identity start i
      { state with
        node := (TlsAcceptorManager.refresh env state.node).2
        signings := state.signings ++ ((CrlManager.signedList env.crl state.node.store.records
          state.node.crlFiles).map fun (crlNumber, crl) => Signing.crl crlNumber crl).toList }
      (.ofOutcome (refreshAnswer certificate (TlsAcceptorManager.refresh env state.node).1)) := by
  rcases hnext : CrlManager.nextCrlNumber state.node.crlFiles.number env.crl.readsNumber
    env.crl.writesNumber with ⟨result, number⟩
  rcases answers_or_numbered run hnext with ⟨error, rfl, hanswers⟩ | ⟨crlNumber, rfl, ⟨numbered⟩⟩
  · simp only [TlsAcceptorManager.refresh, CrlManager.generateAndPersist, CrlManager.signedList,
      hnext, Option.map_none, Option.toList_none, List.append_nil]
    exact hanswers
  have listed := numbered.snoc _ (connections_revoke_step rfl (.snapshot env.crl))
  rw [signs_listed certificate hnext, TlsAcceptorManager.refresh, CrlManager.generateAndPersist,
    hnext]
  simp only
  rcases hsigned : (CrlManager.revocationList env.crl state.node.store.records).signedDer crlNumber
    env.crl.signs with (error | crlDer) | _
  · have hanswers := answers_of_failure listed (.sign hsigned)
    exact hanswers
  · have signed := listed.snoc _ (interleave_move_step (.revoke (.sign hsigned)))
    simp only
    have hfails (hwrites : env.crl.writesCrl ≠ .succeeded) := answers_of_silent_failure signed rfl
      (.writeCrl hwrites)
    cases hwrites : env.crl.writesCrl with
    | succeeded =>
      have written := signed.snoc _ (connections_revoke_step rfl .writeCrl)
      simp only
      split_ifs
      · exact ⟨_, rfl, ⟨written.snoc _ (connections_revoke_step rfl .install)⟩⟩
      · have hanswers := answers_of_silent_failure written rfl .configure
        exact hanswers
    | _ =>
      rw [hwrites] at hfails
      exact hfails (by decide)
  · have hanswers := answers_of_failure listed (.panic hsigned)
    exact hanswers

/-- A request to revoke, not interrupted. -/
theorem answers_handleRevokeCertificate {id : Uuid} {reason : Option String}
    (env : ConnectionEnvironment) (run : (connections crates config identity).Run start
      (start.move i state (.revoking (.received id reason)))) :
    Answers crates config identity start i
      { state with
        node := (HttpApi.handleRevokeCertificate true (some id) (some reason) env.now env.fault
          env.refresh state.node).2
        signings := state.signings ++
          HttpApi.revokeSignings true (some id) (some reason) env state.node }
      (.ofOutcome (HttpApi.handleRevokeCertificate true (some id) (some reason) env.now env.fault
        env.refresh state.node).1) := by
  rw [HttpApi.handleRevokeCertificate, HttpApi.revokeSignings, if_neg (by decide)]
  simp only [CertificateStore.revoke]
  cases hmark : state.node.store.records.revokeRecord env.now id
      (reason.getD "revoked by operator") with
  | none =>
    have habsent := Records.lookup_of_revokeRecord_eq_none hmark
    simp only [List.append_nil]
    exact ⟨_, rfl, ⟨run.snoc _ (connections_revoke_step rfl (.absent habsent))⟩⟩
  | some result =>
    obtain ⟨certificate, records⟩ := result
    have marked := run.snoc _ (connections_revoke_step rfl (.mark hmark))
    cases hfault : env.fault with
    | none =>
      have persisted := marked.snoc _ (connections_revoke_step rfl .persist)
      have hanswers := answers_refresh env.refresh persisted
      simp only [CertificateStore.persist]
      rcases hrefresh : TlsAcceptorManager.refresh env.refresh
        { state.node with store := ⟨records, some (.json records)⟩ } with ⟨(e | _) | _, node⟩ <;>
        simp only [hrefresh] at hanswers ⊢ <;> exact hanswers
    | some fault =>
      have hfails {error : CertificateStoreError} {store : CertificateStore}
          (h : CertificateStore.persist { state.node.store with records := records } (some fault) =
            (.error error, store)) := answers_of_silent_failure marked rfl (.persist h)
      cases fault <;> simp only [CertificateStore.persist, List.append_nil] <;> exact hfails rfl

/-- **A connection** that is not interrupted after its request was read answers as the handler
does, and leaves what the handler leaves. -/
theorem exists_run_of_handleConnection {fragments : List (List UInt8)}
    {env : ConnectionEnvironment} {reply : Reply} (hi : c.locals i = .received fragments)
    (hfresh : c.shared.node.store.records.lookup env.issuance.recordId = none)
    (h : HttpApi.handleConnection crates config (identity i) env fragments c.shared =
      (reply, state')) :
    Answers crates config identity c i state' reply := by
  cases hrevocation : HttpApi.revocation crates config (identity i) fragments with
  | none =>
    have hanswered : (connections crates config identity).step c (i, .process)
        (c.move i state' (.answered reply)) := interleave_step hi (.process hrevocation hfresh h)
    exact ⟨.answered reply, rfl, ⟨LTS.Run.nil.snoc _ hanswered⟩⟩
  | some request =>
    obtain ⟨id, reason⟩ := request
    have hreceived : (connections crates config identity).step c (i, .process)
        (c.move i c.shared (.revoking (.received id reason))) :=
      interleave_step hi (.revocation hrevocation)
    rw [HttpApi.handleConnection_of_revocation hrevocation] at h
    cases h
    exact answers_handleRevokeCertificate env (LTS.Run.nil.snoc _ hreceived)

end Uninterrupted

/-! ### What is enforced -/

/-- No handshake with the certificate of the client has been completed, and none will be with the
acceptor that was taken. -/
def ConnectionPc.Barred (identity : MtlsIdentity) : ConnectionPc → Prop
  | .accepted | .refused => True
  | .handshaking acceptor => acceptor.Refuses identity
  | _ => False

/-- The text stands for the serial number of the client, as that in the record of its certificate
does, where no sign octet is written. -/
def MtlsIdentity.HasSerial (identity : MtlsIdentity) (serialNumber : String) : Prop :=
  serialInteger identity.serialNumber = serialInteger serialNumber

/-- The certificate of the client was revoked when the server started, or a request to revoke it
has been answered with 200. -/
def Acknowledged (initial : Records) (c : Threads ι ApiState ConnectionPc)
    (identity : MtlsIdentity) : Prop :=
  (∃ id record, initial.lookup id = some record ∧ record.revoked = true ∧
    identity.HasSerial record.serialNumber) ∨
  ∃ i certificate, c.locals i = .revoking (.answered certificate) ∧
    identity.HasSerial certificate.serialNumber

/-- If the step is an installation, then every certificate that was acknowledged before it was
revoked in the map of which the snapshot was taken. -/
def AcknowledgedIsTaken (c : Threads ι ApiState ConnectionPc) (a : ι × ConnectionAction) : Prop :=
  a.2 = .revoke .install → ∀ certificate crlDer taken,
    c.locals a.1 = .revoking (.written certificate crlDer taken) →
    ∀ i acknowledged, c.locals i = .revoking (.answered acknowledged) →
      taken.Revokes acknowledged.serialNumber

/-- What holds where a connection stands. -/
def ConnectionPc.Assertion (initial : Records) (state : ApiState) : ConnectionPc → Prop
  | .revoking pc => pc.Assertion initial state.node
  | _ => True

/-- The invariant of the whole: what was acknowledged is on the list that is installed. -/
structure ConnectionInvariant (initial : Records) (c : Threads ι ApiState ConnectionPc) : Prop where
  holds : c.Holds (fun state => state.node.Extends initial)
    fun _ state pc => pc.Assertion initial state
  enforced : ∀ identity, Acknowledged initial c identity →
    c.shared.node.installed.Refuses identity

/-- A server that has just started: no connection has come, and the acceptor has the revoked
records of the store. -/
structure ConnectionStart (initial : Records) (c : Threads ι ApiState ConnectionPc) : Prop where
  records_eq : c.shared.node.store.records = initial
  listed : ∀ id record, initial.lookup id = some record → record.revoked = true →
    c.shared.node.installed.Lists record.serialNumber
  accepted : ∀ i, c.locals i = .accepted

variable {crates : Crates} {config : ApiConfig} {identity : MtlsIdentity}
  {env : ConnectionEnvironment} {state state' : ApiState} {fragments : List (List UInt8)}
  {initial : Records} {node' : Node} {pc pc' : ConnectionPc} {action : ConnectionAction}
  {serialNumber serialNumber' : String} {crlDer : CertificateRevocationListParams}

/-! ### Clients on the list -/

theorem CertificateRevocationListParams.Lists.congr (h : crlDer.Lists serialNumber)
    (hsame : hexToBytes serialNumber = hexToBytes serialNumber') : crlDer.Lists serialNumber' := by
  obtain ⟨serial, hserial, hdecodes⟩ := h
  exact ⟨serial, hserial, hsame ▸ hdecodes⟩

/-- A list with the text of a record refuses the client with the certificate of the record. -/
theorem CertificateRevocationListParams.Lists.refuses (h : crlDer.Lists serialNumber)
    (hidentity : identity.HasSerial serialNumber) : crlDer.Refuses identity := by
  obtain ⟨serial, hserial, hdecodes⟩ := h
  refine ⟨serial, hserial, hidentity.trans ?_⟩
  rw [serialInteger, hdecodes]

section Presented

variable {identityCrates : IdentityCrates} {der rest : List UInt8} {parsed : PresentedCertificate}

/-- **What is compared is the serial number** of the certificate that the client presents. -/
theorem CertificateRevocationListParams.refuses_iff_of_identity (hlawful : identityCrates.Lawful)
    (hparse : identityCrates.fromDer der = some (rest, parsed)) (hpositive : 0 < parsed.serial)
    (h : identityFromClientCertificate identityCrates der = .ok identity) :
    crlDer.Refuses identity ↔ parsed.serial ∈ crlDer.serials.map ofBytesBe := by
  simp only [Refuses, serialInteger_of_identity hlawful hparse hpositive h, Option.some.injEq,
    List.mem_map, eq_comm]

/-- The record of the certificate that the client presents, revoked or not, has its number. -/
theorem MtlsIdentity.hasSerial_of_issued (hlawful : identityCrates.Lawful)
    (hparse : identityCrates.fromDer der = some (rest, parsed)) (hpositive : 0 < parsed.serial)
    (h : identityFromClientCertificate identityCrates der = .ok identity)
    {record : CertificateRecord} (hissued : record.Issued parsed.serial) :
    identity.HasSerial record.serialNumber := by
  rw [HasSerial, serialInteger_of_identity hlawful hparse hpositive h, hissued.serialNumber_eq,
    serialInteger_serialText]

end Presented

/-! ### What a step does -/

/-- An issuance leaves everything but the store alone, and there it revives nothing. -/
theorem HttpApi.keepsRevoked_handleIssueBody (body : List UInt8)
    (hfresh : state.node.store.records.lookup env.issuance.recordId = none) :
    ∃ store, (handleIssueBody crates config body identity env state).2.node =
        { state.node with store := store } ∧
      state.node.store.records.KeepsRevoked store.records := by
  rw [handleIssueBody]
  cases crates.decodeIssue body with
  | none => exact ⟨_, rfl, .refl _⟩
  | some request =>
    refine ⟨_, rfl, ?_⟩
    have hends := IssuanceService.issue_ends config.issuance
      ⟨identity.id, identity.name, config.authorization.rolesFor identity⟩ request env.issuance
      ⟨state.node.store, state.audit, []⟩
    generalize IssuanceService.issue config.issuance
      ⟨identity.id, identity.name, config.authorization.rolesFor identity⟩ request env.issuance
      ⟨state.node.store, state.audit, []⟩ = issued at hends ⊢
    obtain ⟨result, issued⟩ := issued
    cases hends with
    | unstored _ _ hinsert =>
      rw [CertificateStore.records_of_insert hinsert]
      exact Records.keepsRevoked_insertRecord hfresh
    | issued _ _ hinsert =>
      rw [CertificateStore.records_of_insert hinsert]
      exact Records.keepsRevoked_insertRecord hfresh
    | _ => exact .refl _

/-- A request that revokes nothing leaves the acceptor alone and revives nothing. -/
theorem HttpApi.keepsRevoked_handleRoute {body : List UInt8} {route : Route}
    (h : revocationOfRoute crates config identity body route = none)
    (hfresh : state.node.store.records.lookup env.issuance.recordId = none) :
    ∃ store, (handleRoute crates config identity env body state route).2.node =
        { state.node with store := store } ∧
      state.node.store.records.KeepsRevoked store.records := by
  cases route with
  | issue => exact keepsRevoked_handleIssueBody body hfresh
  | revoke path =>
    obtain ⟨status, message, hanswer, -⟩ := handleRoute_of_no_revocation h env state
    rw [hanswer]
    exact ⟨_, rfl, .refl _⟩
  | _ => exact ⟨_, rfl, .refl _⟩

theorem HttpApi.keepsRevoked_handleConnection
    (h : revocation crates config identity fragments = none)
    (hfresh : state.node.store.records.lookup env.issuance.recordId = none) :
    ∃ store, (handleConnection crates config identity env fragments state).2.node =
        { state.node with store := store } ∧
      state.node.store.records.KeepsRevoked store.records := by
  rw [handleConnection]
  rw [revocation] at h
  split_ifs at h ⊢
  · exact ⟨_, rfl, .refl _⟩
  cases hhead : crates.parseHead (readRequest fragments) with
  | complete method path bodyOffset =>
    rw [hhead] at h
    exact keepsRevoked_handleRoute h hfresh
  | _ => exact ⟨_, rfl, .refl _⟩

/-- A failure leaves the records and the acceptor alone. -/
theorem revokeFailure_keeps {node node' : Node} {pc : RevokePc} {outcome : Outcome HttpResponse}
    (h : RevokeFailure node pc node' outcome) :
    node'.store.records = node.store.records ∧ node'.installed = node.installed := by
  cases h with
  | @persist _ fault _ _ hpersist =>
    rcases CertificateStore.persist_cases node.store (some fault) with hp | ⟨e, hp⟩ <;>
      rw [hp] at hpersist <;> cases hpersist
    exact ⟨rfl, rfl⟩
  | _ => exact ⟨rfl, rfl⟩

theorem connectionStep_keepsRevoked
    (h : ConnectionStep crates config identity state pc action state' pc') :
    state.node.store.records.KeepsRevoked state'.node.store.records := by
  cases h with
  | process hrevocation hfresh hhandle =>
    obtain ⟨store, hnode, hkeeps⟩ := HttpApi.keepsRevoked_handleConnection hrevocation hfresh
    rw [hhandle] at hnode
    simp only at hnode
    rw [hnode]
    exact hkeeps
  | revoke hstep => exact revokeStep_keepsRevoked hstep
  | fail hfailure =>
    rw [(revokeFailure_keeps hfailure).1]
    exact .refl _
  | _ => exact .refl _

/-- A step leaves the acceptor alone and answers no revocation with 200, or it is the installation
of a request to revoke. -/
theorem connectionStep_installed
    (h : ConnectionStep crates config identity state pc action state' pc') :
    (state'.node.installed = state.node.installed ∧
        ∀ certificate, pc' ≠ .revoking (.answered certificate)) ∨
      ∃ certificate crlDer taken, action = .revoke .install ∧
        pc = .revoking (.written certificate crlDer taken) ∧ state'.node.installed = crlDer ∧
        pc' = .revoking (.answered certificate) := by
  cases h with
  | process hrevocation hfresh hhandle =>
    obtain ⟨store, hnode, -⟩ := HttpApi.keepsRevoked_handleConnection hrevocation hfresh
    rw [hhandle] at hnode
    simp only at hnode
    refine Or.inl ⟨by rw [hnode], ?_⟩
    rintro certificate ⟨⟩
  | revoke hstep =>
    rcases revokeStep_installed hstep with ⟨-, hsame, hnot⟩ |
      ⟨certificate, crlDer, taken, rfl, rfl, hinstalled, rfl⟩
    · exact Or.inl ⟨hsame, fun certificate heq => hnot certificate (ConnectionPc.revoking.inj heq)⟩
    · exact Or.inr ⟨certificate, crlDer, taken, rfl, rfl, hinstalled, rfl⟩
  | fail hfailure =>
    refine Or.inl ⟨(revokeFailure_keeps hfailure).2, ?_⟩
    rintro certificate ⟨⟩
  | _ =>
    refine Or.inl ⟨rfl, ?_⟩
    rintro certificate ⟨⟩

/-- A step of another connection keeps an assertion. -/
theorem ConnectionPc.Assertion.mono (h : pc.Assertion initial state)
    (hkeeps : state.node.store.records.KeepsRevoked state'.node.store.records) :
    pc.Assertion initial state' := by
  cases pc with
  | revoking pc => exact RevokePc.Assertion.mono h hkeeps
  | _ => trivial

/-- A step of a connection keeps what holds throughout and its own assertion. -/
theorem connectionStep_own (hnode : state.node.Extends initial) (hpc : pc.Assertion initial state)
    (h : ConnectionStep crates config identity state pc action state' pc') :
    state'.node.Extends initial ∧ pc'.Assertion initial state' := by
  have hkeeps : initial.KeepsRevoked state'.node.store.records :=
    hnode.1.trans (connectionStep_keepsRevoked h)
  cases h with
  | process hrevocation hfresh hhandle =>
    obtain ⟨store, hsame, -⟩ := HttpApi.keepsRevoked_handleConnection hrevocation hfresh
    rw [hhandle] at hsame
    simp only at hsame
    refine ⟨⟨hkeeps, ?_⟩, trivial⟩
    rw [hsame]
    exact hnode.2
  | revocation _ => exact ⟨hnode, trivial⟩
  | revoke hstep => exact revokeStep_own hnode hpc hstep
  | fail hfailure =>
    refine ⟨⟨hkeeps, ?_⟩, trivial⟩
    rw [(revokeFailure_keeps hfailure).2]
    exact hnode.2
  | _ => exact ⟨hnode, trivial⟩

/-- While the list that is installed has the certificate, a connection that is barred stays so,
changes nothing, and does not come to read a request. -/
theorem ConnectionPc.Barred.step (hpc : pc.Barred identity)
    (hlisted : state.node.installed.Refuses identity)
    (h : ConnectionStep crates config identity state pc action state' pc') :
    pc'.Barred identity ∧ state' = state ∧
      (action = .takeAcceptor ∨ action = .handshake) := by
  cases h with
  | takeAcceptor => exact ⟨hlisted, rfl, Or.inl rfl⟩
  | handshake hnot => exact absurd hpc hnot
  | refuse => exact ⟨trivial, rfl, Or.inr rfl⟩
  | _ => exact absurd hpc id

/-! ### Runs -/

section Runs

variable [DecidableEq ι] {identity : ι → MtlsIdentity} {c c' : Threads ι ApiState ConnectionPc}
  {a : ι × ConnectionAction} {i : ι}

/-- **Every step keeps the invariant**, unless it installs a list that lacks an acknowledged
revocation. -/
theorem connectionInvariant_step (hc : ConnectionInvariant initial c)
    (htaken : AcknowledgedIsTaken c a) (hstep : (connections crates config identity).step c a c') :
    ConnectionInvariant initial c' := by
  refine ⟨interleave_holds ?_ ?_ c a c' hc.holds hstep, ?_⟩
  · intro i state pc action state' pc' hnode hpc h
    exact connectionStep_own hnode hpc h
  · intro i j state pc pcj action state' pc' _ _ _ hpcj h
    exact hpcj.mono (connectionStep_keepsRevoked h)
  obtain ⟨i, action⟩ := a
  obtain ⟨state', pc', h, rfl⟩ := hstep
  rintro client hack
  rcases connectionStep_installed h with ⟨hsame, hnot⟩ |
    ⟨certificate, crlDer, taken, rfl, hpc, hinstalled, rfl⟩
  · rw [Threads.move_shared, hsame]
    refine hc.enforced client (hack.imp_right ?_)
    rintro ⟨j, certificate, hj, hserial⟩
    have hji : j ≠ i := by
      rintro rfl
      rw [Threads.move_locals_self] at hj
      exact hnot certificate hj
    exact ⟨j, certificate, by rwa [Threads.move_locals_of_ne hji] at hj, hserial⟩
  · have hassertion := hc.holds.2 i
    simp only at hpc
    rw [hpc] at hassertion
    obtain ⟨hkeeps, hown, hlists⟩ := hassertion
    rw [Threads.move_shared, hinstalled]
    rcases hack with ⟨id, record, hrecord, hrevoked, hserial⟩ | ⟨j, acknowledged, hj, hserial⟩
    · refine ((hlists _).mpr (hkeeps.revokes ?_)).refuses hserial
      exact ⟨id, record, hrecord, hrevoked, rfl⟩
    · refine ((hlists _).mpr ?_).refuses hserial
      by_cases hji : j = i
      · subst hji
        rw [Threads.move_locals_self] at hj
        cases hj
        exact hown
      · rw [Threads.move_locals_of_ne hji] at hj
        exact htaken rfl certificate crlDer taken hpc j acknowledged hj

omit [DecidableEq ι] in
theorem ConnectionStart.invariant (h : ConnectionStart initial c) :
    ConnectionInvariant initial c := by
  have hlists : ∀ serialNumber, initial.Revokes serialNumber →
      c.shared.node.installed.Lists serialNumber := by
    rintro serialNumber ⟨id, record, hrecord, hrevoked, hserial⟩
    exact (h.listed id record hrecord hrevoked).congr hserial
  refine ⟨⟨⟨?_, hlists⟩, fun i => ?_⟩, ?_⟩
  · rw [h.records_eq]
    exact .refl initial
  · rw [h.accepted i]
    trivial
  · rintro identity (⟨id, record, hrecord, hrevoked, hserial⟩ | ⟨i, certificate, hi, -⟩)
    · exact (h.listed id record hrecord hrevoked).refuses hserial
    · rw [h.accepted i] at hi
      cases hi

/-- An answer is final. -/
theorem not_connectionStep_answered {identity : MtlsIdentity} {certificate : CertificateRecord} :
    ¬ ConnectionStep crates config identity state (.revoking (.answered certificate)) action state'
      pc' := by
  intro h
  cases h with
  | revoke hstep => cases hstep
  | fail hfailure => cases hfailure

/-- What was acknowledged stays so. -/
theorem Acknowledged.step {client : MtlsIdentity} (h : Acknowledged initial c client)
    (hstep : (connections crates config identity).step c a c') :
    Acknowledged initial c' client := by
  refine h.imp_right ?_
  rintro ⟨i, certificate, hi, hserial⟩
  obtain ⟨state', pc', hthread, rfl⟩ := hstep
  have hia : i ≠ a.1 := by
    rintro rfl
    rw [hi] at hthread
    exact not_connectionStep_answered hthread
  exact ⟨i, certificate, by rwa [Threads.move_locals_of_ne hia], hserial⟩

/-- A connection with a certificate whose revocation was acknowledged stays barred. -/
theorem barred_step (hc : ConnectionInvariant initial c)
    (hack : Acknowledged initial c (identity i)) (hbarred : (c.locals i).Barred (identity i))
    (hstep : (connections crates config identity).step c a c') :
    (c'.locals i).Barred (identity i) ∧
      (a.1 = i → a.2 = .takeAcceptor ∨ a.2 = .handshake) := by
  obtain ⟨state', pc', h, rfl⟩ := hstep
  by_cases hi : a.1 = i
  · subst hi
    rw [Threads.move_locals_self]
    obtain ⟨hbarred', -, haction⟩ := hbarred.step (hc.enforced _ hack) h
    exact ⟨hbarred', fun _ => haction⟩
  · rw [Threads.move_locals_of_ne (Ne.symm hi)]
    exact ⟨hbarred, fun h => absurd h hi⟩

/-- **After a revocation, no handshake.** When the revocation of a certificate has been answered
with 200, or the certificate was revoked when the server started, a connection with it that has
not taken its acceptor by then is refused in the handshake: it never comes to read a request. No
bound is put on the connections and on what they do, but no list may be installed whose snapshot
lacks what was acknowledged. -/
theorem barred_of_acknowledged {s t : Threads ι ApiState ConnectionPc}
    (hstart : ConnectionStart initial c) (before : (connections crates config identity).Run c s)
    (hbefore : before.AllSteps AcknowledgedIsTaken)
    (hack : Acknowledged initial s (identity i)) (hi : s.locals i = .accepted)
    (after : (connections crates config identity).Run s t)
    (hafter : after.AllSteps AcknowledgedIsTaken) :
    after.AllStates (fun u => (u.locals i).Barred (identity i)) ∧
      after.AllSteps fun _ a => a.1 = i → a.2 = .takeAcceptor ∨ a.2 = .handshake := by
  have hs : ConnectionInvariant initial s :=
    (before.allStates_of_allSteps (fun u a v hu hP h => connectionInvariant_step hu hP h)
      hstart.invariant hbefore).last
  have hall : after.AllStates fun u => ConnectionInvariant initial u ∧
      Acknowledged initial u (identity i) ∧ (u.locals i).Barred (identity i) := by
    refine after.allStates_of_allSteps ?_ ⟨hs, hack, hi ▸ trivial⟩ hafter
    rintro u a v ⟨hu, huack, hbarred⟩ hP hstep
    exact ⟨connectionInvariant_step hu hP hstep, huack.step hstep,
      (barred_step hu huack hbarred hstep).1⟩
  refine ⟨hall.mono fun u hu => hu.2.2, LTS.Run.AllSteps.of_allStates ?_ hafter hall⟩
  rintro u a v ⟨hu, huack, hbarred⟩ - hstep
  exact (barred_step hu huack hbarred hstep).2

end Runs

/-! ### A client and an operator -/

/-- The head of a request for the inventory. -/
def listHead : List UInt8 := Text.utf8 "GET /v1/certificates HTTP/1.1\r\n\r\n".toList

/-- The parsers on the bytes of this request and of a request to revoke. -/
def inventoryCrates : Crates :=
  { HttpApi.revokeCrates with
    parseHead := fun bytes =>
      if listHead.isPrefixOf bytes then .complete "GET" "/v1/certificates" listHead.length
      else HttpApi.revokeCrates.parseHead bytes }

/-- The serial number of the client is 128, of which the certificate has a sign octet. -/
def clientIdentity : MtlsIdentity := ⟨9, "workload", "0080", "client-fingerprint"⟩

/-- The record writes the number without the octet. -/
theorem clientIdentity_hasSerial {serialNumber : String} (h : serialNumber = "80") :
    clientIdentity.HasSerial serialNumber := by
  rw [h, MtlsIdentity.HasSerial]
  decide

/-- A client, whose certificate has a record, and an operator. -/
def clientAndOperator (i : Bool) : MtlsIdentity :=
  bif i then HttpApi.operatorIdentity else clientIdentity

/-- Both are authorized. -/
def bothConfig : ApiConfig := ⟨.default, ⟨["client-fingerprint", "operator-fingerprint"]⟩⟩

/-- The server after it issued the certificate of the client. -/
def clientNode : Node :=
  (HttpApi.handle startedNode
    (.issue ⟨"workload", [], [], true, false⟩ (.signed 1 0 "80" "" 0) none)).2

/-- The two connections and the server. -/
def bothAccepted : Threads Bool ApiState ConnectionPc :=
  .pair ⟨clientNode, ⟨[]⟩, []⟩ .accepted .accepted

theorem connectionStart_bothAccepted :
    ConnectionStart bothAccepted.shared.node.store.records bothAccepted := by
  have hnone : clientNode.store.records.NoneRevoked := Records.noneRevoked_empty.insertRecord rfl
  refine ⟨rfl, fun id record hrecord hrevoked => ?_, Bool.rec rfl rfl⟩
  rw [hnone id record hrecord] at hrevoked
  cases hrevoked

/-- The steps of the two that install no list without what was acknowledged. -/
def clientAndOperatorSystem : LTS (Threads Bool ApiState ConnectionPc) (Bool × ConnectionAction) :=
  (connections inventoryCrates bothConfig clientAndOperator).restrict AcknowledgedIsTaken

section Steps

variable {state state' : ApiState} {pc pc' other : ConnectionPc} {action : ConnectionAction}

theorem client_step (h : ConnectionStep inventoryCrates bothConfig clientIdentity state pc action
    state' pc') (hnot : action ≠ .revoke .install) : clientAndOperatorSystem.step
      (.pair state pc other) (false, action) (.pair state' pc' other) :=
  ⟨fun hinstall => absurd hinstall hnot, interleave_first h⟩

theorem operator_step (h : ConnectionStep inventoryCrates bothConfig HttpApi.operatorIdentity state
    pc action state' pc') (hother : ∀ certificate, other ≠ .revoking (.answered certificate)) :
    clientAndOperatorSystem.step (.pair state other pc) (true, action)
      (.pair state' other pc') := by
  refine ⟨?_, interleave_second h⟩
  rintro - certificate crlDer taken hwritten i acknowledged hi
  cases i with
  | false => exact absurd hi (hother acknowledged)
  | true =>
    rw [hwritten] at hi
    cases hi

end Steps

/-- The list of the started server is empty. -/
theorem not_refuses_bothAccepted (identity : MtlsIdentity) :
    ¬ bothAccepted.shared.node.installed.Refuses identity := by
  rintro ⟨serial, hserial, -⟩
  cases hserial

/-- The operator revokes the certificate of the client. -/
theorem exists_run_operator {start : Threads Bool ApiState ConnectionPc} {pc : ConnectionPc}
    (run : clientAndOperatorSystem.Run start (.pair bothAccepted.shared pc .accepted))
    (hpc : ∀ certificate, pc ≠ .revoking (.answered certificate)) :
    ∃ state certificate, certificate.serialNumber = "80" ∧
      state.node.store.records.lookup 2 = none ∧
      state.node.store.records.list (Records.byId _) = [certificate] ∧
      Nonempty (clientAndOperatorSystem.Run start
        (.pair state pc (.revoking (.answered certificate)))) := by
  have hrevocation : HttpApi.revocation inventoryCrates bothConfig HttpApi.operatorIdentity
      [HttpApi.revokeHead ++ HttpApi.reasonBody] = some (1, some "keyCompromise") := by
    decide +kernel
  have hrefuses := not_refuses_bothAccepted HttpApi.operatorIdentity
  have received := ((run.snoc _ (operator_step .takeAcceptor hpc)).snoc _
    (operator_step (.handshake hrefuses) hpc)).snoc _
    (operator_step (.read [HttpApi.revokeHead ++ HttpApi.reasonBody]) hpc)
  have marked := (received.snoc _ (operator_step (.revocation hrevocation) hpc)).snoc _
    (operator_step (.revoke (@RevokeStep.mark _ _ _ 5 _ _ rfl)) hpc)
  have listed := (((marked.snoc _ (operator_step (.revoke .persist) hpc)).snoc _
    (operator_step (.revoke (@RevokeStep.readNumber _ _ true _ rfl)) hpc)).snoc _
    (operator_step (.revoke (.writeNumber (by decide))) hpc)).snoc _
    (operator_step (.revoke (.snapshot faultlessEnvironment.crl)) hpc)
  have run := ((listed.snoc _
    (operator_step (.revoke (@RevokeStep.sign _ _ _ _ _ true _ rfl)) hpc)).snoc _
    (operator_step (.revoke .writeCrl) hpc)).snoc _ (operator_step (.revoke .install) hpc)
  exact ⟨_, _, rfl, rfl, rfl, ⟨run⟩⟩

/-- The request for the inventory, handled for the client. -/
theorem handleConnection_list (env : ConnectionEnvironment) (state : ApiState) :
    HttpApi.handleConnection inventoryCrates bothConfig clientIdentity env [listHead] state =
      (.json (HttpApi.handleListCertificates true env.iteration state.node), state) := by
  have hhead : inventoryCrates.parseHead (HttpApi.readRequest [listHead]) =
      .complete "GET" "/v1/certificates" listHead.length := by
    decide +kernel
  have hroute : HttpApi.route "GET" "/v1/certificates" = .list := by decide
  have hcan : bothConfig.authorization.canIssueCertificates clientIdentity = true := by decide
  rw [HttpApi.handleConnection, if_neg (by decide), hhead]
  simp only [hroute, HttpApi.handleRoute, hcan]

/-- The revocation of the certificate of the client is answered with 200 while the connection of
the client stands at `pc`; then its request is read, and the inventory is disclosed to it. -/
def DisclosedAfterRevocation (pc : ConnectionPc) : Prop :=
  ∃ (s t : Threads Bool ApiState ConnectionPc)
    (before : (connections inventoryCrates bothConfig clientAndOperator).Run bothAccepted s)
    (after : (connections inventoryCrates bothConfig clientAndOperator).Run s t)
    (certificate : CertificateRecord),
    before.AllSteps AcknowledgedIsTaken ∧ after.AllSteps AcknowledgedIsTaken ∧
      s.locals true = .revoking (.answered certificate) ∧
      (clientAndOperator false).HasSerial certificate.serialNumber ∧ s.locals false = pc ∧
      t.locals false = .answered (.json ⟨200, .certificates [certificate]⟩)

/-- What the client does once it is authenticated. -/
theorem exists_run_client {start : Threads Bool ApiState ConnectionPc} {state : ApiState}
    {other : ConnectionPc} {certificate : CertificateRecord}
    (hfresh : state.node.store.records.lookup 2 = none)
    (hlist : state.node.store.records.list (Records.byId _) = [certificate])
    (run : clientAndOperatorSystem.Run start (.pair state .authenticated other)) :
    Nonempty (clientAndOperatorSystem.Run start
      (.pair state (.answered (.json ⟨200, .certificates [certificate]⟩)) other)) := by
  have hrevocation : HttpApi.revocation inventoryCrates bothConfig clientIdentity [listHead] =
      none := by
    decide +kernel
  let env : ConnectionEnvironment := { HttpApi.sampleConnection with
    issuance := { HttpApi.sampleConnection.issuance with recordId := 2 } }
  have answered := (run.snoc _ (client_step (.read [listHead]) (by decide))).snoc _
    (client_step (.process hrevocation hfresh (handleConnection_list env state)) (by decide))
  rw [← hlist]
  exact ⟨answered⟩

/-- The connection was authenticated before the revocation, or had only taken its acceptor. -/
theorem disclosedAfterRevocation_authenticated :
    DisclosedAfterRevocation .authenticated ∧
      DisclosedAfterRevocation (.handshaking bothAccepted.shared.node.installed) := by
  have hrefuses := not_refuses_bothAccepted clientIdentity
  have handshaking : clientAndOperatorSystem.Run bothAccepted _ :=
    LTS.Run.nil.snoc _ (client_step .takeAcceptor (by decide))
  constructor
  · have authenticated := handshaking.snoc _ (client_step (.handshake hrefuses) (by decide))
    obtain ⟨state, certificate, hserial, hfresh, hlist, ⟨before⟩⟩ :=
      exists_run_operator authenticated (by rintro certificate ⟨⟩)
    obtain ⟨after⟩ := exists_run_client hfresh hlist LTS.Run.nil
    exact ⟨_, _, before.ofRestrict, after.ofRestrict, certificate,
      LTS.Run.allSteps_ofRestrict before, LTS.Run.allSteps_ofRestrict after, rfl,
      clientIdentity_hasSerial hserial, rfl, rfl⟩
  · obtain ⟨state, certificate, hserial, hfresh, hlist, ⟨before⟩⟩ :=
      exists_run_operator handshaking (by rintro certificate ⟨⟩)
    obtain ⟨after⟩ := exists_run_client hfresh hlist
      (LTS.Run.nil.snoc _ (client_step (.handshake hrefuses) (by decide)))
    exact ⟨_, _, before.ofRestrict, after.ofRestrict, certificate,
      LTS.Run.allSteps_ofRestrict before, LTS.Run.allSteps_ofRestrict after, rfl,
      clientIdentity_hasSerial hserial, rfl, rfl⟩

/-- A connection of the client that comes after the revocation takes the acceptor that has its
certificate on the list, and is refused. -/
theorem barred_of_acknowledged_client :
    ∃ (s t : Threads Bool ApiState ConnectionPc)
      (after : (connections inventoryCrates bothConfig clientAndOperator).Run s t),
      (∃ certificate, s.locals true = .revoking (.answered certificate)) ∧
        t.locals false = .refused ∧ after.AllStates fun u =>
          (u.locals false).Barred (clientAndOperator false) := by
  obtain ⟨state, certificate, hserial, -, -, ⟨before⟩⟩ :=
    @exists_run_operator bothAccepted .accepted LTS.Run.nil (by rintro certificate ⟨⟩)
  have after := (LTS.Run.nil.snoc _ (@client_step state _ _ _ (.revoking (.answered certificate)) _
    .takeAcceptor (by decide))).snoc _ (client_step .refuse (by decide))
  have hack : Acknowledged bothAccepted.shared.node.store.records
      (.pair state .accepted (.revoking (.answered certificate))) (clientAndOperator false) :=
    Or.inr ⟨true, certificate, rfl, clientIdentity_hasSerial hserial⟩
  refine ⟨_, _, after.ofRestrict, ⟨certificate, rfl⟩, rfl, ?_⟩
  exact (barred_of_acknowledged connectionStart_bothAccepted before.ofRestrict
    (LTS.Run.allSteps_ofRestrict before) hack rfl after.ofRestrict
    (LTS.Run.allSteps_ofRestrict after)).1

end DaemonPki
