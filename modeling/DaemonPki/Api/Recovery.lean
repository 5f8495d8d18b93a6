import DaemonPki.Api.RegistryRefinement
import DaemonPki.Api.ServerRuns

/-!
# Whether the server comes back

The certificates are written to a temporary file that is renamed, but the counter of the revocation
lists is written in place (`daemon-pki-api/src/crl.rs`, lines 97–132). When the process ends, or the
disk is full, after the file was emptied and before it is filled, no later process can read a number
from it; and every start has to draw one, as has every refresh. So one write that is cut off decides
whether the server ever comes back.

## Main definitions

* `DaemonPki.RefreshEnvironment.Succeeds`, `DaemonPki.Records.Serialized`,
  `DaemonPki.serializedSystem`.
* `DaemonPki.Server.production`: whether a step draws a number.
* `DaemonPki.Server.Draws`, `DaemonPki.Server.CutsOff`: what becomes of the counter.

## Main results

* `DaemonPki.Server.number_step`: the counter after a step.
* `DaemonPki.Server.isUp_restart_iff`: when the server comes up as nothing fails.
* `DaemonPki.comesUp_iff_of_run`: after which runs it does.
-/

namespace DaemonPki

open Foundation

/-! ### What a start needs -/

/-- Nothing fails when the acceptor is refreshed, whatever the counter has. -/
structure RefreshEnvironment.Succeeds (env : RefreshEnvironment) : Prop where
  readsNumber : env.crl.readsNumber = true
  writesNumber : env.crl.writesNumber = .succeeded
  signs : env.crl.signs = true
  writesCrl : env.crl.writesCrl = .succeeded
  configures : env.configures = true

/-- The serial numbers of the records are the texts of numbers. -/
def Records.Serialized (records : Records) : Prop :=
  ∀ id record, records.lookup id = some record → ∃ n, record.serialNumber = serialText n

/-- A certificate that is issued has the serial number that it was signed with, as text. -/
def ServerEvent.Serialized (event : ServerEvent) : Prop :=
  ∀ record, event.storeCall = some (.insert record) → ∃ n, record.serialNumber = serialText n

/-- The server under requests and restarts, with faults at any step. -/
def serializedSystem : LTS Server ServerEvent :=
  serverSystem.restrict fun _ event => event.Serialized

/-- The number in the counter, if there is one. -/
def CrlFiles.counter (files : CrlFiles) : Option ℕ :=
  (CrlManager.currentCrlNumber files.number true).toOption

namespace Server

def isUp : Server → Bool
  | down _ _ => false
  | up _ => true

end Server

/-! ### The production of a list in a step -/

/-- The production to which a request leads: that of a revocation that was written. Source:
`http.rs`, lines 629–634. -/
def Request.production (node : Node) : Request → Option CrlEnvironment
  | .revoke true (some id) (some reason) now fault env =>
    match (node.store.revoke now id (reason.getD "revoked by operator") fault).1 with
    | .ok (some _) => some env.crl
    | _ => none
  | _ => none

/-- The production of a list in a step of the server, if it gets there. Source: `bin/server.rs`,
lines 198–228. -/
def Server.production (server : Server) : ServerEvent → Option CrlEnvironment
  | .request handled =>
    match server with
    | .up node => handled.production node
    | .down _ _ => none
  | .restart opens env =>
    match opens, StoreFile.read server.file with
    | true, .ok _ => some env.crl
    | _, _ => none

/-- The refresh leaves the files as the production of the list does. -/
theorem TlsAcceptorManager.crlFiles_refresh (env : RefreshEnvironment) (node : Node) :
    (refresh env node).2.crlFiles =
      (CrlManager.generateAndPersist env.crl node.store.records node.crlFiles).2 := by
  rw [refresh]
  rcases CrlManager.generateAndPersist env.crl node.store.records node.crlFiles with
    ⟨(e | crlDer) | _, files⟩
  · rfl
  · simp only
    split_ifs <;> rfl
  · rfl

/-- The counter after the production of a list, if there is one. -/
def CrlFiles.numberAfter (files : CrlFiles) : Option CrlEnvironment → Option String
  | none => files.number
  | some env => (CrlManager.nextCrlNumber files.number env.readsNumber env.writesNumber).2

/-- A request leaves the counter as its production does. -/
theorem HttpApi.number_handle (node : Node) (request : Request) :
    (handle node request).2.crlFiles.number =
      node.crlFiles.numberAfter (request.production node) := by
  cases request with
  | list authorized iteration => rfl
  | get authorized id => rfl
  | issue request attempt fault =>
    cases attempt with
    | refused status message => rfl
    | signed id now serialNumber certificatePem notAfter =>
      rw [handle, handleIssue]
      rcases node.store.insert
        (issuedRecord request id now serialNumber certificatePem notAfter) fault with
        ⟨e | _, store⟩ <;> rfl
  | revoke authorized id body now fault env =>
    rcases authorized with - | -
    · rfl
    rcases id with - | id
    · rfl
    rcases body with - | reason
    · rfl
    rw [handle, handleRevokeCertificate]
    simp only [Request.production, Bool.not_true, Bool.false_eq_true, if_false]
    rcases hrevoke : node.store.revoke now id (reason.getD "revoked by operator") fault with
      ⟨e | certificate | certificate, store⟩
    · rfl
    · rfl
    · simp only [CrlFiles.numberAfter]
      rw [← CrlManager.number_generateAndPersist env.crl store.records node.crlFiles]
      have hfiles := TlsAcceptorManager.crlFiles_refresh env { node with store := store }
      rcases hrefresh : TlsAcceptorManager.refresh env { node with store := store } with
        ⟨(e | _) | _, refreshed⟩ <;> rw [hrefresh] at hfiles <;> exact congrArg _ hfiles

namespace Server

variable {server server' : Server} {event : ServerEvent}

/-- A restart leaves the counter as its production does. -/
theorem number_restart (server : Server) (opens : Bool) (env : RefreshEnvironment) :
    (server.restart opens env).crlFiles.number =
      server.crlFiles.numberAfter (server.production (.restart opens env)) := by
  rcases opens with - | -
  · rfl
  cases hread : StoreFile.read server.file with
  | error e =>
    simp only [restart, production, hread]
    rfl
  | ok records =>
    simp only [restart, production, hread, CrlFiles.numberAfter]
    rw [← CrlManager.number_generateAndPersist env.crl records server.crlFiles]
    rcases CrlManager.generateAndPersist env.crl records server.crlFiles with
      ⟨(e | crlDer) | _, files⟩
    · rfl
    · simp only
      split_ifs <;> rfl
    · rfl

/-- **The counter after a step**: only a production of a list writes it. -/
theorem number_step (h : ServerStep server event server') :
    server'.crlFiles.number = server.crlFiles.numberAfter (server.production event) := by
  cases h with
  | @request node handled hfresh => exact HttpApi.number_handle node handled
  | restart _ opens env => exact server.number_restart opens env

end Server

/-! ### What becomes of the counter -/

namespace CrlManager

/-- What the write of the counter does when a number is drawn, if it gets there. -/
def counterWrite (number : Option String) (reads : Bool) (write : WriteResult) :
    Option WriteResult :=
  match currentCrlNumber number reads with
  | .error _ => none
  | .ok current => if current + 1 < 2 ^ 64 then some write else none

/-- The number that a counter with `n` has after it was written, if any. -/
def counterAfter (n : ℕ) : Option WriteResult → Option ℕ
  | some .succeeded | some .failedWritten => some (n + 1)
  | some .failedEmpty => none
  | some .failedUnchanged | none => some n

variable {number : Option String} {n : ℕ}

/-- A counter with a number has the next one, none, or the same after a draw. -/
theorem currentCrlNumber_nextCrlNumber (hn : currentCrlNumber number true = .ok n) (reads : Bool)
    (write : WriteResult) :
    (currentCrlNumber (nextCrlNumber number reads write).2 true).toOption =
      counterAfter n (counterWrite number reads write) := by
  cases hcurrent : currentCrlNumber number reads with
  | error e =>
    simp only [nextCrlNumber, counterWrite, hcurrent, hn]
    rfl
  | ok current =>
    obtain rfl := Except.ok.inj (hn.symm.trans (currentCrlNumber_of_reads hcurrent))
    simp only [nextCrlNumber, counterWrite, hcurrent]
    split_ifs with hlt
    · cases write with
      | succeeded | failedWritten =>
        simp only [WriteResult.file, currentCrlNumber_toString hlt]
        rfl
      | failedUnchanged =>
        simp only [WriteResult.file, hn]
        rfl
      | failedEmpty => rfl
    · simp only [hn]
      rfl

/-- A counter without a number is not written. -/
theorem number_nextCrlNumber_of_error {e : CrlManagerError}
    (h : currentCrlNumber number true = .error e) (reads : Bool) (write : WriteResult) :
    (nextCrlNumber number reads write).2 = number := by
  rw [nextCrlNumber]
  cases hcurrent : currentCrlNumber number reads with
  | error e => rfl
  | ok current => cases h.symm.trans (currentCrlNumber_of_reads hcurrent)

end CrlManager

namespace Server

/-- What the write of the counter does in a step of the server, if it gets there. -/
def counterWrite (server : Server) (event : ServerEvent) : Option WriteResult :=
  (server.production event).bind fun env =>
    CrlManager.counterWrite server.crlFiles.number env.readsNumber env.writesNumber

/-- The step draws a number, which is used for a list or lost. -/
def Draws (server : Server) (event : ServerEvent) : Prop :=
  server.counterWrite event = some .succeeded ∨ server.counterWrite event = some .failedWritten

/-- The step empties the counter and does not fill it. -/
def CutsOff (server : Server) (event : ServerEvent) : Prop :=
  server.counterWrite event = some .failedEmpty

variable {server server' : Server} {event : ServerEvent} {n : ℕ}

/-- What a step does to a counter that has a number. -/
theorem counter_step (hn : server.crlFiles.counter = some n)
    (h : ServerStep server event server') :
    server'.crlFiles.counter = CrlManager.counterAfter n (server.counterWrite event) := by
  rw [CrlFiles.counter, number_step h, counterWrite]
  cases server.production event with
  | none => exact hn
  | some env =>
    exact CrlManager.currentCrlNumber_nextCrlNumber (toOption_eq_some_iff.mp hn) env.readsNumber
      env.writesNumber

/-- A counter without a number does not get one. -/
theorem counter_step_none (hnone : server.crlFiles.counter = none)
    (h : ServerStep server event server') : server'.crlFiles.counter = none := by
  cases hcurrent : CrlManager.currentCrlNumber server.crlFiles.number true with
  | ok n =>
    rw [CrlFiles.counter, hcurrent] at hnone
    cases hnone
  | error e =>
    rw [CrlFiles.counter, number_step h]
    cases server.production event with
    | none => exact hnone
    | some env =>
      simp only [CrlFiles.numberAfter, CrlManager.number_nextCrlNumber_of_error hcurrent]
      exact hnone

/-- A step keeps a number in the counter exactly when it does not cut it off. -/
theorem isSome_counter_step_iff (hsome : server.crlFiles.counter.isSome = true)
    (h : ServerStep server event server') :
    server'.crlFiles.counter.isSome = true ↔ ¬ server.CutsOff event := by
  obtain ⟨n, hn⟩ := Option.isSome_iff_exists.mp hsome
  rw [counter_step hn h, CutsOff]
  cases server.counterWrite event with
  | none => simp [CrlManager.counterAfter]
  | some write => cases write <;> simp [CrlManager.counterAfter]

open Classical in
/-- A step that does not cut it off adds one to the counter exactly when it draws a number. -/
theorem counter_step_of_not_cutsOff (hsome : server.crlFiles.counter.isSome = true)
    (hcut : ¬ server.CutsOff event) (h : ServerStep server event server') :
    server'.crlFiles.counter.getD 0 =
      server.crlFiles.counter.getD 0 + if server.Draws event then 1 else 0 := by
  obtain ⟨n, hn⟩ := Option.isSome_iff_exists.mp hsome
  rw [counter_step hn h, hn, Option.getD_some, Draws]
  rw [CutsOff] at hcut
  cases hwrite : server.counterWrite event with
  | none => simp [CrlManager.counterAfter]
  | some write =>
    cases write with
    | failedEmpty => exact absurd hwrite hcut
    | _ => simp [CrlManager.counterAfter]

end Server

/-! ### What needs a number -/

/-- A list is only produced when the counter has a number. -/
theorem CrlManager.exists_counter_of_generateAndPersist {env : CrlEnvironment} {records : Records}
    {files files' : CrlFiles} {der : CertificateRevocationListParams}
    (h : generateAndPersist env records files = (.returned (.ok der), files')) :
    ∃ n, files.counter = some n ∧ n + 1 < 2 ^ 64 := by
  obtain ⟨current, hcurrent, hlt, -, -⟩ := generateAndPersist_eq_ok h
  exact ⟨current, toOption_eq_some_iff.mpr (currentCrlNumber_of_reads hcurrent), hlt⟩

/-- A revocation is only answered with 200 when the counter has a number. -/
theorem HttpApi.exists_counter_of_revoke_ok {node node' : Node} {authorized : Bool}
    {id : Option Uuid} {body : Option (Option String)} {now : OffsetDateTime}
    {fault : Option PersistFault} {env : RefreshEnvironment} {response : HttpResponse}
    (h : handle node (.revoke authorized id body now fault env) = (.returned response, node'))
    (hok : response.status = 200) : ∃ n, node.crlFiles.counter = some n ∧ n + 1 < 2 ^ 64 := by
  rw [handle] at h
  rcases handleRevokeCertificate_cases authorized id body now fault env node with
    ⟨result, node'', hresult, -, hstatus, -⟩ |
      ⟨key, reason, certificate, store, files, crlDer, -, -, -, -, hgenerate⟩
  · rw [hresult] at h
    cases h
    exact absurd hok (hstatus response rfl)
  · exact CrlManager.exists_counter_of_generateAndPersist hgenerate

/-- The serial numbers of an issuance and of a revocation stay texts of numbers. -/
theorem Records.Serialized.change {records changed : Records} {call : StoreCall}
    {event : ServerEvent} (hevent : event.Serialized) (hcall : event.storeCall = some call)
    (hadmissible : call.Admissible records) (hchange : call.change records = some changed)
    (h : records.Serialized) : changed.Serialized := by
  intro id record hrecord
  cases call with
  | insert inserted =>
    cases hchange
    rw [insertRecord, HashMap.lookup_insert_eq_ite] at hrecord
    split_ifs at hrecord
    · obtain rfl := Option.some.inj hrecord
      exact hevent inserted hcall
    · exact h id record hrecord
  | revoke now id' reason =>
    obtain ⟨⟨updated, records'⟩, hrevoke, rfl⟩ := Option.map_eq_some_iff.mp hchange
    obtain ⟨old, hold, rfl, rfl⟩ := revokeRecord_eq_some hrevoke
    rw [HashMap.lookup_insert_eq_ite] at hrecord
    split_ifs at hrecord
    · obtain rfl := Option.some.inj hrecord
      rw [serialNumber_markRevoked]
      exact h id' old hold
    · exact h id record hrecord
  | remove id' => exact hadmissible.elim

namespace Server

variable {server server' : Server} {event : ServerEvent} {env : RefreshEnvironment} {opens : Bool}

/-- The server only comes up when the counter has a number. -/
theorem exists_counter_of_isUp_restart (h : (server.restart opens env).isUp = true) :
    ∃ n, server.crlFiles.counter = some n ∧ n + 1 < 2 ^ 64 := by
  rcases opens with - | -
  · cases h
  cases hread : StoreFile.read server.file with
  | error e =>
    simp only [restart, hread] at h
    cases h
  | ok records =>
    rcases hgenerate : CrlManager.generateAndPersist env.crl records server.crlFiles with
      ⟨(e | crlDer) | _, files⟩
    · simp only [restart, hread, hgenerate] at h
      cases h
    · exact CrlManager.exists_counter_of_generateAndPersist hgenerate
    · simp only [restart, hread, hgenerate] at h
      cases h

/-- **When the server comes up as nothing fails**: exactly when the counter has a number. -/
theorem isUp_restart_iff (h : server.Durably Records.Serialized) (henv : env.Succeeds) :
    (server.restart true env).isUp = true ↔
      ∃ n, server.crlFiles.counter = some n ∧ n + 1 < 2 ^ 64 := by
  refine ⟨exists_counter_of_isUp_restart, ?_⟩
  rintro ⟨n, hn, hlt⟩
  obtain ⟨records, hread, hserialized⟩ := h.onDisk
  have hfaultless : env.Faultless server.crlFiles :=
    ⟨henv.readsNumber, ⟨n, toOption_eq_some_iff.mp hn, hlt⟩, henv.writesNumber, henv.signs,
      henv.writesCrl, henv.configures⟩
  obtain ⟨der, files, crlNumber, hgenerate, -⟩ :=
    CrlManager.generateAndPersist_of_faultless hfaultless hserialized
  simp only [restart, hread, hgenerate, henv.configures, if_true]
  rfl

/-- The serial numbers stay texts of numbers in the map and in the file. -/
theorem serialized_step (hstep : serializedSystem.step server event server')
    (h : server.Durably Records.Serialized) : server'.Durably Records.Serialized := by
  refine durably_step (fun _ => id) ?_ hstep.2 h
  intro call records changed hcall hadmissible hchange
  exact Records.Serialized.change hstep.1 hcall hadmissible hchange

end Server

/-! ### Runs -/

namespace Server

variable {start server : Server} {n : ℕ}

/-- The counter has a number at the end of a run exactly when no write of it was cut off. -/
theorem isSome_counter_iff_of_run (hstart : start.crlFiles.counter.isSome = true)
    (run : serializedSystem.Run start server) :
    server.crlFiles.counter.isSome = true ↔ run.AllSteps fun u event => ¬ u.CutsOff event := by
  have hiff : run.AllStates (fun u => u.crlFiles.counter.isSome = true) ↔
      run.AllSteps fun u event => ¬ u.CutsOff event := by
    have htrue : ∀ u event v, True → serializedSystem.step u event v → True :=
      fun _ _ _ _ _ => trivial
    exact LTS.Run.allStates_iff_allSteps htrue
      (fun _ _ _ _ hsome hstep => isSome_counter_step_iff hsome hstep.2) trivial hstart run
  rw [← hiff]
  refine ⟨fun hlast => LTS.Run.allStates_of_last ?_ run hlast, LTS.Run.AllStates.last⟩
  -- A counter without a number does not get one, so a number at the end was there all the time.
  intro u event v hstep hv
  rw [← Option.ne_none_iff_isSome] at hv ⊢
  exact fun hnone => hv (counter_step_none hnone hstep.2)

/-- The counter then has as many numbers more as were drawn. -/
theorem counter_eq_of_run (hstart : start.crlFiles.counter = some n)
    (run : serializedSystem.Run start server)
    (h : run.AllSteps fun u event => ¬ u.CutsOff event) :
    server.crlFiles.counter = some (n + run.count Draws) := by
  have hsome := (isSome_counter_iff_of_run (by rw [hstart]; rfl) run).mpr h
  have hall : run.AllSteps fun u event =>
      u.crlFiles.counter.isSome = true ∧ ¬ u.CutsOff event := by
    have hstates : run.AllStates fun u => u.crlFiles.counter.isSome = true := by
      refine LTS.Run.allStates_of_allSteps ?_ (by rw [hstart]; rfl) run h
      exact fun u event v hu hcut hstep => (isSome_counter_step_iff hu hstep.2).mpr hcut
    exact h.of_allStates (fun u event v hu hcut _ => ⟨hu, hcut⟩) hstates
  have hcount := LTS.Run.count_eq (fun u event v hu (hstep : serializedSystem.step u event v) =>
    counter_step_of_not_cutsOff hu.1 hu.2 hstep.2) run hall
  obtain ⟨m, hm⟩ := Option.isSome_iff_exists.mp hsome
  rw [hm, hstart, Option.getD_some, Option.getD_some] at hcount
  rw [hm, hcount]

end Server

/-- **After which runs the server comes back.** Take any run of requests and restarts, with faults
at any step, from files that can be read. A restart in which nothing fails then brings the server up
exactly when no write of the counter was cut off and the numbers have not been used up. After a
write that was cut off, no restart brings it up ever again, and while it still runs, no revocation
is answered with 200. -/
theorem comesUp_iff_of_run {file : Option StoreFile} {files : CrlFiles} {records : Records} {n : ℕ}
    {server : Server} {env : RefreshEnvironment} (hread : StoreFile.read file = .ok records)
    (hserialized : records.Serialized) (hcounter : files.counter = some n) (henv : env.Succeeds)
    (run : serializedSystem.Run (.down file files) server) :
    ((server.restart true env).isUp = true ↔
        run.AllSteps (fun u event => ¬ u.CutsOff event) ∧ n + run.count Server.Draws + 1 < 2 ^ 64) ∧
      (¬ run.AllSteps (fun u event => ¬ u.CutsOff event) →
        ∀ (server' : Server) (_ : serializedSystem.Run server server'),
          (∀ opens env', (server'.restart opens env').isUp = false) ∧
          ∀ node, server' = .up node → ∀ authorized id body now fault env' response node',
            HttpApi.handle node (.revoke authorized id body now fault env') =
              (.returned response, node') → response.status ≠ 200) := by
  have hstart : (Server.down file files).Durably Records.Serialized := ⟨records, hread, hserialized⟩
  have hdurably : server.Durably Records.Serialized :=
    run.invariant (fun _ _ _ h hstep => Server.serialized_step hstep h) hstart
  have hreadable : (Server.down file files).crlFiles.counter = some n := hcounter
  have hiff := Server.isSome_counter_iff_of_run (by rw [hreadable]; rfl) run
  constructor
  · rw [Server.isUp_restart_iff hdurably henv]
    constructor
    · rintro ⟨m, hm, hlt⟩
      have hall := hiff.mp (by rw [hm]; rfl)
      have heq := Server.counter_eq_of_run hreadable run hall
      rw [hm, Option.some.injEq] at heq
      exact ⟨hall, heq ▸ hlt⟩
    · rintro ⟨hall, hlt⟩
      exact ⟨_, Server.counter_eq_of_run hreadable run hall, hlt⟩
  · intro hcut server' later
    have hnone : server.crlFiles.counter = none := by
      rw [← Option.not_isSome_iff_eq_none]
      exact fun hsome => hcut (hiff.mp hsome)
    have hlater : server'.crlFiles.counter = none :=
      LTS.Run.invariant (fun _ _ _ h (hstep : serializedSystem.step _ _ _) =>
        Server.counter_step_none h hstep.2) hnone later
    constructor
    · intro opens env'
      rw [← Bool.not_eq_true]
      intro hup
      obtain ⟨m, hm, -⟩ := Server.exists_counter_of_isUp_restart hup
      cases hlater.symm.trans hm
    · rintro node rfl authorized id body now fault env' response node' h hok
      obtain ⟨m, hm, -⟩ := HttpApi.exists_counter_of_revoke_ok h hok
      cases hlater.symm.trans hm

/-- A revocation during which the counter is emptied and not filled. -/
def cutOffRevocation : Request :=
  .revoke true (some 1) (some none) 5 none
    ⟨{ faultlessEnvironment.crl with writesNumber := .failedEmpty }, true⟩

/-- A certificate is issued, and the counter is cut off when it is revoked. -/
def cutOffRun : serializedSystem.Run (.down none ⟨none, none⟩)
    (.up (HttpApi.handle issuedNode cutOffRevocation).2) :=
  .snoc (.snoc (.snoc (t := .down none ⟨none, none⟩) .nil (.restart true faultlessEnvironment)
    ⟨(by rintro record ⟨⟩), restart_eq_startedNode ▸ .restart _ _ _⟩) (.request issueRequest)
    ⟨(by rintro record ⟨⟩; exact ⟨10, by decide⟩),
      @ServerStep.request startedNode issueRequest rfl⟩)
    (.request cutOffRevocation) ⟨(by rintro record ⟨⟩), .request cutOffRevocation trivial⟩

/-- The server does not come back. -/
theorem comesUp_iff_of_run_cutOff :
    ((Server.up (HttpApi.handle issuedNode cutOffRevocation).2).restart true
      faultlessEnvironment).isUp = false := by
  have hserialized : Records.Serialized ∅ := fun id record hrecord => by
    rw [Finmap.lookup_empty] at hrecord
    cases hrecord
  have henv : faultlessEnvironment.Succeeds := ⟨rfl, rfl, rfl, rfl, rfl⟩
  have hnever := (comesUp_iff_of_run rfl hserialized rfl henv cutOffRun).2 (fun h => h.2 (by rfl))
  exact (hnever _ .nil).1 true faultlessEnvironment

end DaemonPki
