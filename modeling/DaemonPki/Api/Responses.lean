import DaemonPki.Api.Http
import DaemonPki.Foundation.HttpMessage

/-!
# The bytes of a response

How the server writes its answers (`daemon-pki-api/src/http.rs`, `write_json`): a head that
announces the length of the body, and the body, which the JSON crate makes of a value. Nothing of a
request gets into the head, so a client finds the end of the answer by its length alone, whatever
the body consists of; and an answer that is cut off is not taken for one.

## Main definitions

* `DaemonPki.HttpApi.reasonPhrase`, `DaemonPki.HttpApi.writeJson`.
* `DaemonPki.JsonCrate`, `DaemonPki.Reply.written`: what a client receives.

## Main results

* `DaemonPki.HttpApi.status_handleConnection`: the statuses of the server have their own texts.
* `DaemonPki.HttpApi.replies_readBack`: the answer to a connection is read back from its bytes.
-/

namespace DaemonPki

open Foundation

/-- What the server takes from the crate that writes JSON: the bytes of a body, which it may fail
to make, and those of the health response. There are no more of them than fit into memory. -/
structure JsonCrate where
  body : ResponseBody → Option (List UInt8)
  health : Option (List UInt8)
  length_body : ∀ response bytes, body response = some bytes → bytes.length < 2 ^ 64
  length_health : ∀ bytes, health = some bytes → bytes.length < 2 ^ 64

namespace HttpApi

/-! ### What is written -/

/-- Source: `http.rs`, lines 733–741. -/
def reasonPhrase : ℕ → String
  | 200 => "OK"
  | 201 => "Created"
  | 400 => "Bad Request"
  | 403 => "Forbidden"
  | 404 => "Not Found"
  | 500 => "Internal Server Error"
  | _ => "Internal Server Error"

/-- Source: `http.rs`, lines 743–750. -/
def responseHead (statusCode bodyLength : ℕ) : String :=
  "HTTP/1.1 " ++ toString statusCode ++ " " ++ reasonPhrase statusCode ++ "\r\n" ++
    "Content-Type: application/json\r\n" ++
    "Content-Length: " ++ toString bodyLength ++ "\r\n" ++
    "Connection: close\r\n" ++
    "\r\n"

/-- Source: `http.rs`, lines 720–763. -/
def writeJson (statusCode : ℕ) (body : List UInt8) : List UInt8 :=
  Text.utf8 (responseHead statusCode body.length).toList ++ body

end HttpApi

/-- The status and the body of a reply, as far as it has them and the body can be written. -/
def Reply.parts (json : JsonCrate) : Reply → Option (ℕ × List UInt8)
  | .closed | .panicked => none
  | .health => json.health.map fun body => (200, body)
  | .json response => (json.body response.body).map fun body => (response.status, body)

/-- What is written to the stream; nothing, when there is no body. -/
def Reply.written (json : JsonCrate) (reply : Reply) : List UInt8 :=
  match reply.parts json with
  | none => []
  | some (status, body) => HttpApi.writeJson status body

namespace HttpApi

/-! ### The message of a response -/

/-- A response as a client reads it. -/
def message (statusCode : ℕ) (body : List UInt8) : HttpMessage where
  status := statusCode
  reason := Text.utf8 (reasonPhrase statusCode).toList
  fields :=
    [(Text.utf8 "Content-Type".toList, Text.utf8 "application/json".toList),
      (Text.utf8 "Content-Length".toList, HttpMessage.decimal body.length),
      (Text.utf8 "Connection".toList, Text.utf8 "close".toList)]
  body := body

theorem utf8_append (text text' : String) :
    Text.utf8 (text ++ text').toList = Text.utf8 text.toList ++ Text.utf8 text'.toList := by
  rw [String.toList_append, Text.utf8, List.flatMap_append]
  rfl

theorem utf8_version : Text.utf8 "HTTP/1.1 ".toList = HttpMessage.version ++ [32] := by decide

theorem utf8_crlf : Text.utf8 "\r\n".toList = HttpMessage.crlf := by decide

theorem utf8_contentType : Text.utf8 "Content-Type: application/json\r\n".toList =
    HttpMessage.fieldLine
      (Text.utf8 "Content-Type".toList, Text.utf8 "application/json".toList) ++
        HttpMessage.crlf := by
  decide

theorem utf8_contentLength : Text.utf8 "Content-Length: ".toList =
    Text.utf8 "Content-Length".toList ++ [58, 32] := by
  decide

theorem utf8_connection : Text.utf8 "Connection: close\r\n".toList =
    HttpMessage.fieldLine (Text.utf8 "Connection".toList, Text.utf8 "close".toList) ++
      HttpMessage.crlf := by
  decide

/-- What is written is a message. -/
theorem writeJson_eq_write (statusCode : ℕ) (body : List UInt8) :
    writeJson statusCode body = (message statusCode body).write := by
  have hspace : Text.utf8 " ".toList = [32] := by decide
  have hlength : HttpMessage.fieldLine
      (Text.utf8 "Content-Length".toList, HttpMessage.decimal body.length) =
        Text.utf8 "Content-Length".toList ++ [58, 32] ++ HttpMessage.decimal body.length := by
    rw [HttpMessage.fieldLine, List.append_assoc]
    rfl
  unfold writeJson responseHead
  simp only [utf8_append]
  rw [utf8_version, hspace, utf8_crlf, utf8_contentType, utf8_contentLength, utf8_connection,
    message, HttpMessage.write, HttpMessage.headLines, List.map_cons, List.map_cons, List.map_cons,
    List.map_nil, hlength, HttpMessage.decimal, HttpMessage.decimal]
  simp only [List.flatMap_cons, List.flatMap_nil, List.append_assoc, List.cons_append,
    List.nil_append]

/-- No text of a status ends the line. -/
theorem not_mem_reasonPhrase (statusCode : ℕ) :
    13 ∉ Text.utf8 (reasonPhrase statusCode).toList := by
  unfold reasonPhrase
  split <;> decide

/-- The message of a response is well formed, if its body fits into memory. -/
theorem wellFormed_message {statusCode : ℕ} {body : List UInt8} (hstatus : statusCode < 2 ^ 16)
    (hbody : body.length < 2 ^ 64) : (message statusCode body).WellFormed := by
  refine ⟨hstatus, not_mem_reasonPhrase statusCode, ?_, ?_⟩
  · have hcr : 13 ∉ HttpMessage.decimal body.length :=
      HttpMessage.not_mem_decimal (Or.inl (by decide)) _
    have hspace : 32 ∉ HttpMessage.decimal body.length :=
      HttpMessage.not_mem_decimal (Or.inl (by decide)) _
    have hhead : (HttpMessage.decimal body.length).head? ≠ some 32 := fun heq =>
      hspace (List.mem_of_mem_head? heq)
    have hname : 13 ∉ Text.utf8 "Content-Length".toList ∧
        58 ∉ Text.utf8 "Content-Length".toList := by decide
    intro field hfield
    rcases List.mem_cons.mp hfield with rfl | hfield
    · decide
    rcases List.mem_cons.mp hfield with rfl | hfield
    · exact ⟨hname.1, hname.2, hcr, hhead⟩
    · obtain rfl := List.mem_singleton.mp hfield
      decide
  · have hname : (Text.utf8 "Content-Type".toList).map HttpMessage.lowerByte ≠
        Text.utf8 "content-length".toList := by decide
    have hlength : (Text.utf8 "Content-Length".toList).map HttpMessage.lowerByte =
        Text.utf8 "content-length".toList := by decide
    rw [message, HttpMessage.contentLength,
      List.find?_cons_of_neg (by simpa only [decide_eq_true_eq] using hname),
      List.find?_cons_of_pos (by simpa only [decide_eq_true_eq] using hlength)]
    exact HttpMessage.fromStrRadix_decimal hbody

/-! ### The replies of the server -/

/-- The statuses that the server answers with. -/
def statuses : List ℕ := [200, 201, 400, 403, 404, 500]

/-- Each of them has a text of its own. -/
theorem reasonPhrase_injOn {status status' : ℕ} (h : status ∈ statuses) (h' : status' ∈ statuses)
    (heq : reasonPhrase status = reasonPhrase status') : status = status' := by
  have hnodup : (statuses.map reasonPhrase).Nodup := by decide
  exact List.inj_on_of_nodup_map hnodup h h' heq

variable {crates : Crates} {config : ApiConfig} {identity : MtlsIdentity}
  {env : ConnectionEnvironment} {state : ApiState} {body : List UInt8}

theorem status_handleIssueBody :
    (handleIssueBody crates config body identity env state).1.status ∈ statuses := by
  rw [handleIssueBody]
  split
  · simp [statuses]
  · simp only
    unfold issueReply
    split
    · simp [statuses]
    · split_ifs <;> simp [statuses]

theorem status_handleRevokeCertificate {authorized : Bool} {id : Option Uuid}
    {reason : Option (Option String)} {now : OffsetDateTime} {fault : Option PersistFault}
    {refresh : RefreshEnvironment} {node node' : Node} {response : HttpResponse}
    (h : handleRevokeCertificate authorized id reason now fault refresh node =
      (.returned response, node')) : response.status ∈ statuses := by
  unfold handleRevokeCertificate at h
  split_ifs at h
  · cases h
    decide
  · split at h
    · cases h
      decide
    · cases h
      decide
    · split at h
      · split at h <;> cases h <;> simp [statuses]
      · cases h
        decide
      · cases h
        simp [statuses]

theorem status_handleRoute (route : Route) (response : HttpResponse)
    (h : (handleRoute crates config identity env body state route).1 = .json response) :
    response.status ∈ statuses := by
  cases route with
  | health => cases h
  | issue =>
    cases h
    exact status_handleIssueBody
  | list =>
    cases h
    rw [handleListCertificates]
    split_ifs <;> simp [statuses]
  | get path =>
    cases h
    unfold handleGetCertificate
    split_ifs
    · decide
    · split
      · decide
      · split <;> simp [statuses]
  | revoke path =>
    rw [handleRoute] at h
    rcases hresult : handleRevokeCertificate (config.authorization.canIssueCertificates identity)
      (certificateIdFromRevokePath crates path) (revokeBody crates body) env.now env.fault
      env.refresh state.node with ⟨outcome | _, node⟩
    · simp only [hresult, Reply.ofOutcome] at h
      cases h
      exact status_handleRevokeCertificate hresult
    · simp only [hresult, Reply.ofOutcome] at h
      cases h
  | notFound =>
    cases h
    decide

/-- The server answers with statuses that it knows. -/
theorem status_handleConnection (fragments : List (List UInt8)) (response : HttpResponse)
    (h : (handleConnection crates config identity env fragments state).1 = .json response) :
    response.status ∈ statuses := by
  rw [handleConnection] at h
  split_ifs at h
  · split at h
    · cases h
    · cases h
      decide
    · exact status_handleRoute _ response h

end HttpApi

/-- What the parts of a reply are. -/
theorem Reply.parts_eq_some {json : JsonCrate} {reply : Reply} {status : ℕ} {body : List UInt8}
    (h : reply.parts json = some (status, body)) : body.length < 2 ^ 64 ∧
      ((reply = .health ∧ status = 200) ∨
        ∃ response, reply = .json response ∧ status = response.status) := by
  cases reply with
  | closed => cases h
  | panicked => cases h
  | health =>
    obtain ⟨bytes, hbytes, heq⟩ := Option.map_eq_some_iff.mp h
    cases heq
    exact ⟨json.length_health _ hbytes, Or.inl ⟨rfl, rfl⟩⟩
  | json response =>
    obtain ⟨bytes, hbytes, heq⟩ := Option.map_eq_some_iff.mp h
    cases heq
    exact ⟨json.length_body _ _ hbytes, Or.inr ⟨response, rfl, rfl⟩⟩

namespace HttpApi

/-- **The answer to a connection is read back from its bytes.** Whatever the client has sent and
whatever the state of the server, a client that reads the answer finds the status, one of the
statuses that the server knows and that its text determines, and the body, and it finds their end,
whatever follows. From an answer that is cut off it reads nothing. -/
theorem replies_readBack (json : JsonCrate) (fragments : List (List UInt8)) {status : ℕ}
    {body : List UInt8}
    (h : (handleConnection crates config identity env fragments state).1.parts json =
      some (status, body)) :
    (∀ rest, HttpMessage.read
      ((handleConnection crates config identity env fragments state).1.written json ++ rest) =
        some (message status body, rest)) ∧
    (∀ bytes more,
      (handleConnection crates config identity env fragments state).1.written json =
        bytes ++ more → more ≠ [] → HttpMessage.read bytes = none) ∧
    status ∈ statuses ∧
    ∀ status' ∈ statuses, reasonPhrase status' = reasonPhrase status → status' = status := by
  obtain ⟨hlength, hreply⟩ := Reply.parts_eq_some h
  have hstatus : status ∈ statuses := by
    rcases hreply with ⟨-, rfl⟩ | ⟨response, hresponse, rfl⟩
    · decide
    · exact status_handleConnection fragments response hresponse
  have hknown : ∀ known ∈ statuses, known < 2 ^ 16 := by decide
  have hmessage := wellFormed_message (hknown status hstatus) hlength
  have hwritten : (handleConnection crates config identity env fragments state).1.written json =
      (message status body).write := by
    rw [Reply.written, h]
    exact writeJson_eq_write status body
  refine ⟨?_, ?_, hstatus, fun status' h' heq => reasonPhrase_injOn h' hstatus heq⟩
  · intro rest
    rw [hwritten, HttpMessage.read_write hmessage]
  · intro bytes more hbytes hmore
    exact HttpMessage.read_eq_none hmessage (hwritten.symm.trans hbytes) hmore

/-- A crate that writes the health response, and the errors without characters to escape. -/
def plainJson : JsonCrate where
  body
    | .error message =>
      let bytes := Text.utf8
        ("\x7b\"error\":\"".toList ++ message.toList ++ "\"\x7d".toList)
      if (message.toList.all fun c => c.isAlpha || c = ' ') ∧ bytes.length < 2 ^ 64 then
        some bytes
      else none
    | _ => none
  health := some (Text.utf8 "\x7b\"status\":\"ok\",\"service\":\"daemon-pki\"\x7d".toList)
  length_body := by
    intro response bytes h
    cases response with
    | error message =>
      simp only at h
      split_ifs at h with hplain
      cases h
      exact hplain.2
    | _ => cases h
  length_health := by
    rintro bytes ⟨⟩
    decide

/-- The refusal of a stranger is read back, though more bytes follow. -/
theorem replies_readBack_stranger :
    HttpMessage.read ((handleConnection revokeCrates operatorConfig strangerIdentity
        sampleConnection [revokeHead ++ reasonBody] ⟨issuedNode, ⟨[]⟩, []⟩).1.written plainJson ++
          HttpMessage.crlf) =
      some (message 403 (Text.utf8
        "\x7b\"error\":\"certificate revocation is not authorized\"\x7d".toList),
          HttpMessage.crlf) := by
  have hparts : (handleConnection revokeCrates operatorConfig strangerIdentity sampleConnection
      [revokeHead ++ reasonBody] ⟨issuedNode, ⟨[]⟩, []⟩).1.parts plainJson =
        some (403, Text.utf8
          "\x7b\"error\":\"certificate revocation is not authorized\"\x7d".toList) := by
    decide +kernel
  exact (replies_readBack plainJson _ hparts).1 HttpMessage.crlf

end HttpApi

end DaemonPki
