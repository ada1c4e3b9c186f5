import ValetudoMatter.Http.Exchange

/-!
# How an exchange ends

What the three calls have in common ends with a response of status 200 to the one request that it has sent, or with an error
(`exchange_cases`): the host that `connect` asks for is there when the authority is unwrapped. So does each of the three
(`get_cases`, `put_cases`, `sse_cases`). A change of the response that keeps its status goes through to the call
(`exchange_mapResponse`).
-/

namespace ValetudoMatter

open Coroutine

@[simp] theorem Call.outcome_of_exit {α : Type} {call : Call α} {s : Unit} {sent : List Request} {x : Exit AnyhowError α}
    (h : call () = .exit s sent x) : call.outcome = (sent, x) := by
  unfold Call.outcome
  rw [h]

/-! ## The body -/

/-- What the frames of a body say: the data up to the first error, and that error. -/
def bodyData : List (Except AnyhowError Frame) → List UInt8 × Option AnyhowError
  | [] => ([], none)
  | .error e :: _ => ([], some e)
  | .ok .trailers :: rest => bodyData rest
  | .ok (.data bytes) :: rest => (bytes ++ (bodyData rest).1, (bodyData rest).2)

/-- The fold gives the data, or the error. -/
theorem foldBody_eq (acc : List UInt8) (frames : List (Except AnyhowError Frame)) :
    foldBody acc frames =
      match (bodyData frames).2 with
      | some e => .error e
      | none => .ok (acc ++ (bodyData frames).1) := by
  induction frames generalizing acc with
  | nil => simp [foldBody, bodyData]
  | cons frame frames ih =>
    cases frame with
    | error e => simp [foldBody, bodyData]
    | ok frame =>
      cases frame with
      | trailers => simp only [foldBody, Frame.dataRef, bodyData, ih]
      | data bytes =>
        simp only [foldBody, Frame.dataRef, bodyData, ih]
        cases (bodyData frames).2 <;> simp

/-! ## The exchange -/

/-- The authority of a URI that has a host is there. -/
theorem ValetudoClient.authority_of_connect {net : Network} {uri : Uri} (h : ValetudoClient.connect net uri = .ok ()) :
    ∃ authority, uri.authority = some authority := by
  cases hauth : uri.authority with
  | some authority => exact ⟨authority, rfl⟩
  | none => simp [ValetudoClient.connect, Uri.host, hauth] at h

section Exchange

variable (client : ValetudoClient) (net : Network) (method : Method) (path body : String) (headers : List (String × String))

/-- An exchange ends with a response of status 200 to the request that it has sent, or with an error. -/
theorem ValetudoClient.exchange_cases :
    (∃ req resp, net.sendRequest req = .ok resp ∧ resp.status = 200 ∧
      client.exchange net method path body headers () = .exit () [req] (.done resp)) ∨
    ∃ sent e, sent.length ≤ 1 ∧ client.exchange net method path body headers () = .exit () sent (.fail e) := by
  unfold ValetudoClient.exchange
  cases huri : client.uri net path with
  | error e => exact .inr ⟨[], e, by simp, by simp⟩
  | ok uri =>
    cases hconnect : ValetudoClient.connect net uri with
    | error e => exact .inr ⟨[], e, by simp, by simp [hconnect]⟩
    | ok _ =>
      obtain ⟨authority, hauth⟩ := authority_of_connect hconnect
      cases hbuild : net.build
          { method := method, headers := ("host", authority.text) :: headers, uri := uri, body := body } with
      | error e => exact .inr ⟨[], e, by simp, by simp [hconnect, unwrapAuthority, hauth, hbuild]⟩
      | ok req =>
        cases hsend : net.sendRequest req with
        | error e => exact .inr ⟨[req], e, by simp, by simp [hconnect, unwrapAuthority, hauth, hbuild, hsend]⟩
        | ok resp =>
          by_cases hstatus : resp.status = 200
          · exact .inl ⟨req, resp, hsend, hstatus, by simp [hconnect, unwrapAuthority, hauth, hbuild, hsend, hstatus]⟩
          · exact .inr ⟨[req], statusError method uri resp.status, by simp,
              by simp [hconnect, unwrapAuthority, hauth, hbuild, hsend, hstatus]⟩

/-- The network with every response changed. -/
def Network.mapResponse (net : Network) (f : Response → Response) : Network :=
  { net with sendRequest := fun req => (net.sendRequest req).map f }

/-- An exchange ends with the changed response where it ended with a response, and as before where it did not, if the change
keeps the status. -/
theorem ValetudoClient.exchange_mapResponse {f : Response → Response} (hf : ∀ r, (f r).status = r.status) :
    client.exchange (net.mapResponse f) method path body headers () =
      (client.exchange net method path body headers ()).bind fun resp => pure (f resp) := by
  have huri : client.uri (net.mapResponse f) path = client.uri net path := rfl
  unfold ValetudoClient.exchange
  rw [huri]
  cases client.uri net path with
  | error e => simp
  | ok uri =>
    have hconnect : ValetudoClient.connect (net.mapResponse f) uri = ValetudoClient.connect net uri := rfl
    simp only [Co.ofExcept_ok, Co.bind_apply, Co.pure_apply, Outcome.bind_done, Outcome.emit_nil, hconnect]
    cases ValetudoClient.connect net uri with
    | error e => simp
    | ok _ =>
      cases hauth : uri.authority with
      | none => simp [unwrapAuthority, hauth]
      | some authority =>
        simp only [unwrapAuthority, hauth, Network.mapResponse, Co.ofExcept_ok, Co.bind_apply, Co.pure_apply,
          Outcome.bind_done, Outcome.emit_nil]
        cases net.build { method := method, headers := ("host", authority.text) :: headers, uri := uri, body := body } with
        | error e => simp
        | ok req =>
          cases hsend : net.sendRequest req with
          | error e => simp [hsend, Except.map]
          | ok resp => by_cases hstatus : resp.status = 200 <;> simp [hsend, Except.map, hf, hstatus]

end Exchange

/-! ## The three calls -/

namespace ValetudoClient

variable {α : Type} (client : ValetudoClient) (fromSlice : List UInt8 → Except AnyhowError α) (net : Network)
  (path body : String)

/-- How `get` ends: with what the body of a response of status 200 decodes to, or with an error. -/
theorem get_cases :
    (∃ req resp bytes a, net.sendRequest req = .ok resp ∧ resp.status = 200 ∧ bodyData resp.frames = (bytes, none) ∧
      fromSlice bytes = .ok a ∧ (client.get fromSlice net path).outcome = ([req], .done a)) ∨
    ∃ sent e, sent.length ≤ 1 ∧ (client.get fromSlice net path).outcome = (sent, .fail e) := by
  unfold ValetudoClient.get
  rcases client.exchange_cases net .get path "" [("accept", "application/json"), ("connection", "close")] with
    ⟨req, resp, hsend, hstatus, hex⟩ | ⟨sent, e, hsent, hex⟩
  · cases herr : (bodyData resp.frames).2 with
    | some e => exact .inr ⟨[req], e, by simp, Call.outcome_of_exit (s := ()) (by simp [hex, foldBody_eq, herr])⟩
    | none =>
      cases hslice : fromSlice (bodyData resp.frames).1 with
      | error e =>
        exact .inr ⟨[req], _, by simp,
          Call.outcome_of_exit (s := ()) (by simp [hex, foldBody_eq, herr, hslice, context]; rfl)⟩
      | ok a =>
        refine .inl ⟨req, resp, (bodyData resp.frames).1, a, hsend, hstatus, Prod.ext rfl herr, hslice, ?_⟩
        exact Call.outcome_of_exit (s := ()) (by simp [hex, foldBody_eq, herr, hslice, context])
  · exact .inr ⟨sent, e, hsent, Call.outcome_of_exit (s := ()) (by simp [hex])⟩

/-- How `put` ends: well on a response of status 200, or with an error. -/
theorem put_cases :
    (∃ req resp, net.sendRequest req = .ok resp ∧ resp.status = 200 ∧
      (client.put net path body).outcome = ([req], .done ())) ∨
    ∃ sent e, sent.length ≤ 1 ∧ (client.put net path body).outcome = (sent, .fail e) := by
  unfold ValetudoClient.put
  rcases client.exchange_cases net .put path body
    [("content-type", "application/json"), ("connection", "close"), ("accept-encoding", "identity")] with
    ⟨req, resp, hsend, hstatus, hex⟩ | ⟨sent, e, hsent, hex⟩
  · exact .inl ⟨req, resp, hsend, hstatus, Call.outcome_of_exit (s := ()) (by simp [hex])⟩
  · exact .inr ⟨sent, e, hsent, Call.outcome_of_exit (s := ()) (by simp [hex])⟩

/-- How `sse` ends: with a new stream of what the body of a response of status 200 unpacks to, or with an error. -/
theorem sse_cases :
    (∃ req resp, net.sendRequest req = .ok resp ∧ resp.status = 200 ∧
      (resp.contentEncoding = none ∨ resp.contentEncoding = some (.ok "gzip")) ∧
      (client.sse net path).outcome = ([req], .done (.new resp.decoded))) ∨
    ∃ sent e, sent.length ≤ 1 ∧ (client.sse net path).outcome = (sent, .fail e) := by
  unfold ValetudoClient.sse
  rcases client.exchange_cases net .get path ""
    [("accept", "text/event-stream"), ("accept-encoding", "gzip"), ("connection", "keep-alive")] with
    ⟨req, resp, hsend, hstatus, hex⟩ | ⟨sent, e, hsent, hex⟩
  · cases hencoding : resp.contentEncoding with
    | none =>
      exact .inl ⟨req, resp, hsend, hstatus, .inl hencoding, Call.outcome_of_exit (s := ()) (by simp [hex, hencoding])⟩
    | some encoding =>
      cases encoding with
      | error e => exact .inr ⟨[req], e, by simp, Call.outcome_of_exit (s := ()) (by simp [hex, hencoding])⟩
      | ok encoding =>
        by_cases hgzip : encoding = "gzip"
        · refine .inl ⟨req, resp, hsend, hstatus, .inr (by rw [hencoding, hgzip]), ?_⟩
          exact Call.outcome_of_exit (s := ()) (by simp [hex, hencoding, hgzip])
        · exact .inr ⟨[req], _, by simp, Call.outcome_of_exit (s := ()) (by simp [hex, hencoding, hgzip]; rfl)⟩
  · exact .inr ⟨sent, e, hsent, Call.outcome_of_exit (s := ()) (by simp [hex])⟩

end ValetudoClient

end ValetudoMatter
