import ValetudoMatter.Http.Sse
import ValetudoMatter.Http.Client
import ValetudoMatter.Lib.Coroutine

/-!
# The calls of the client

`ValetudoClient` of `http.rs`, down to what `hyper` does for it: the URI, the connection, the request with its headers, the
status and the body of the response. `Network` is what one exchange meets there, whatever that is.
-/

namespace ValetudoMatter

open Coroutine

/-! ## What `hyper` gives -/

structure Authority where
  host : String
  port : Option UInt16
  text : String
  deriving DecidableEq, Repr

/-- A `hyper::Uri`, and its `Parts`. -/
structure Uri where
  scheme : Option String
  authority : Option Authority
  pathAndQuery : Option String
  deriving DecidableEq, Repr

/-- `uri.host()`. -/
def Uri.host (uri : Uri) : Option String := uri.authority.map (·.host)

/-- `uri.port_u16()`. -/
def Uri.portU16 (uri : Uri) : Option UInt16 := uri.authority.bind (·.port)

/-- A URI as it is displayed. -/
def Uri.text (uri : Uri) : String :=
  (uri.scheme.elim "" (· ++ "://")) ++ uri.authority.elim "" (·.text) ++ uri.pathAndQuery.getD ""

/-- A `hyper::Request`. -/
structure Request where
  method : Method
  headers : List (String × String)
  uri : Uri
  body : String
  deriving DecidableEq, Repr

/-- A frame of a response body. -/
inductive Frame where
  | data (bytes : List UInt8)
  | trailers
  deriving DecidableEq, Repr

/-- A response: its status, its content encoding if it names one (which may be no text), the frames of its body, each of which may
fail, and what a `GzipDecoder` that reads the body gives. -/
structure Response where
  status : UInt16
  contentEncoding : Option (Except AnyhowError String)
  frames : List (Except AnyhowError Frame)
  decoded : Body

/-- What one exchange meets: the checks on a URI and a request, the connection, and the response. -/
structure Network where
  pathAndQuery : String → Except AnyhowError String
  fromParts : Uri → Except AnyhowError Uri
  connect : String → UInt16 → Except AnyhowError Unit
  build : Request → Except AnyhowError Request
  sendRequest : Request → Except AnyhowError Response

/-! ## The calls -/

/-- A call of the client: it may send requests, fail, or bring the process down. -/
abbrev Call (α : Type) : Type := Co Unit Request Empty Empty AnyhowError α

/-- The requests that a call sends, and how it ends. -/
def Call.outcome {α : Type} (call : Call α) : List Request × Exit AnyhowError α :=
  match call () with
  | .exit _ sent x => (sent, x)
  | .await _ _ r _ => nomatch r

/-- `data_ref`. -/
def Frame.dataRef : Frame → Option (List UInt8)
  | .data bytes => some bytes
  | .trailers => none

/-- The `try_fold` over the frames of a body. -/
def foldBody (body : List UInt8) : List (Except AnyhowError Frame) → Except AnyhowError (List UInt8)
  | [] => .ok body
  | .error e :: _ => .error e
  | .ok chunk :: rest =>
    match chunk.dataRef with
    | some bytes => foldBody (body ++ bytes) rest
    | none => foldBody body rest

/-- The name of a method. -/
def Method.name : Method → String
  | .get => "GET"
  | .put => "PUT"

/-- `bail!("{method} {uri}: {status:?}")`. -/
def statusError (method : Method) (uri : Uri) (status : UInt16) : AnyhowError :=
  .msg (method.name ++ " " ++ uri.text ++ ": " ++ toString status.toNat)

structure ValetudoClient where
  base : Uri

namespace ValetudoClient

/-- `ValetudoClient::uri`. -/
def uri (client : ValetudoClient) (net : Network) (path : String) : Except AnyhowError Uri := do
  let pathAndQuery ← net.pathAndQuery path
  net.fromParts { client.base with pathAndQuery := some pathAndQuery }

/-- `ValetudoClient::connect`. -/
def connect (net : Network) (uri : Uri) : Except AnyhowError Unit :=
  match uri.host with
  | some host => net.connect host (uri.portU16.getD 80)
  | none => .error (.msg "cannot parse host")

/-- `uri.authority().unwrap().as_str()`. -/
def unwrapAuthority (uri : Uri) : Call String :=
  match uri.authority with
  | some authority => pure authority.text
  | none => Co.abort

/-- What the three calls have in common: connect, send a request, and go on with the response if its status is 200. -/
def exchange (client : ValetudoClient) (net : Network) (method : Method) (path body : String)
    (headers : List (String × String)) : Call Response := do
  let uri ← Co.ofExcept (client.uri net path)
  Co.ofExcept (connect net uri)
  let host ← unwrapAuthority uri
  let req ← Co.ofExcept (net.build { method := method, headers := ("host", host) :: headers, uri := uri, body := body })
  Co.emit [req]
  let resp ← Co.ofExcept (net.sendRequest req)
  if resp.status ≠ 200 then
    Co.fail (statusError method uri resp.status)
  return resp

/-- `ValetudoClient::get`, with `serde_json::from_slice`. -/
def get {α : Type} (client : ValetudoClient) (fromSlice : List UInt8 → Except AnyhowError α) (net : Network)
    (path : String) : Call α := do
  let resp ← client.exchange net .get path "" [("accept", "application/json"), ("connection", "close")]
  let body ← Co.ofExcept (foldBody [] resp.frames)
  Co.ofExcept (context "Invalid response" (fromSlice body))

/-- `ValetudoClient::put`. The response body is read and dropped, errors and all. -/
def put (client : ValetudoClient) (net : Network) (path body : String) : Call Unit := do
  let _ ← client.exchange net .put path body
    [("content-type", "application/json"), ("connection", "close"), ("accept-encoding", "identity")]
  return ()

/-- `ValetudoClient::sse`. The body is decoded as gzip also where it names no encoding. -/
def sse (client : ValetudoClient) (net : Network) (path : String) : Call SseStream := do
  let resp ← client.exchange net .get path ""
    [("accept", "text/event-stream"), ("accept-encoding", "gzip"), ("connection", "keep-alive")]
  match resp.contentEncoding with
  | none => return .new resp.decoded
  | some encoding =>
    let encoding ← Co.ofExcept encoding
    if encoding = "gzip" then
      return .new resp.decoded
    else
      Co.fail (.msg ("Unexpected content-encoding: " ++ encoding))

end ValetudoClient

end ValetudoMatter
