/-!
# The client of the Valetudo API

The requests that `ValetudoClient` sends, and the errors its results carry. The connection, the status line and the decoding
of a response body are on the other side of an answer: `get` and `put` give `Ok` or an error.
-/

namespace ValetudoMatter

/-- An `anyhow::Error`: its message, under the contexts that were put around it. -/
structure AnyhowError where
  chain : List String
  deriving DecidableEq, Repr

/-- `bail!`. -/
def AnyhowError.msg (s : String) : AnyhowError := ⟨[s]⟩

/-- `.context(..)`. -/
def context {α : Type} (s : String) : Except AnyhowError α → Except AnyhowError α
  | .ok a => .ok a
  | .error e => .error ⟨s :: e.chain⟩

inductive Method where
  | get | put
  deriving DecidableEq, Repr

structure HttpRequest where
  method : Method
  path : String
  body : String
  deriving DecidableEq, Repr

/-- The request of `ValetudoClient::get` and `ValetudoClient::sse`. -/
def HttpRequest.get (path : String) : HttpRequest := { method := .get, path := path, body := "" }

/-- The request of `ValetudoClient::put`. -/
def HttpRequest.put (path body : String) : HttpRequest := { method := .put, path := path, body := body }

/-- Where the capabilities of the robot are: `capabilities/X`, and what is below it, belongs to the capability `X`. -/
def capabilitiesPrefix : List Char := "/api/v2/robot/capabilities/".toList

/-- The capability that a request names, if its path is under that of a capability. -/
def HttpRequest.capability? (r : HttpRequest) : Option String :=
  if capabilitiesPrefix <+: r.path.toList then
    some (String.ofList ((r.path.toList.drop capabilitiesPrefix.length).takeWhile (· ≠ '/')))
  else none

/-- Which capability a request names is a matter of its path. -/
theorem capability?_put (path body : String) :
    (HttpRequest.put path body).capability? = (HttpRequest.get path).capability? := rfl

end ValetudoMatter
