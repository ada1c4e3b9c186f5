import ValetudoMatter.Lib.Delim

/-!
# The SSE decoder

`SseStream` of `http/sse.rs`: a body that is read 1024 bytes at a time, the buffer that survives from one poll to the next,
and `poll_next`, whose loop cuts the buffer at the first `"\n\n"`, decodes the block, and reads when no block is complete.

The body reader is the sequence of results it gives (`Body`), ended by an end of file or an error. One pass of the loop is a
function of its own (`SseStream.pass`), so that `pollNext` is its iteration and the buffers it searches can be named
(`Searched`).
-/

namespace ValetudoMatter

/-- Line feed. -/
def LF : UInt8 := 10

/-- Carriage return. -/
def CR : UInt8 := 13

/-- The prefix of a payload line, `b"data: "`. -/
def dataPrefix : List UInt8 := [100, 97, 116, 97, 58, 32]

/-- What one `Ready(Ok(n))` delivers: between 1 and 1024 bytes. -/
structure Chunk where
  bytes : List UInt8
  pos : 0 < bytes.length
  le : bytes.length ≤ 1024

/-- A body reader, by the results it gives in turn. -/
inductive Body where
  | eof
  | error (e : String)
  | pending (rest : Body)
  | ready (chunk : Chunk) (rest : Body)

inductive Poll (α : Type) where
  | pending
  | ready (a : α)
  deriving DecidableEq, Repr

/-- Why an item of the stream is an `Err`: a block that is not valid UTF-8, or the error of a read. -/
inductive SseError where
  | utf8
  | io (e : String)
  deriving DecidableEq, Repr

abbrev Item : Type := Except SseError String

/-- `poll_read(cx, slice)`: its result, the slice after it, and the reader after it. A read that gives `n` bytes writes them to
the front of the slice and leaves the rest of it; the others leave the slice as it was. -/
def Body.pollRead : Body → List UInt8 → Poll (Except String Nat) × List UInt8 × Body
  | .eof, slice => (.ready (.ok 0), slice, .eof)
  | .error e, slice => (.ready (.error e), slice, .eof)
  | .pending rest, slice => (.pending, slice, rest)
  | .ready chunk rest, slice =>
    (.ready (.ok chunk.bytes.length), chunk.bytes ++ slice.drop chunk.bytes.length, rest)

structure SseStream where
  body : Option Body
  buffer : List UInt8

def SseStream.new (body : Body) : SseStream := { body := some body, buffer := [] }

/-- `lines_with_terminator`: the lines of a byte string, each with the LF that ends it. -/
def linesWithTerminator : List UInt8 → List (List UInt8)
  | [] => []
  | b :: bs =>
    if b = LF then [LF] :: linesWithTerminator bs
    else
      match linesWithTerminator bs with
      | [] => [[b]]
      | l :: ls => (b :: l) :: ls

/-- `trim_last_terminator`: a line without the LF that ends it, and without the CR before that LF. -/
def trimLastTerminator (l : List UInt8) : List UInt8 :=
  if l.getLast? = some LF then
    if l.dropLast.getLast? = some CR then l.dropLast.dropLast else l.dropLast
  else l

/-- `bstr`'s `lines`: the lines of a byte string, without their terminators. -/
def lines (bs : List UInt8) : List (List UInt8) := (linesWithTerminator bs).map trimLastTerminator

/-- `strip_prefix(b"data: ")`. -/
def stripData (line : List UInt8) : Option (List UInt8) :=
  if dataPrefix <+: line then some (line.drop dataPrefix.length) else none

/-- The data of a block: its payload lines without their prefix, joined by LF. -/
def blockData (block : List UInt8) : List UInt8 := [LF].intercalate ((lines block).filterMap stripData)

/-- `String::from_utf8`. -/
def fromUtf8 (data : List UInt8) : Item :=
  match String.fromUTF8? ⟨data.toArray⟩ with
  | some s => .ok s
  | none => .error .utf8

/-- What `buffer.resize(off + 1024, 0)` grows the buffer by. -/
def padding : List UInt8 := List.replicate 1024 0

@[simp] theorem length_padding : padding.length = 1024 := List.length_replicate

/-- What one pass of the loop does: go round again, or return from the poll. -/
inductive Pass where
  | next (body : Body) (buffer : List UInt8)
  | return (result : Poll (Option Item)) (stream : SseStream)

/-- One pass of the loop of `poll_next`. -/
def SseStream.pass (body : Body) (buffer : List UInt8) : Pass :=
  match Delim.find [LF, LF] buffer with
  | some pos =>
    let data := blockData (buffer.take pos)
    let buffer := buffer.drop (pos + 2)
    if data.isEmpty then .next body buffer
    else .return (.ready (some (fromUtf8 data))) { body := some body, buffer := buffer }
  | none =>
    let off := buffer.length
    let buffer := buffer ++ padding
    match body.pollRead (buffer.drop off) with
    | (.pending, slice, body) => .return .pending { body := some body, buffer := buffer.take off ++ slice }
    | (.ready (.ok 0), slice, _) => .return (.ready none) { body := none, buffer := buffer.take off ++ slice }
    | (.ready (.ok (n + 1)), slice, body) => .next body ((buffer.take off ++ slice).take (off + (n + 1)))
    | (.ready (.error e), slice, _) =>
      .return (.ready (some (.error (.io e)))) { body := none, buffer := buffer.take off ++ slice }

/-! ## One pass, case by case -/

/-- A block is complete: it is cut off the buffer, and yielded unless its data is empty. -/
theorem SseStream.pass_of_find_some {buffer : List UInt8} {pos : Nat} (body : Body)
    (h : Delim.find [LF, LF] buffer = some pos) :
    pass body buffer =
      if (blockData (buffer.take pos)).isEmpty then .next body (buffer.drop (pos + 2))
      else .return (.ready (some (fromUtf8 (blockData (buffer.take pos)))))
        { body := some body, buffer := buffer.drop (pos + 2) } := by
  simp only [pass, h]

/-- No block is complete and the read is pending: the buffer keeps the 1024 zeros it was grown by. -/
theorem SseStream.pass_pending {buffer : List UInt8} (rest : Body) (h : Delim.find [LF, LF] buffer = none) :
    pass (.pending rest) buffer =
      .return .pending { body := some rest, buffer := buffer ++ padding } := by
  simp [pass, h, Body.pollRead]

/-- No block is complete and the read gives bytes: the buffer is grown by exactly these. -/
theorem SseStream.pass_ready {buffer : List UInt8} (chunk : Chunk) (rest : Body)
    (h : Delim.find [LF, LF] buffer = none) :
    pass (.ready chunk rest) buffer = .next rest (buffer ++ chunk.bytes) := by
  obtain ⟨n, hn⟩ : ∃ n, chunk.bytes.length = n + 1 := ⟨chunk.bytes.length - 1, by have := chunk.pos; omega⟩
  simp only [pass, h, Body.pollRead, List.drop_left, List.take_left, hn]
  rw [← hn, ← List.length_append, ← List.append_assoc, List.take_left]

theorem SseStream.pass_eof {buffer : List UInt8} (h : Delim.find [LF, LF] buffer = none) :
    pass .eof buffer = .return (.ready none) { body := none, buffer := buffer ++ padding } := by
  simp [pass, h, Body.pollRead]

theorem SseStream.pass_error {buffer : List UInt8} (e : String) (h : Delim.find [LF, LF] buffer = none) :
    pass (.error e) buffer =
      .return (.ready (some (.error (.io e)))) { body := none, buffer := buffer ++ padding } := by
  simp [pass, h, Body.pollRead]

/-! ## The loop ends -/

/-- A bound on the passes a reader can still cause: its results, and the bytes each adds to the buffer. -/
def Body.weight : Body → Nat
  | .eof => 1
  | .error _ => 1
  | .pending rest => rest.weight + 1024 + 1
  | .ready chunk rest => rest.weight + chunk.bytes.length + 1

def SseStream.weight (s : SseStream) : Nat :=
  match s.body with
  | none => 0
  | some body => body.weight + s.buffer.length

/-- A complete block leaves the buffer shorter. -/
theorem length_drop_of_find {buffer : List UInt8} {pos : Nat} (h : Delim.find [LF, LF] buffer = some pos) :
    (buffer.drop (pos + 2)).length < buffer.length := by
  have hle := Delim.find_le h
  simp only [List.length_cons, List.length_nil] at hle
  simp only [List.length_drop]
  omega

/-- Every pass, whether it goes round again or returns with the body still there, uses up some of the weight. -/
theorem SseStream.pass_weight (body : Body) (buffer : List UInt8) :
    (∀ body' buffer', pass body buffer = .next body' buffer' →
      body'.weight + buffer'.length < body.weight + buffer.length) ∧
    (∀ p s, pass body buffer = .return p s → s.weight < body.weight + buffer.length) := by
  cases h : Delim.find [LF, LF] buffer with
  | some pos =>
    have hlt := length_drop_of_find h
    rw [pass_of_find_some body h]
    constructor
    · intro body' buffer' hp
      split at hp
      · cases hp
        omega
      · cases hp
    · intro p s hp
      split at hp
      · cases hp
      · cases hp
        simp only [weight]
        omega
  | none =>
    cases body with
    | eof =>
      rw [pass_eof h]
      refine ⟨nofun, fun p s hp => ?_⟩
      cases hp
      simp only [weight, Body.weight]
      omega
    | error e =>
      rw [pass_error e h]
      refine ⟨nofun, fun p s hp => ?_⟩
      cases hp
      simp only [weight, Body.weight]
      omega
    | pending rest =>
      rw [pass_pending rest h]
      refine ⟨nofun, fun p s hp => ?_⟩
      cases hp
      simp only [weight, Body.weight, List.length_append, length_padding]
      omega
    | ready chunk rest =>
      rw [pass_ready chunk rest h]
      refine ⟨fun body' buffer' hp => ?_, nofun⟩
      cases hp
      simp only [Body.weight, List.length_append]
      omega

/-- The loop of `poll_next`. -/
def SseStream.pollLoop (body : Body) (buffer : List UInt8) : Poll (Option Item) × SseStream :=
  match _h : pass body buffer with
  | .next body' buffer' => pollLoop body' buffer'
  | .return p s => (p, s)
termination_by body.weight + buffer.length
decreasing_by exact (pass_weight body buffer).1 _ _ _h

def SseStream.pollNext (s : SseStream) : Poll (Option Item) × SseStream :=
  match s.body with
  | none => (.ready none, s)
  | some body => pollLoop body s.buffer

theorem SseStream.pollLoop_of_next {body body' : Body} {buffer buffer' : List UInt8}
    (h : pass body buffer = .next body' buffer') : pollLoop body buffer = pollLoop body' buffer' := by
  rw [pollLoop]
  split
  · rename_i h'
    rw [h] at h'
    cases h'
    rfl
  · rename_i h'
    rw [h] at h'
    cases h'

theorem SseStream.pollLoop_of_return {body : Body} {buffer : List UInt8} {p : Poll (Option Item)} {s : SseStream}
    (h : pass body buffer = .return p s) : pollLoop body buffer = (p, s) := by
  rw [pollLoop]
  split
  · rename_i h'
    rw [h] at h'
    cases h'
  · rename_i h'
    rw [h] at h'
    cases h'
    rfl

/-- A rule for the loop: what every return of a pass has, and every further pass hands back, a poll has. -/
theorem SseStream.pollLoop_induct (Q : Body → List UInt8 → Poll (Option Item) × SseStream → Prop)
    (hreturn : ∀ body buffer p s, pass body buffer = .return p s → Q body buffer (p, s))
    (hnext : ∀ body buffer body' buffer' r, pass body buffer = .next body' buffer' → Q body' buffer' r →
      Q body buffer r) (body : Body) (buffer : List UInt8) : Q body buffer (pollLoop body buffer) := by
  induction hn : body.weight + buffer.length using Nat.strongRecOn generalizing body buffer with
  | _ n ih =>
    cases h : pass body buffer with
    | next body' buffer' =>
      have hlt := (pass_weight body buffer).1 _ _ h
      rw [pollLoop_of_next h]
      exact hnext _ _ _ _ _ h (ih _ (by omega) _ _ rfl)
    | «return» p s =>
      rw [pollLoop_of_return h]
      exact hreturn _ _ _ _ h

/-- A poll that leaves the body there uses up some of the weight. -/
theorem SseStream.pollNext_weight {s : SseStream} (h : s.pollNext.1 ≠ .ready none) :
    s.pollNext.2.weight < s.weight := by
  cases hb : s.body with
  | none => simp [pollNext, hb] at h
  | some body =>
    have key := pollLoop_induct (fun body buffer r => r.2.weight < body.weight + buffer.length)
      (fun body buffer p s hp => (pass_weight body buffer).2 p s hp)
      (fun body buffer body' buffer' r hp hr => lt_trans hr ((pass_weight body buffer).1 body' buffer' hp))
      body s.buffer
    simpa [pollNext, weight, hb] using key

/-- A consumer that polls until it gets `None`, and polls again after each `Pending`: the items it gets, and the stream it
leaves. -/
def SseStream.drain (s : SseStream) : List Item × SseStream :=
  match _h : s.pollNext with
  | (.pending, s') => s'.drain
  | (.ready none, s') => ([], s')
  | (.ready (some item), s') => (item :: s'.drain.1, s'.drain.2)
termination_by s.weight
decreasing_by
  all_goals
    have := pollNext_weight (s := s) (by rw [_h]; simp)
    rw [_h] at this
    exact this

/-! ## What a reader delivers -/

/-- The bytes a reader delivers. -/
def Body.bytes : Body → List UInt8
  | .eof => []
  | .error _ => []
  | .pending rest => rest.bytes
  | .ready chunk rest => chunk.bytes ++ rest.bytes

/-- The same reader, with every `Pending` removed. -/
def Body.dropPending : Body → Body
  | .eof => .eof
  | .error e => .error e
  | .pending rest => rest.dropPending
  | .ready chunk rest => .ready chunk rest.dropPending

/-- How often a reader gives `Pending`. -/
def Body.pendings : Body → Nat
  | .eof => 0
  | .error _ => 0
  | .pending rest => rest.pendings + 1
  | .ready _ rest => rest.pendings

/-- How a body ends: at the end of the file, or with a read error. -/
inductive Ending where
  | eof
  | error (e : String)
  deriving DecidableEq, Repr

/-- A reader whose reads are all immediately ready. -/
def Body.ofReads : List Chunk → Ending → Body
  | [], .eof => .eof
  | [], .error e => .error e
  | c :: cs, ending => .ready c (Body.ofReads cs ending)

/-- What a pass cuts off the buffer: the first complete block and its `"\n\n"`, or nothing. -/
def cutOff (buffer : List UInt8) : List UInt8 :=
  match Delim.find [LF, LF] buffer with
  | some pos => buffer.take (pos + 2)
  | none => []

/-- The buffers that are searched for `"\n\n"` while a body is read to its end: `Searched body₀ consumed rest buffer` says
that a pass of the loop starts with this buffer, the bytes in `consumed` having been cut off before it, and `rest` left to
read. -/
inductive Searched (body₀ : Body) : List UInt8 → Body → List UInt8 → Prop where
  | start : Searched body₀ [] body₀ []
  | next {consumed : List UInt8} {body body' : Body} {buffer buffer' : List UInt8} :
      Searched body₀ consumed body buffer → SseStream.pass body buffer = .next body' buffer' →
      Searched body₀ (consumed ++ cutOff buffer) body' buffer'
  | poll {consumed : List UInt8} {body body' : Body} {buffer buffer' : List UInt8} {p : Poll (Option Item)} :
      Searched body₀ consumed body buffer →
      SseStream.pass body buffer = .return p { body := some body', buffer := buffer' } →
      Searched body₀ (consumed ++ cutOff buffer) body' buffer'

end ValetudoMatter
