import ValetudoMatter.Lemmas.SsePending

/-!
# The decoder over whole bodies

However a body is cut into reads, the decoder yields its one-shot parse (`drain_ofReads`), as long as the reads are ready: a
`Pending` leaves its 1024 bytes of padding in the buffer, so it is seen by every search after it (`pendingInvisible_iff`), and
the stream yields what it would yield had the robot sent 1024 NUL bytes in its place (`drain_eq_zeros`).
-/

namespace ValetudoMatter

/-! ## Reads that are ready -/

/-- The incremental decoder equals the one-shot parse. For every way of cutting a body into reads, followed by the end of the
file or by a read error, polling until `None` ends, and yields the items of the one-shot parse, then one error if the body
ended in one; every later poll gives `None` and changes nothing. -/
theorem drain_ofReads (reads : List Chunk) (ending : Ending) :
    ∃ s, (SseStream.new (Body.ofReads reads ending)).drain =
        (oneShot (reads.map (·.bytes)).flatten ++ ending.items, s) ∧
      s.pollNext = (.ready none, s) := by
  refine ⟨(SseStream.new (Body.ofReads reads ending)).drain.2, ?_, ?_⟩
  · have h := SseStream.drain_new (Body.ofReads reads ending)
    rw [Body.received_ofReads, Body.ending_ofReads] at h
    rw [← h]
  · exact SseStream.pollNext_of_body_none (SseStream.drain_eq _).2

/-! ## Reads that are pending -/

/-- The `Pending`s of a reader are invisible: the items are those of the reader without them, and at every search the buffer
holds, between what was cut off it and what is still to come, delivered bytes only. -/
def PendingInvisible (body : Body) : Prop :=
  (SseStream.new body).drain.1 = (SseStream.new body.dropPending).drain.1 ∧
    ∀ consumed rest buffer, Searched body consumed rest buffer → consumed ++ buffer ++ rest.bytes = body.bytes

/-- `Pending` is invisible exactly to the readers that never give it. -/
theorem pendingInvisible_iff (body : Body) : PendingInvisible body ↔ body.pendings = 0 := by
  constructor
  · rintro ⟨-, hbytes⟩
    by_contra hp
    obtain ⟨c, b, bf, hs, hlen⟩ := Searched.exists_longer (@Searched.start body) (by omega)
    rw [hbytes c b bf hs] at hlen
    simp at hlen
  · intro hp
    refine ⟨by rw [Body.dropPending_of_pendings_eq_zero hp], ?_⟩
    intro consumed rest buffer hs
    exact (hs.bytes hp).1

/-- The body of one event, `"data: on\n\n"`. -/
def onEvent : Chunk := { bytes := [100, 97, 116, 97, 58, 32, 111, 110, 10, 10], pos := by decide, le := by decide }

/-- A first read that is pending loses the event that the next one delivers: the line it is in begins with the padding. -/
theorem pending_loses_event :
    (SseStream.new (.pending (.ready onEvent .eof))).drain.1 = [] ∧
      (SseStream.new (Body.pending (.ready onEvent .eof)).dropPending).drain.1 = [.ok "on"] := by
  rw [SseStream.drain_new, SseStream.drain_new]
  exact ⟨by decide +kernel, by decide +kernel⟩

/-- The same reader, giving the padding as a read in place of every `Pending`. -/
def Body.zerosForPending : Body → Body
  | .eof => .eof
  | .error e => .error e
  | .pending rest => .ready { bytes := padding, pos := by simp, le := by simp } rest.zerosForPending
  | .ready chunk rest => .ready chunk rest.zerosForPending

/-- What a `Pending` does: the stream yields what it would yield had the robot sent 1024 NUL bytes there. -/
theorem drain_eq_zeros (body : Body) :
    (SseStream.new body).drain.1 = (SseStream.new body.zerosForPending).drain.1 := by
  have h : body.zerosForPending.received = body.received ∧ body.zerosForPending.ending = body.ending := by
    induction body with
    | eof => exact ⟨rfl, rfl⟩
    | error e => exact ⟨rfl, rfl⟩
    | pending rest ih => simp [Body.zerosForPending, Body.received, Body.ending, ih]
    | ready chunk rest ih => simp [Body.zerosForPending, Body.received, Body.ending, ih]
  rw [SseStream.drain_new, SseStream.drain_new, h.1, h.2]

end ValetudoMatter
