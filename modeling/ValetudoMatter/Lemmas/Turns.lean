import ValetudoMatter.Lemmas.Sse

/-!
# What a stream yields between two `Pending`s

A consumer that polls until it must wait gets the one-shot parse of all that has been put into the buffer so far: nothing that
is complete is held back until the next `Pending` (`pollNext_turn`). What is left in the buffer then are the bytes after the last
blank line, and the padding. Over many turns the parses add up to that of everything put there (`oneShot_append`).
-/

namespace ValetudoMatter

/-! ## Parsing in parts -/

/-- The bytes after the last complete block. -/
def unread (body : List UInt8) : List UInt8 := (Delim.cut [LF, LF] body).2

/-- The parse goes on with the bytes after the last complete block. -/
theorem oneShot_append (body more : List UInt8) : oneShot (body ++ more) = oneShot body ++ oneShot (unread body ++ more) := by
  rw [oneShot, Delim.cut_append lflf_ne_nil, List.filterMap_append]
  rfl

theorem unread_append (body more : List UInt8) : unread (body ++ more) = unread (unread body ++ more) := by
  rw [unread, Delim.cut_append lflf_ne_nil]
  rfl

/-- Without a complete block nothing has been read. -/
theorem unread_of_find_none {buffer : List UInt8} (h : Delim.find [LF, LF] buffer = none) : unread buffer = buffer := by
  rw [unread, Delim.cut_of_find_none h]

/-- What a complete block takes up has been read. -/
theorem unread_of_find {buffer : List UInt8} {pos : Nat} (m : List UInt8) (h : Delim.find [LF, LF] buffer = some pos) :
    unread (buffer ++ m) = unread (buffer.drop (pos + 2) ++ m) := by
  have hle := Delim.find_le h
  simp only [List.length_cons, List.length_nil] at hle
  rw [unread, Delim.cut_of_find_some lflf_ne_nil (Delim.find_append_of_some m h), List.length_cons, List.length_cons,
    List.length_nil, List.drop_append_of_le_length (by omega)]
  rfl

/-! ## A turn -/

/-- What a reader delivers before its first `Pending`. -/
def Body.beforePending : Body → List UInt8
  | .eof => []
  | .error _ => []
  | .pending _ => []
  | .ready chunk rest => chunk.bytes ++ rest.beforePending

/-- The reader after its first `Pending`, if it gives one. -/
def Body.afterPending : Body → Option Body
  | .eof => none
  | .error _ => none
  | .pending rest => some rest
  | .ready _ rest => rest.afterPending

namespace SseStream

/-- What a stream with this reader and this buffer yields before it must wait or is over, and what it then is if it must wait. -/
def turnOf (body : Body) (buffer : List UInt8) : List Item × Option SseStream :=
  match body.afterPending with
  | none => (oneShot (buffer ++ body.beforePending) ++ body.ending.items, none)
  | some rest =>
    (oneShot (buffer ++ body.beforePending),
      some { body := some rest, buffer := unread (buffer ++ body.beforePending) ++ padding })

/-- What a stream yields before it must wait or is over. -/
def turn (s : SseStream) : List Item × Option SseStream :=
  match s.body with
  | none => ([], none)
  | some body => turnOf body s.buffer

/-- Where a block is complete, its item comes first. -/
theorem turnOf_of_find {buffer : List UInt8} {pos : Nat} (body : Body) (h : Delim.find [LF, LF] buffer = some pos) :
    turnOf body buffer =
      ((blockItem (buffer.take pos)).toList ++ (turnOf body (buffer.drop (pos + 2))).1,
        (turnOf body (buffer.drop (pos + 2))).2) := by
  unfold turnOf
  cases body.afterPending with
  | none => simp [oneShot_of_find _ h]
  | some rest => simp [oneShot_of_find _ h, unread_of_find _ h]

/-- A pass that goes round again keeps what the stream yields in this turn. -/
theorem pass_next_turn {body body' : Body} {buffer buffer' : List UInt8} (h : pass body buffer = .next body' buffer') :
    turnOf body' buffer' = turnOf body buffer := by
  cases hf : Delim.find [LF, LF] buffer with
  | some pos =>
    rw [pass_of_find_some body hf] at h
    split at h
    · rename_i hempty
      cases h
      rw [turnOf_of_find _ hf, blockItem_eq, if_pos hempty]
      rfl
    · cases h
  | none =>
    cases body with
    | eof => rw [pass_eof hf] at h; cases h
    | error e => rw [pass_error e hf] at h; cases h
    | pending rest => rw [pass_pending rest hf] at h; cases h
    | ready chunk rest =>
      rw [pass_ready chunk rest hf] at h
      cases h
      simp [turnOf, Body.beforePending, Body.afterPending, Body.ending]

/-- How a poll takes its result off what the stream yields in this turn. -/
def TakesTurn (yields : List Item × Option SseStream) (r : Poll (Option Item) × SseStream) : Prop :=
  match r with
  | (.pending, s) => yields = ([], some s)
  | (.ready none, _) => yields = ([], none)
  | (.ready (some item), s) => yields = (item :: s.turn.1, s.turn.2)

/-- A pass that returns takes its result off the front. -/
theorem pass_return_turn {body : Body} {buffer : List UInt8} {p : Poll (Option Item)} {s : SseStream}
    (h : pass body buffer = .return p s) : TakesTurn (turnOf body buffer) (p, s) := by
  cases hf : Delim.find [LF, LF] buffer with
  | some pos =>
    rw [pass_of_find_some body hf] at h
    split at h
    · cases h
    · rename_i hempty
      cases h
      rw [turnOf_of_find _ hf, blockItem_eq, if_neg hempty]
      rfl
  | none =>
    have hnil := oneShot_of_find_none hf
    cases body with
    | eof =>
      rw [pass_eof hf] at h
      cases h
      simp [TakesTurn, turnOf, Body.beforePending, Body.afterPending, Body.ending, Ending.items, hnil]
    | error e =>
      rw [pass_error e hf] at h
      cases h
      simp [TakesTurn, turn, turnOf, Body.beforePending, Body.afterPending, Body.ending, Ending.items, hnil]
    | pending rest =>
      rw [pass_pending rest hf] at h
      cases h
      simp [TakesTurn, turnOf, Body.beforePending, Body.afterPending, hnil, unread_of_find_none hf]
    | ready chunk rest => rw [pass_ready chunk rest hf] at h; cases h

/-- A poll takes its result off the front of what the stream yields in this turn. -/
theorem pollNext_turn (s : SseStream) : TakesTurn s.turn s.pollNext := by
  cases hb : s.body with
  | none => simp [pollNext, turn, TakesTurn, hb]
  | some body =>
    have key := pollLoop_induct (fun body buffer r => TakesTurn (turnOf body buffer) r)
      (fun body buffer p s h => pass_return_turn h)
      (fun body buffer body' buffer' r h hr => by rw [← pass_next_turn h]; exact hr)
      body s.buffer
    simpa [pollNext, turn, hb] using key

end SseStream

/-! ## Many turns -/

namespace Body

/-- The reader after the `Pending` that ends the `k`-th turn, if it does. -/
def afterTurn (body : Body) : Nat → Option Body
  | 0 => body.afterPending
  | k + 1 => (body.afterTurn k).bind Body.afterPending

/-- What the reader has put into the buffer by the end of the `k`-th turn: what it has delivered, and the padding of each
`Pending` between two turns. -/
def putBy (body : Body) : Nat → List UInt8
  | 0 => body.beforePending
  | k + 1 => body.putBy k ++ (body.afterTurn k).elim [] fun rest => padding ++ rest.beforePending

/-- The stream as it waits at the end of the `k`-th turn, if it does. -/
def waiting (body : Body) (k : Nat) : Option SseStream :=
  (body.afterTurn k).map fun rest => { body := some rest, buffer := unread (body.putBy k) ++ padding }

/-- What a new stream has yielded by the end of the `k`-th turn: the parse of what has been put into the buffer, and the error
that the reader may have ended in. -/
def itemsBy (body : Body) (k : Nat) : List Item :=
  oneShot (body.putBy k) ++ if (body.afterTurn k).isSome then [] else body.ending.items

theorem ending_afterPending {body rest : Body} (h : body.afterPending = some rest) : rest.ending = body.ending := by
  induction body with
  | eof => cases h
  | error e => cases h
  | pending body =>
    cases h
    rfl
  | ready chunk body ih => exact ih h

theorem ending_afterTurn {body rest : Body} {k : Nat} (h : body.afterTurn k = some rest) : rest.ending = body.ending := by
  induction k generalizing rest with
  | zero => exact ending_afterPending h
  | succ k ih =>
    obtain ⟨mid, hmid, hrest⟩ := Option.bind_eq_some_iff.mp h
    rw [ending_afterPending hrest, ih hmid]

/-- The first turn of a new stream. -/
theorem turn_new (body : Body) : (SseStream.new body).turn = (body.itemsBy 0, body.waiting 0) := by
  cases h : body.afterPending with
  | none => simp [SseStream.new, SseStream.turn, SseStream.turnOf, itemsBy, waiting, afterTurn, putBy, h]
  | some rest => simp [SseStream.new, SseStream.turn, SseStream.turnOf, itemsBy, waiting, afterTurn, putBy, h]

/-- Each further turn goes on where the one before it has stopped. -/
theorem turn_waiting {body : Body} {k : Nat} {s : SseStream} (h : body.waiting k = some s) :
    s.turn.2 = body.waiting (k + 1) ∧ body.itemsBy (k + 1) = body.itemsBy k ++ s.turn.1 := by
  obtain ⟨rest, hrest, rfl⟩ := Option.map_eq_some_iff.mp h
  have hmore : oneShot (body.putBy (k + 1)) =
      oneShot (body.putBy k) ++ oneShot (unread (body.putBy k) ++ padding ++ rest.beforePending) := by
    rw [putBy, oneShot_append, hrest, Option.elim_some, List.append_assoc]
  have hunread : unread (body.putBy (k + 1)) = unread (unread (body.putBy k) ++ padding ++ rest.beforePending) := by
    rw [putBy, unread_append, hrest, Option.elim_some, List.append_assoc]
  cases h : rest.afterPending with
  | none => simp [SseStream.turn, SseStream.turnOf, itemsBy, waiting, afterTurn, hmore, hrest, ending_afterTurn hrest, h]
  | some rest' => simp [SseStream.turn, SseStream.turnOf, itemsBy, waiting, afterTurn, hmore, hunread, hrest, h]

end Body

end ValetudoMatter
