import ValetudoMatter.Lemmas.Turns
import ValetudoMatter.Theorems.SseFraming

/-!
# Blocks that a `Pending` separates

A robot that is idle between two blocks makes the reader give `Pending` there. The padding then becomes part of the first line of
the next block, which is read as another line, whatever it was (`SseBlock.padded`); so such a `Pending` costs the payload of that
one line and nothing else (`drain_ofTurns`).
-/

namespace ValetudoMatter

/-! ## Readers that give `Pending` between their turns -/

/-- A reader that gives these reads, and goes on as another. -/
def Body.reading (reads : List Chunk) (rest : Body) : Body := reads.foldr Body.ready rest

/-- A reader that gives the reads of each turn, with a `Pending` between two turns. -/
def Body.ofTurns (first : List Chunk) : List (List Chunk) → Ending → Body
  | [], ending => .ofReads first ending
  | reads :: turns, ending => .reading first (.pending (.ofTurns reads turns ending))

theorem Body.received_reading (reads : List Chunk) (rest : Body) :
    (Body.reading reads rest).received = (reads.map (·.bytes)).flatten ++ rest.received := by
  induction reads with
  | nil => rfl
  | cons chunk reads ih =>
    simp only [reading, List.foldr_cons, Body.received, List.map_cons, List.flatten_cons, List.append_assoc] at ih ⊢
    rw [ih]

theorem Body.ending_reading (reads : List Chunk) (rest : Body) : (Body.reading reads rest).ending = rest.ending := by
  induction reads with
  | nil => rfl
  | cons chunk reads ih => exact ih

/-- What such a reader puts into the buffer. -/
theorem Body.received_ofTurns (first : List Chunk) (turns : List (List Chunk)) (ending : Ending) :
    (Body.ofTurns first turns ending).received =
      (first.map (·.bytes)).flatten ++ turns.flatMap fun reads => padding ++ (reads.map (·.bytes)).flatten := by
  induction turns generalizing first with
  | nil => simp [ofTurns, received_ofReads]
  | cons reads turns ih => simp [ofTurns, received_reading, Body.received, ih]

theorem Body.ending_ofTurns (first : List Chunk) (turns : List (List Chunk)) (ending : Ending) :
    (Body.ofTurns first turns ending).ending = ending := by
  induction turns generalizing first with
  | nil => exact ending_ofReads first ending
  | cons reads turns ih => rw [ofTurns, ending_reading, Body.ending, ih]

/-! ## Padding before a block -/

/-- A string of NULs. -/
def nuls (n : Nat) : String := String.ofList (List.replicate n '\x00')

theorem bytes_nuls (n : Nat) : Utf8.bytes (nuls n) = List.replicate n 0 := by
  rw [Utf8.bytes_eq, nuls, String.toList_ofList]
  induction n with
  | zero => rfl
  | succ n ih =>
    rw [List.replicate_succ, List.flatMap_cons, ih, List.replicate_succ]
    rfl

theorem SseLine.lf_not_mem_text (l : SseLine) : '\n' ∉ l.text.toList := by
  cases l with
  | payload t =>
    have := t.noLf
    simp [SseLine.text, this]
  | other l => exact l.noLf

/-- A line with padding before it, which is no payload line. -/
def SseLine.padded (n : Nat) (l : SseLine) : SseLine :=
  .other {
    text := nuls (n + 1) ++ l.text
    ne := by
      intro h
      have := congrArg String.toList h
      simp [nuls, List.replicate_succ] at this
    noLf := by
      have := l.lf_not_mem_text
      simp [nuls, this]
    notData := by simp [nuls, List.replicate_succ] }

/-- A block with padding before it. -/
def SseBlock.padded (n : Nat) (b : SseBlock) : SseBlock where
  lines := (b.lines.head b.ne).padded n :: b.lines.tail
  ne := List.cons_ne_nil _ _

/-- Padding and a block are the padded block. -/
theorem SseBlock.encode_padded (n : Nat) (b : SseBlock) : (b.padded n).encode = List.replicate (n + 1) 0 ++ b.encode := by
  obtain ⟨lines, hne⟩ := b
  obtain ⟨l, ls, rfl⟩ := List.exists_cons_of_ne_nil hne
  have hline : (l.padded n).bytes = List.replicate (n + 1) 0 ++ l.bytes := by
    rw [SseLine.bytes, SseLine.padded, SseLine.text, Utf8.bytes_append, bytes_nuls]
    rfl
  rw [SseBlock.encode, SseBlock.encode, SseBlock.bytes_eq, SseBlock.bytes_eq]
  cases ls with
  | nil => simp [SseBlock.padded, hline]
  | cons l' ls => simp [SseBlock.padded, hline]

/-- The payload lines of a block that come after its first line, joined by LF, if there are any. -/
def SseBlock.eventAfterFirst (b : SseBlock) : Option String :=
  let payload := "\n".intercalate (b.lines.tail.filterMap SseLine.payload?)
  if payload = "" then none else some payload

/-- The event of a padded block. -/
theorem SseBlock.event_padded (n : Nat) (b : SseBlock) : (b.padded n).event = b.eventAfterFirst := rfl

/-! ## Parsing what comes after a `Pending` -/

/-- The events of framed blocks come before those of what follows them. -/
theorem oneShot_encode_append (blocks : List SseBlock) (more : List UInt8) :
    oneShot ((blocks.map SseBlock.encode).flatten ++ more) = (blocks.filterMap SseBlock.event).map .ok ++ oneShot more := by
  have hcut := Delim.cut_frame lflf_ne_nil (blocks.map SseBlock.bytes) (by
    intro bs hbs
    obtain ⟨b, -, rfl⟩ := List.mem_map.mp hbs
    exact b.find_bytes)
  have hframe : blocks.map SseBlock.encode = (blocks.map SseBlock.bytes).map (· ++ [LF, LF]) := by
    rw [List.map_map]
    rfl
  have hunread : unread (blocks.map SseBlock.encode).flatten = [] := by rw [unread, hframe, hcut]
  rw [oneShot_append, hunread, oneShot_encode, List.nil_append]

/-- The events of the blocks that follow a `Pending`. -/
def eventsAfterPending : List SseBlock → List String
  | [] => []
  | b :: blocks => b.eventAfterFirst.toList ++ blocks.filterMap SseBlock.event

/-- A `Pending` costs nothing where the next block does not begin with a payload line. -/
theorem eventsAfterPending_eq {blocks : List SseBlock}
    (h : ∀ b ∈ blocks.head?, (b.lines.head b.ne).payload? = none) :
    eventsAfterPending blocks = blocks.filterMap SseBlock.event := by
  cases blocks with
  | nil => rfl
  | cons b blocks =>
    have hpayload := h b rfl
    obtain ⟨lines, hne⟩ := b
    obtain ⟨l, ls, rfl⟩ := List.exists_cons_of_ne_nil hne
    have hevent : SseBlock.eventAfterFirst ⟨l :: ls, hne⟩ = SseBlock.event ⟨l :: ls, hne⟩ := by
      have hlines : (l :: ls).filterMap SseLine.payload? = ls.filterMap SseLine.payload? := List.filterMap_cons_none hpayload
      rw [SseBlock.event, SseBlock.payload, hlines]
      rfl
    rw [eventsAfterPending, List.filterMap_cons, hevent]
    cases SseBlock.event ⟨l :: ls, hne⟩ <;> rfl

/-- Over many turns it costs nothing where none of them begins with a payload line. -/
theorem flatMap_eventsAfterPending {turns : List (List SseBlock)}
    (h : ∀ blocks ∈ turns, ∀ b ∈ blocks.head?, (b.lines.head b.ne).payload? = none) :
    turns.flatMap eventsAfterPending = turns.flatten.filterMap SseBlock.event := by
  rw [List.filterMap_flatten, List.flatMap_def]
  exact congrArg List.flatten (List.map_congr_left fun blocks hblocks => eventsAfterPending_eq (h blocks hblocks))

theorem oneShot_replicate (n : Nat) : oneShot (List.replicate n 0) = [] := by
  apply oneShot_of_find_none
  induction n with
  | zero => rfl
  | succ n ih =>
    rw [List.replicate_succ, Delim.find, ih, if_neg (by simp [LF])]
    rfl

/-- Turns that are each preceded by padding, after padding that has not been read. -/
theorem oneShot_turns (turns : List (List SseBlock)) (n : Nat) :
    oneShot (List.replicate n 0 ++ turns.flatMap fun blocks => padding ++ (blocks.map SseBlock.encode).flatten) =
      (turns.flatMap eventsAfterPending).map .ok := by
  induction turns generalizing n with
  | nil => simp [oneShot_replicate]
  | cons blocks turns ih =>
    cases blocks with
    | nil =>
      -- a turn without a block leaves its padding to the next
      have hmerge := ih (n + 1024)
      rw [List.replicate_add, ← padding, List.append_assoc] at hmerge
      rw [List.flatMap_cons, List.map_nil, List.flatten_nil, List.append_nil, hmerge, List.flatMap_cons]
      rfl
    | cons b blocks =>
      have hpadded : List.replicate n 0 ++ (padding ++ b.encode) = (b.padded (n + 1023)).encode := by
        rw [SseBlock.encode_padded, show n + 1023 + 1 = n + 1024 from rfl, List.replicate_add, List.append_assoc, padding]
      have hrest := ih 0
      rw [List.replicate_zero, List.nil_append] at hrest
      have hparse := oneShot_encode_append (b.padded (n + 1023) :: blocks)
        (turns.flatMap fun blocks => padding ++ (blocks.map SseBlock.encode).flatten)
      rw [hrest, List.map_cons, List.flatten_cons, ← hpadded, List.filterMap_cons, SseBlock.event_padded] at hparse
      rw [List.flatMap_cons, List.flatMap_cons, List.map_cons, List.flatten_cons, List.map_append, eventsAfterPending]
      simp only [List.append_assoc] at hparse ⊢
      rw [hparse]
      cases b.eventAfterFirst <;> simp

/-- What a `Pending` between two blocks costs. Take any turns of blocks, cut into ready reads in any way, with a `Pending` before
each turn but the first, and then the end of the body. The stream yields the event of every block, once each and in order, except
that of the first block after one or more `Pending`s it yields the payload lines after the first line only. So it yields all
events where none of these blocks begins with a payload line. -/
theorem drain_ofTurns (first : List SseBlock) (turns : List (List SseBlock)) (reads : List Chunk)
    (readss : List (List Chunk)) (ending : Ending)
    (hfirst : (reads.map (·.bytes)).flatten = (first.map SseBlock.encode).flatten)
    (hturns : readss.map (fun reads => (reads.map (·.bytes)).flatten) =
      turns.map fun blocks => (blocks.map SseBlock.encode).flatten) :
    (SseStream.new (Body.ofTurns reads readss ending)).drain.1 =
        (first.filterMap SseBlock.event ++ turns.flatMap eventsAfterPending).map .ok ++ ending.items ∧
      ((∀ blocks ∈ turns, ∀ b ∈ blocks.head?, (b.lines.head b.ne).payload? = none) →
        (SseStream.new (Body.ofTurns reads readss ending)).drain.1 =
          ((first ++ turns.flatten).filterMap SseBlock.event).map .ok ++ ending.items) := by
  have hreadss : (readss.flatMap fun reads => padding ++ (reads.map (·.bytes)).flatten) =
      turns.flatMap fun blocks => padding ++ (blocks.map SseBlock.encode).flatten := by
    rw [List.flatMap_def, List.flatMap_def]
    have hpadded := congrArg (List.map (padding ++ ·)) hturns
    rw [List.map_map, List.map_map] at hpadded
    exact congrArg List.flatten hpadded
  have hrest := oneShot_turns turns 0
  rw [List.replicate_zero, List.nil_append] at hrest
  have hdrain : (SseStream.new (Body.ofTurns reads readss ending)).drain.1 =
      (first.filterMap SseBlock.event ++ turns.flatMap eventsAfterPending).map .ok ++ ending.items := by
    rw [SseStream.drain_new, Body.received_ofTurns, Body.ending_ofTurns, hfirst, hreadss, oneShot_encode_append, hrest,
      List.map_append]
  refine ⟨hdrain, ?_⟩
  intro hheads
  rw [hdrain, flatMap_eventsAfterPending hheads, List.filterMap_append]

/-- An event whose payload has two lines. -/
def bareEvent : SseBlock where
  lines := [.payload { text := "p", noLf := by decide, noCr := by decide },
    .payload { text := "q", noLf := by decide, noCr := by decide }]
  ne := List.cons_ne_nil _ _

/-- The same event with a name. -/
def namedEvent : SseBlock where
  lines := .other { text := "event: x", ne := by decide, noLf := by decide, notData := by decide } :: bareEvent.lines
  ne := List.cons_ne_nil _ _

/-- The same on the wire. -/
def bareEventChunk : Chunk where
  bytes := [100, 97, 116, 97, 58, 32, 112, 10, 100, 97, 116, 97, 58, 32, 113, 10, 10]
  pos := by decide
  le := by decide

def namedEventChunk : Chunk where
  bytes := [101, 118, 101, 110, 116, 58, 32, 120, 10, 100, 97, 116, 97, 58, 32, 112, 10, 100, 97, 116, 97, 58, 32, 113, 10, 10]
  pos := by decide
  le := by decide

/-- After two `Pending`s an event with a name comes through, and one without loses its first line. -/
theorem drain_ofTurns_named :
    (SseStream.new (Body.ofTurns [bareEventChunk] [[], [namedEventChunk], [bareEventChunk]] .eof)).drain.1 =
      [.ok "p\nq", .ok "p\nq", .ok "q"] :=
  (drain_ofTurns [bareEvent] [[], [namedEvent], [bareEvent]] _ _ _ (by decide +kernel) (by decide +kernel)).1.trans
    (by decide +kernel)

end ValetudoMatter
