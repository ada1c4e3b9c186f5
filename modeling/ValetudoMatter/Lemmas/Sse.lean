import ValetudoMatter.Http.OneShot

/-!
# The incremental decoder computes the one-shot parse

`SseStream.rest` is what a stream in any state still yields: the one-shot parse of its buffer followed by what its reader puts
there, and the error the reader may end in. Every pass of the loop keeps it (`pass_next_rest`, `pass_return_rest`), so every
poll takes its item off the front of it (`pollNext_rest`), and polling until `None` gives all of it (`drain_eq`). A reader puts
more into the buffer than it delivers: each `Pending` puts `padding` there (`Body.received`).
-/

namespace ValetudoMatter

/-! ## A block, line by line -/

/-- What the LFs of a byte string separate, and its lines with their terminators: the same pieces, each but the last with its
LF, and the last one only if it is not empty. -/
theorem linesWithTerminator_eq (bs : List UInt8) :
    ∃ init last, bs.splitOn LF = init ++ [last] ∧ LF ∉ last ∧
      linesWithTerminator bs = init.map (· ++ [LF]) ++ (if last = [] then [] else [last]) := by
  induction bs with
  | nil => exact ⟨[], [], by simp [linesWithTerminator]⟩
  | cons b bs ih =>
    obtain ⟨init, last, hsplit, hlast, hlines⟩ := ih
    by_cases hb : b = LF
    · subst hb
      refine ⟨[] :: init, last, ?_, hlast, ?_⟩
      · rw [List.splitOn_cons_eq_if_modifyHead, hsplit]
        simp
      · simp [linesWithTerminator, hlines]
    · have hsplit' : (b :: bs).splitOn LF = (init ++ [last]).modifyHead (b :: ·) := by
        rw [List.splitOn_cons_eq_if_modifyHead, hsplit]
        simp [hb]
      cases init with
      | nil =>
        refine ⟨[], b :: last, by simpa using hsplit', by simp [hlast, Ne.symm hb], ?_⟩
        by_cases hl : last = []
        · simp [linesWithTerminator, hb, hlines, hl]
        · simp [linesWithTerminator, hb, hlines, hl]
      | cons i init =>
        refine ⟨(b :: i) :: init, last, by simpa using hsplit', hlast, ?_⟩
        simp [linesWithTerminator, hb, hlines]

/-- Trimming the terminator of a line that has one. -/
theorem trimLastTerminator_append (l : List UInt8) : trimLastTerminator (l ++ [LF]) = dropCr l := by
  simp [trimLastTerminator, dropCr]

/-- A line without an LF has no terminator to trim. -/
theorem trimLastTerminator_of_not_mem {l : List UInt8} (h : LF ∉ l) : trimLastTerminator l = l := by
  have hl : l.getLast? ≠ some LF := fun h' => h (List.mem_of_getLast? h')
  simp [trimLastTerminator, hl]

/-- An empty line is no payload line. -/
theorem filter_dataPrefix_nil : [[]].filter (fun l : List UInt8 => dataPrefix <+: l) = [] := by decide

/-- Stripping the prefix off the lines that have it is keeping these and dropping it. -/
theorem filterMap_stripData (ls : List (List UInt8)) :
    ls.filterMap stripData = (ls.filter (fun l => dataPrefix <+: l)).map (·.drop dataPrefix.length) := by
  induction ls with
  | nil => rfl
  | cons l ls ih =>
    by_cases h : dataPrefix <+: l
    · simp [stripData, h, ih]
    · simp [stripData, h, ih]

/-- The data the decoder takes from a block is the block's payload. -/
theorem blockData_eq (block : List UInt8) : blockData block = blockPayload block := by
  obtain ⟨init, last, hsplit, hlast, hlines⟩ := linesWithTerminator_eq block
  have htrim : init.map (trimLastTerminator ∘ fun l => l ++ [LF]) = init.map dropCr :=
    List.map_congr_left fun l _ => trimLastTerminator_append l
  simp only [blockData, blockPayload, blockLines, lines, filterMap_stripData, hlines, hsplit, List.dropLast_concat,
    List.getLast?_concat, Option.toList_some, List.map_append, List.map_map, htrim]
  by_cases hl : last = []
  · simp [hl, filter_dataPrefix_nil]
  · simp [hl, trimLastTerminator_of_not_mem hlast]

/-- What a complete block makes the decoder yield is what the block means. -/
theorem blockItem_eq (block : List UInt8) :
    blockItem block = if (blockData block).isEmpty then none else some (fromUtf8 (blockData block)) := by
  rw [blockData_eq, blockItem, fromUtf8]
  split
  · rename_i hempty
    simp [hempty]
  · rename_i hpayload
    rw [if_neg (by simpa using hpayload)]
    cases String.fromUTF8? ⟨(blockPayload block).toArray⟩ <;> rfl

/-! ## Cutting the buffer -/

theorem lflf_ne_nil : [LF, LF] ≠ [] := by simp

/-- The first complete block of a body is yielded first. -/
theorem oneShot_of_find {buffer : List UInt8} {pos : Nat} (m : List UInt8) (h : Delim.find [LF, LF] buffer = some pos) :
    oneShot (buffer ++ m) = (blockItem (buffer.take pos)).toList ++ oneShot (buffer.drop (pos + 2) ++ m) := by
  have hle := Delim.find_le h
  simp only [List.length_cons, List.length_nil] at hle
  have hcut := Delim.cut_of_find_some lflf_ne_nil (Delim.find_append_of_some m h)
  rw [oneShot, hcut, List.take_append_of_le_length (by omega), List.length_cons, List.length_cons, List.length_nil,
    List.drop_append_of_le_length (by omega), List.filterMap_cons, oneShot]
  cases blockItem (buffer.take pos) <;> simp

/-- Without a complete block a body yields nothing. -/
theorem oneShot_of_find_none {buffer : List UInt8} (h : Delim.find [LF, LF] buffer = none) : oneShot buffer = [] := by
  simp [oneShot, Delim.cut_of_find_none h]

/-! ## What a stream still yields -/

/-- What a reader puts into the buffer: what it delivers, and the padding each `Pending` leaves there. -/
def Body.received : Body → List UInt8
  | .eof => []
  | .error _ => []
  | .pending rest => padding ++ rest.received
  | .ready chunk rest => chunk.bytes ++ rest.received

/-- How a reader ends. -/
def Body.ending : Body → Ending
  | .eof => .eof
  | .error e => .error e
  | .pending rest => rest.ending
  | .ready _ rest => rest.ending

/-- What a stream still yields. -/
def SseStream.rest (s : SseStream) : List Item :=
  match s.body with
  | none => []
  | some body => oneShot (s.buffer ++ body.received) ++ body.ending.items

/-- A pass that goes round again keeps what the stream still yields. -/
theorem SseStream.pass_next_rest {body body' : Body} {buffer buffer' : List UInt8}
    (h : pass body buffer = .next body' buffer') :
    oneShot (buffer' ++ body'.received) ++ body'.ending.items =
      oneShot (buffer ++ body.received) ++ body.ending.items := by
  cases hf : Delim.find [LF, LF] buffer with
  | some pos =>
    rw [pass_of_find_some body hf] at h
    split at h
    · rename_i hempty
      cases h
      rw [oneShot_of_find _ hf, blockItem_eq, if_pos hempty]
      simp
    · cases h
  | none =>
    cases body with
    | eof => rw [pass_eof hf] at h; cases h
    | error e => rw [pass_error e hf] at h; cases h
    | pending rest => rw [pass_pending rest hf] at h; cases h
    | ready chunk rest =>
      rw [pass_ready chunk rest hf] at h
      cases h
      simp [Body.received, Body.ending]

/-- How a poll takes its result off what the stream still yields. -/
def SseStream.Takes (yields : List Item) (r : Poll (Option Item) × SseStream) : Prop :=
  match r with
  | (.pending, s) => yields = s.rest
  | (.ready none, s) => yields = [] ∧ s.body = none
  | (.ready (some item), s) => yields = item :: s.rest

/-- A pass that returns takes its result off the front of what the stream still yields. -/
theorem SseStream.pass_return_rest {body : Body} {buffer : List UInt8} {p : Poll (Option Item)} {s : SseStream}
    (h : pass body buffer = .return p s) :
    Takes (oneShot (buffer ++ body.received) ++ body.ending.items) (p, s) := by
  cases hf : Delim.find [LF, LF] buffer with
  | some pos =>
    rw [pass_of_find_some body hf] at h
    split at h
    · cases h
    · rename_i hempty
      cases h
      simp only [Takes, rest]
      rw [oneShot_of_find _ hf, blockItem_eq, if_neg hempty]
      simp
  | none =>
    have hnil := oneShot_of_find_none hf
    cases body with
    | eof =>
      rw [pass_eof hf] at h
      cases h
      simp [Takes, Body.received, Body.ending, Ending.items, hnil]
    | error e =>
      rw [pass_error e hf] at h
      cases h
      simp [Takes, rest, Body.received, Body.ending, Ending.items, hnil]
    | pending rest =>
      rw [pass_pending rest hf] at h
      cases h
      simp [Takes, SseStream.rest, Body.received, Body.ending]
    | ready chunk rest => rw [pass_ready chunk rest hf] at h; cases h

/-- A poll takes its result off the front of what the stream still yields. -/
theorem SseStream.pollNext_rest (s : SseStream) : Takes s.rest s.pollNext := by
  cases hb : s.body with
  | none => simp [pollNext, rest, Takes, hb]
  | some body =>
    have key := pollLoop_induct
      (fun body buffer r => Takes (oneShot (buffer ++ body.received) ++ body.ending.items) r)
      (fun body buffer p s h => pass_return_rest h)
      (fun body buffer body' buffer' r h hr => by rw [← pass_next_rest h]; exact hr)
      body s.buffer
    simpa [pollNext, rest, hb] using key

/-- Polling until `None` gives everything the stream still yields, and leaves a stream whose body is gone. -/
theorem SseStream.drain_eq (s : SseStream) : s.drain.1 = s.rest ∧ s.drain.2.body = none := by
  induction hn : s.weight using Nat.strongRecOn generalizing s with
  | _ n ih =>
    have htakes := pollNext_rest s
    rw [drain]
    split
    · rename_i s' h
      have hlt := pollNext_weight (s := s) (by rw [h]; simp)
      rw [h] at htakes hlt
      obtain ⟨h1, h2⟩ := ih s'.weight (by rw [← hn]; exact hlt) s' rfl
      exact ⟨h1.trans (Eq.symm htakes), h2⟩
    · rename_i s' h
      rw [h] at htakes
      exact ⟨htakes.1.symm, htakes.2⟩
    · rename_i item s' h
      have hlt := pollNext_weight (s := s) (by rw [h]; simp)
      rw [h] at htakes hlt
      obtain ⟨h1, h2⟩ := ih s'.weight (by rw [← hn]; exact hlt) s' rfl
      refine ⟨?_, h2⟩
      rw [h1]
      exact Eq.symm htakes

/-- A stream whose body is gone yields `None`, and stays as it is. -/
theorem SseStream.pollNext_of_body_none {s : SseStream} (h : s.body = none) : s.pollNext = (.ready none, s) := by
  simp [pollNext, h]

/-- What a new stream yields: the one-shot parse of what its reader puts into the buffer, and the error it may end in. -/
theorem SseStream.drain_new (body : Body) :
    (SseStream.new body).drain.1 = oneShot body.received ++ body.ending.items := by
  rw [(drain_eq _).1]
  simp [new, rest]

/-! ## Readers without a `Pending` -/

theorem Body.received_ofReads (reads : List Chunk) (ending : Ending) :
    (Body.ofReads reads ending).received = (reads.map (·.bytes)).flatten := by
  induction reads with
  | nil => cases ending <;> rfl
  | cons c cs ih => simp [Body.ofReads, Body.received, ih]

theorem Body.ending_ofReads (reads : List Chunk) (ending : Ending) : (Body.ofReads reads ending).ending = ending := by
  induction reads with
  | nil => cases ending <;> rfl
  | cons c cs ih => simp [Body.ofReads, Body.ending, ih]

/-- A reader without a `Pending` is what is left of it when each `Pending` is removed. -/
theorem Body.dropPending_of_pendings_eq_zero {body : Body} (h : body.pendings = 0) : body.dropPending = body := by
  induction body with
  | eof => rfl
  | error e => rfl
  | pending rest => simp [Body.pendings] at h
  | ready chunk rest ih => rw [Body.dropPending, ih (by simpa [Body.pendings] using h)]

end ValetudoMatter
