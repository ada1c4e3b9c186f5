import ValetudoMatter.Http.Framing
import ValetudoMatter.Theorems.Sse

/-!
# Decoding undoes framing

A block never has a delimiter inside it (`SseBlock.find_bytes`), so cutting a body gives back the blocks it was written from;
and the decoder reads a line as the payload line it was written as, wherever it stands in its block, or as none
(`SseLine.stripData_bytes`). With the one-shot parse this gives the round trip (`drain_encode`).
-/

namespace ValetudoMatter

theorem bytes_lf : Utf8.bytes "\n" = [LF] := by decide

theorem bytes_dataPrefix : Utf8.bytes "data: " = dataPrefix := by decide

/-! ## A line on the wire -/

/-- A line on the wire. -/
def SseLine.bytes (l : SseLine) : List UInt8 := Utf8.bytes l.text

/-- A string without an LF has none on the wire. -/
theorem lf_not_mem_bytes {s : String} (h : '\n' ∉ s.toList) : LF ∉ Utf8.bytes s :=
  fun hmem => h ((Utf8.mem_bytes_iff (a := '\n') (by decide) s).mp hmem)

/-- A string without a CR has none on the wire. -/
theorem cr_not_mem_bytes {s : String} (h : '\r' ∉ s.toList) : CR ∉ Utf8.bytes s :=
  fun hmem => h ((Utf8.mem_bytes_iff (a := '\r') (by decide) s).mp hmem)

/-- A line begins with the prefix on the wire exactly when its text does. -/
theorem dataPrefix_prefix_iff (s : String) : dataPrefix <+: Utf8.bytes s ↔ "data: ".toList <+: s.toList := by
  rw [← bytes_dataPrefix]
  exact Utf8.prefix_bytes_iff (by simp) s

/-- A line is not empty on the wire. -/
theorem SseLine.bytes_ne_nil (l : SseLine) : l.bytes ≠ [] := by
  rw [SseLine.bytes, Ne, Utf8.bytes_eq_nil_iff]
  cases l with
  | payload t =>
    intro h
    have := congrArg String.toList h
    simp [SseLine.text] at this
  | other l => exact l.ne

/-- A line has no LF on the wire. -/
theorem SseLine.lf_not_mem_bytes (l : SseLine) : LF ∉ l.bytes := by
  apply ValetudoMatter.lf_not_mem_bytes
  cases l with
  | payload t =>
    have := t.noLf
    simp [SseLine.text, this]
  | other l => exact l.noLf

/-- What the decoder takes from a line is the payload it carries. -/
theorem SseLine.stripData_bytes (l : SseLine) : stripData l.bytes = l.payload?.map Utf8.bytes := by
  cases l with
  | payload t => simp [SseLine.bytes, SseLine.text, SseLine.payload?, Utf8.bytes_append, bytes_dataPrefix, stripData]
  | other l =>
    have h : ¬ dataPrefix <+: Utf8.bytes l.text := fun hp => l.notData ((dataPrefix_prefix_iff l.text).mp hp)
    simp [SseLine.bytes, SseLine.text, SseLine.payload?, stripData, h]

/-- Nothing is lost where a CR before the LF is dropped: a payload line has none, and dropping it makes no payload line. -/
theorem SseLine.stripData_dropCr (l : SseLine) : stripData (dropCr l.bytes) = stripData l.bytes := by
  rw [dropCr]
  split
  · rename_i hcr
    cases l with
    | payload t =>
      exfalso
      have hmem : CR ∈ Utf8.bytes ("data: " ++ t.text) := List.mem_of_getLast? hcr
      refine cr_not_mem_bytes ?_ hmem
      have := t.noCr
      simp [this]
    | other l =>
      have h : ¬ dataPrefix <+: Utf8.bytes l.text := fun hp => l.notData ((dataPrefix_prefix_iff l.text).mp hp)
      have h' : ¬ dataPrefix <+: (Utf8.bytes l.text).dropLast := fun hp => h (hp.trans (List.dropLast_prefix _))
      simp [SseLine.bytes, SseLine.text, stripData, h, h']
  · rfl

/-! ## A block on the wire -/

theorem SseBlock.bytes_eq (b : SseBlock) : b.bytes = [LF].intercalate (b.lines.map SseLine.bytes) := by
  rw [SseBlock.bytes, Utf8.bytes_intercalate, bytes_lf, List.map_map]
  rfl

/-- A block reaches up to the first delimiter: there is none inside it, nor across its end. -/
theorem SseBlock.find_bytes (b : SseBlock) : Delim.find [LF, LF] (b.bytes ++ [LF, LF]) = some b.bytes.length := by
  rw [SseBlock.bytes_eq]
  apply Delim.find_intercalate
  · simpa using b.ne
  · intro l hl
    obtain ⟨line, -, rfl⟩ := List.mem_map.mp hl
    exact ⟨line.bytes_ne_nil, line.lf_not_mem_bytes⟩

/-- The LFs of a block separate its lines. -/
theorem SseBlock.splitOn_bytes (b : SseBlock) : b.bytes.splitOn LF = b.lines.map SseLine.bytes := by
  rw [SseBlock.bytes_eq]
  apply List.splitOn_intercalate
  · intro l hl
    obtain ⟨line, -, rfl⟩ := List.mem_map.mp hl
    exact line.lf_not_mem_bytes
  · simpa using b.ne

/-- The decoder takes from a block what its lines carry. -/
theorem SseBlock.filterMap_blockLines (b : SseBlock) :
    (blockLines b.bytes).filterMap stripData = (b.lines.filterMap SseLine.payload?).map Utf8.bytes := by
  have hinit : ((b.lines.map SseLine.bytes).dropLast.map dropCr).filterMap stripData =
      (b.lines.map SseLine.bytes).dropLast.filterMap stripData := by
    rw [List.filterMap_map]
    apply List.filterMap_congr
    intro l hl
    obtain ⟨line, -, rfl⟩ := List.mem_map.mp (List.mem_of_mem_dropLast hl)
    exact line.stripData_dropCr
  rw [blockLines, b.splitOn_bytes, List.filterMap_append, hinit, ← List.filterMap_append,
    List.dropLast_eq_take, List.take_append_getLast?, List.filterMap_map, List.map_filterMap]
  exact List.filterMap_congr fun line _ => line.stripData_bytes

/-- The decoder yields for a block the event it carries. -/
theorem SseBlock.blockItem_bytes (b : SseBlock) : blockItem b.bytes = b.event.map .ok := by
  have hpayload : blockPayload b.bytes = Utf8.bytes b.payload := by
    rw [blockPayload, ← filterMap_stripData, b.filterMap_blockLines, SseBlock.payload, Utf8.bytes_intercalate, bytes_lf]
  rw [blockItem, hpayload, SseBlock.event]
  by_cases h : b.payload = ""
  · simp [h, Utf8.bytes_eq_nil_iff]
  · simp [h, Utf8.bytes_eq_nil_iff, Utf8.fromUTF8?_bytes]

/-! ## The round trip -/

/-- The one-shot parse of a framed list of blocks is the list of their events. -/
theorem oneShot_encode (blocks : List SseBlock) :
    oneShot (blocks.map SseBlock.encode).flatten = (blocks.filterMap SseBlock.event).map .ok := by
  have hcut := Delim.cut_frame lflf_ne_nil (blocks.map SseBlock.bytes) (by
    intro bs hbs
    obtain ⟨b, -, rfl⟩ := List.mem_map.mp hbs
    exact b.find_bytes)
  have hframe : blocks.map SseBlock.encode = (blocks.map SseBlock.bytes).map (· ++ [LF, LF]) := by
    rw [List.map_map]
    rfl
  rw [oneShot, hframe, hcut, List.filterMap_map, List.map_filterMap]
  exact List.filterMap_congr fun b _ => b.blockItem_bytes

/-- Decoding undoes SSE framing. For every list of blocks and every way of cutting what is written for them into reads that
are ready, the stream yields the event of each block that carries one, once each and in order, and nothing else. -/
theorem drain_encode (blocks : List SseBlock) (reads : List Chunk)
    (h : (reads.map (·.bytes)).flatten = (blocks.map SseBlock.encode).flatten) :
    (SseStream.new (Body.ofReads reads .eof)).drain.1 = (blocks.filterMap SseBlock.event).map .ok := by
  rw [SseStream.drain_new, Body.received_ofReads, Body.ending_ofReads, h, oneShot_encode]
  simp [Ending.items]

/-- A heartbeat, and an event with a name whose payload has two lines. -/
def heartbeatThenEvent : List SseBlock :=
  [{ lines := [.other { text := ":", ne := by decide, noLf := by decide, notData := by decide }], ne := by decide },
   { lines := [.other { text := "id: 7", ne := by decide, noLf := by decide, notData := by decide },
       .payload { text := "a", noLf := by decide, noCr := by decide },
       .payload { text := "b", noLf := by decide, noCr := by decide }], ne := by simp }]

/-- The same on the wire, cut inside the empty line, inside the prefix and after it. -/
def heartbeatThenEventReads : List Chunk :=
  [{ bytes := [58, 10], pos := by decide, le := by decide },
   { bytes := [10, 105, 100, 58, 32, 55, 10, 100, 97, 116, 97], pos := by decide, le := by decide },
   { bytes := [58, 32, 97, 10, 100, 97, 116, 97, 58, 32, 98, 10, 10], pos := by decide, le := by decide }]

/-- The heartbeat yields nothing, and the event its payload. -/
theorem drain_heartbeatThenEvent :
    (SseStream.new (Body.ofReads heartbeatThenEventReads .eof)).drain.1 = [.ok "a\nb"] :=
  (drain_encode heartbeatThenEvent heartbeatThenEventReads (by decide +kernel)).trans (by decide +kernel)

end ValetudoMatter
