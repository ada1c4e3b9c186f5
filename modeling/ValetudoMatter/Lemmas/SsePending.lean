import ValetudoMatter.Lemmas.Sse

/-!
# What a `Pending` does to the buffer

Every pass hands on the bytes it was given: what it cuts off, the buffer it leaves and the bytes still to come are the buffer
it started with and the bytes that were to come (`pass_next_bytes`). A return on `Pending` is the one exception: it leaves a
buffer 1024 bytes longer (`pass_pending`). So the buffers searched hold delivered bytes only as long as no `Pending` comes
(`Searched.bytes`), and each `Pending` of a reader is reached (`Searched.exists_longer`).
-/

namespace ValetudoMatter

/-- Where a block is complete, what is cut off and what is left are the buffer. -/
theorem cutOff_append_drop {buffer : List UInt8} {pos : Nat} (h : Delim.find [LF, LF] buffer = some pos) :
    cutOff buffer ++ buffer.drop (pos + 2) = buffer := by
  simp [cutOff, h]

theorem cutOff_of_find_none {buffer : List UInt8} (h : Delim.find [LF, LF] buffer = none) : cutOff buffer = [] := by
  simp [cutOff, h]

/-- A pass that goes round again invents no byte and loses none. -/
theorem SseStream.pass_next_bytes {body body' : Body} {buffer buffer' : List UInt8}
    (h : pass body buffer = .next body' buffer') :
    cutOff buffer ++ buffer' ++ body'.bytes = buffer ++ body.bytes ∧ body'.pendings = body.pendings := by
  cases hf : Delim.find [LF, LF] buffer with
  | some pos =>
    rw [pass_of_find_some body hf] at h
    split at h
    · cases h
      rw [cutOff_append_drop hf]
      exact ⟨rfl, rfl⟩
    · cases h
  | none =>
    cases body with
    | eof => rw [pass_eof hf] at h; cases h
    | error e => rw [pass_error e hf] at h; cases h
    | pending rest => rw [pass_pending rest hf] at h; cases h
    | ready chunk rest =>
      rw [pass_ready chunk rest hf] at h
      cases h
      simp [cutOff_of_find_none hf, Body.bytes, Body.pendings]

/-- A pass that returns an item with the body still there invents no byte and loses none; one that returns `Pending` leaves
the padding in the buffer. -/
theorem SseStream.pass_return_bytes {body body' : Body} {buffer buffer' : List UInt8} {p : Poll (Option Item)}
    (h : pass body buffer = .return p { body := some body', buffer := buffer' }) :
    cutOff buffer ++ buffer' ++ body'.bytes = buffer ++ body.bytes ∧ body'.pendings = body.pendings ∨
      cutOff buffer = [] ∧ buffer' = buffer ++ padding ∧ body = .pending body' := by
  cases hf : Delim.find [LF, LF] buffer with
  | some pos =>
    rw [pass_of_find_some body hf] at h
    split at h
    · cases h
    · cases h
      left
      rw [cutOff_append_drop hf]
      exact ⟨rfl, rfl⟩
  | none =>
    cases body with
    | eof => rw [pass_eof hf] at h; cases h
    | error e => rw [pass_error e hf] at h; cases h
    | pending rest =>
      rw [pass_pending rest hf] at h
      cases h
      exact Or.inr ⟨cutOff_of_find_none hf, rfl, rfl⟩
    | ready chunk rest => rw [pass_ready chunk rest hf] at h; cases h

/-- A pass that takes the body has read to its end: no `Pending` is left. -/
theorem SseStream.pendings_of_pass_return {body : Body} {buffer : List UInt8} {p : Poll (Option Item)} {s : SseStream}
    (h : pass body buffer = .return p s) (hs : s.body = none) : body.pendings = 0 := by
  cases hf : Delim.find [LF, LF] buffer with
  | some pos =>
    rw [pass_of_find_some body hf] at h
    split at h
    · cases h
    · cases h
      cases hs
  | none =>
    cases body with
    | eof => rfl
    | error e => rfl
    | pending rest => rw [pass_pending rest hf] at h; cases h; cases hs
    | ready chunk rest => rw [pass_ready chunk rest hf] at h; cases h

/-- With a reader that never gives `Pending`, what was cut off, the buffer searched and what is still to come are at every
search the bytes the reader delivers. -/
theorem Searched.bytes {body₀ : Body} (h₀ : body₀.pendings = 0) {consumed : List UInt8} {body : Body}
    {buffer : List UInt8} (h : Searched body₀ consumed body buffer) :
    consumed ++ buffer ++ body.bytes = body₀.bytes ∧ body.pendings = 0 := by
  induction h with
  | start => exact ⟨rfl, h₀⟩
  | next _ hp ih =>
    obtain ⟨hb, hz⟩ := SseStream.pass_next_bytes hp
    refine ⟨?_, hz.trans ih.2⟩
    rw [← ih.1, List.append_assoc, List.append_assoc, List.append_assoc, ← hb, List.append_assoc]
  | poll _ hp ih =>
    rcases SseStream.pass_return_bytes hp with ⟨hb, hz⟩ | ⟨-, -, hbody⟩
    · refine ⟨?_, hz.trans ih.2⟩
      rw [← ih.1, List.append_assoc, List.append_assoc, List.append_assoc, ← hb, List.append_assoc]
    · rw [hbody] at ih
      simp [Body.pendings] at ih

/-- A search that has a `Pending` still to come is followed by one with more bytes than there were to come: the first
`Pending` is reached, whatever blocks and reads come before it, and the search after it has its padding. -/
theorem Searched.exists_longer {body₀ : Body} {consumed : List UInt8} {body : Body} {buffer : List UInt8}
    (h : Searched body₀ consumed body buffer) (hp : 0 < body.pendings) :
    ∃ consumed' body' buffer', Searched body₀ consumed' body' buffer' ∧
      (consumed ++ buffer ++ body.bytes).length < (consumed' ++ buffer' ++ body'.bytes).length := by
  induction hn : body.weight + buffer.length using Nat.strongRecOn generalizing consumed body buffer with
  | _ n ih =>
    cases hpass : SseStream.pass body buffer with
    | next body' buffer' =>
      have hlt := (SseStream.pass_weight body buffer).1 _ _ hpass
      obtain ⟨hb, hz⟩ := SseStream.pass_next_bytes hpass
      obtain ⟨c, b, bf, hs, hlen⟩ := ih _ (by omega) (h.next hpass) (by omega) rfl
      refine ⟨c, b, bf, hs, ?_⟩
      simp only [List.length_append] at hlen ⊢
      have := congrArg List.length hb
      simp only [List.length_append] at this
      omega
    | «return» p s =>
      have hlt := (SseStream.pass_weight body buffer).2 _ _ hpass
      obtain ⟨sbody, sbuffer⟩ := s
      cases sbody with
      | none =>
        have := SseStream.pendings_of_pass_return hpass rfl
        omega
      | some body' =>
        have hs' := h.poll hpass
        rcases SseStream.pass_return_bytes hpass with ⟨hb, hz⟩ | ⟨hc, hbuf, hbody⟩
        · obtain ⟨c, b, bf, hs, hlen⟩ := ih _ (by rw [← hn]; exact hlt) hs' (by omega) rfl
          refine ⟨c, b, bf, hs, ?_⟩
          have := congrArg List.length hb
          simp only [List.length_append] at hlen this ⊢
          omega
        · refine ⟨_, _, _, hs', ?_⟩
          subst hbuf hbody
          simp only [hc, Body.bytes, List.length_append, length_padding, List.length_nil]
          omega

end ValetudoMatter
