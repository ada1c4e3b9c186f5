import Mathlib.Data.List.Basic

/-!
# The bytes of a string

`Utf8.bytes s` is the UTF-8 encoding of a string as a list of bytes. Encoding is a homomorphism (`bytes_append`), decoding
undoes it (`fromUTF8?_bytes`), and the ASCII characters of a string stand at its ASCII bytes: a byte below 128 occurs in the
encoding exactly when its character occurs in the string (`mem_bytes_iff`), and an ASCII prefix of the encoding is a prefix of
the string (`prefix_bytes_iff`).
-/

namespace Utf8

/-- The UTF-8 bytes of a string. -/
def bytes (s : String) : List UInt8 := s.toByteArray.data.toList

/-- The bytes of a string are those of its characters, in order. -/
theorem bytes_eq (s : String) : bytes s = s.toList.flatMap String.utf8EncodeChar := by
  have h : s.toByteArray = (s.toList.flatMap String.utf8EncodeChar).toByteArray := by
    conv_lhs => rw [← String.ofList_toList (s := s), String.toByteArray_ofList, List.utf8Encode]
  rw [bytes, h, List.data_toByteArray]

theorem bytes_append (s t : String) : bytes (s ++ t) = bytes s ++ bytes t := by
  simp [bytes_eq]

theorem bytes_eq_nil_iff {s : String} : bytes s = [] ↔ s = "" := by
  rw [bytes_eq, List.flatMap_eq_nil_iff]
  constructor
  · intro h
    rw [← String.toList_eq_nil_iff]
    cases hl : s.toList with
    | nil => rfl
    | cons c cs => exact absurd (h c (by simp [hl])) String.utf8EncodeChar_ne_nil
  · rintro rfl
    simp

/-- The bytes of a join are the join of the bytes. -/
theorem bytes_intercalate (sep : String) (ss : List String) :
    bytes (sep.intercalate ss) = (bytes sep).intercalate (ss.map bytes) := by
  induction ss with
  | nil => simp [bytes_eq]
  | cons s ss ih =>
    cases ss with
    | nil => simp
    | cons t ss =>
      rw [String.intercalate_cons_cons, bytes_append, bytes_append, ih]
      simp [List.intercalate]

/-- Decoding undoes encoding. -/
theorem fromUTF8?_bytes (s : String) : String.fromUTF8? ⟨(bytes s).toArray⟩ = some s := by
  have h : (⟨(bytes s).toArray⟩ : ByteArray) = s.toByteArray := by simp [bytes]
  rw [h, String.fromUTF8?, dif_pos s.isValidUTF8]
  rfl

/-- A byte below 128 of the encoding of a character is the whole of it, and the character's code. -/
theorem utf8EncodeChar_of_mem {c : Char} {b : UInt8} (h : b ∈ String.utf8EncodeChar c) (hb : b.toNat < 128) :
    String.utf8EncodeChar c = [b] ∧ c.toNat = b.toNat := by
  have hc : c.toNat = c.val.toNat := rfl
  unfold String.utf8EncodeChar at h ⊢
  simp only at h ⊢
  split at h
  · rename_i hv
    rw [if_pos hv]
    have hbv : b = UInt8.ofNat c.val.toNat := by simpa using h
    have hbn : b.toNat = c.val.toNat := by
      rw [hbv, UInt8.toNat_ofNat']
      omega
    exact ⟨by rw [hbv], by omega⟩
  · -- every byte of a longer encoding has its top bit set
    exfalso
    split at h
    · simp only [List.mem_cons, List.not_mem_nil, or_false] at h
      rcases h with rfl | rfl <;> simp only [UInt8.toNat_ofNat'] at hb <;> omega
    · have hlt : c.val.toNat < 1114112 := by
        have hv := c.valid
        simp only [UInt32.isValidChar, Nat.isValidChar] at hv
        omega
      split at h
      · simp only [List.mem_cons, List.not_mem_nil, or_false] at h
        rcases h with rfl | rfl | rfl <;> simp only [UInt8.toNat_ofNat'] at hb <;> omega
      · simp only [List.mem_cons, List.not_mem_nil, or_false] at h
        rcases h with rfl | rfl | rfl | rfl <;> simp only [UInt8.toNat_ofNat'] at hb <;> omega

/-- The encoding of an ASCII character is its code. -/
theorem utf8EncodeChar_of_ascii {c : Char} (h : c.toNat < 128) :
    String.utf8EncodeChar c = [UInt8.ofNat c.toNat] := by
  have hc : c.toNat = c.val.toNat := rfl
  unfold String.utf8EncodeChar
  simp only
  rw [if_pos (by omega), hc]

/-- The byte of an ASCII character occurs in the encoding of a string exactly when the character occurs in the string. -/
theorem mem_bytes_iff {a : Char} (ha : a.toNat < 128) (s : String) :
    UInt8.ofNat a.toNat ∈ bytes s ↔ a ∈ s.toList := by
  have hn : (UInt8.ofNat a.toNat).toNat = a.toNat := by
    rw [UInt8.toNat_ofNat']
    omega
  rw [bytes_eq, List.mem_flatMap]
  constructor
  · rintro ⟨c, hc, hb⟩
    have hca : c = a := by
      apply Char.toNat_inj.mp
      rw [(utf8EncodeChar_of_mem hb (by omega)).2, hn]
    exact hca ▸ hc
  · intro h
    exact ⟨a, h, by rw [utf8EncodeChar_of_ascii ha]; simp⟩

/-- ASCII characters are a prefix of a list of characters exactly when their codes are a prefix of its encoding. -/
theorem prefix_flatMap_iff {p : List Char} (hp : ∀ c ∈ p, c.toNat < 128) (l : List Char) :
    p.flatMap String.utf8EncodeChar <+: l.flatMap String.utf8EncodeChar ↔ p <+: l := by
  induction p generalizing l with
  | nil => simp
  | cons a p ih =>
    have ha : a.toNat < 128 := hp a (by simp)
    have hn : (UInt8.ofNat a.toNat).toNat = a.toNat := by
      rw [UInt8.toNat_ofNat']
      omega
    have ih' := ih (fun c hc => hp c (List.mem_cons_of_mem _ hc))
    cases l with
    | nil => simp [utf8EncodeChar_of_ascii ha]
    | cons c l =>
      rw [List.flatMap_cons, List.flatMap_cons, utf8EncodeChar_of_ascii ha, List.cons_prefix_cons]
      constructor
      · intro h
        have hhead : (String.utf8EncodeChar c ++ l.flatMap String.utf8EncodeChar).head? =
            some (UInt8.ofNat a.toNat) := by
          obtain ⟨t, ht⟩ := h
          rw [← ht]
          rfl
        have hmem : UInt8.ofNat a.toNat ∈ String.utf8EncodeChar c := by
          cases hc : String.utf8EncodeChar c with
          | nil => exact absurd hc String.utf8EncodeChar_ne_nil
          | cons b bs =>
            rw [hc] at hhead
            simp only [List.cons_append, List.head?_cons, Option.some.injEq] at hhead
            simp [hhead]
        obtain ⟨henc, hcode⟩ := utf8EncodeChar_of_mem hmem (by omega)
        rw [henc, List.singleton_append, List.singleton_append, List.cons_prefix_cons] at h
        exact ⟨Char.toNat_inj.mp (by omega), (ih' l).mp h.2⟩
      · rintro ⟨rfl, h⟩
        rw [utf8EncodeChar_of_ascii ha, List.singleton_append, List.singleton_append, List.cons_prefix_cons]
        exact ⟨rfl, (ih' l).mpr h⟩

/-- An ASCII string is a prefix of another exactly when its encoding is. -/
theorem prefix_bytes_iff {p : String} (hp : ∀ c ∈ p.toList, c.toNat < 128) (s : String) :
    bytes p <+: bytes s ↔ p.toList <+: s.toList := by
  rw [bytes_eq, bytes_eq, prefix_flatMap_iff hp]

end Utf8
