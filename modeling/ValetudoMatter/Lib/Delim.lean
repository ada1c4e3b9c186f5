import Mathlib.Data.List.Infix
import Mathlib.Data.List.Basic

/-!
# Cutting a list at a delimiter

`Delim.find d l` is the place of the leftmost occurrence of `d` in `l`, and `Delim.cut d l` cuts `l` at the leftmost
occurrences of `d` that do not overlap: the blocks that end in a `d`, and what is left after the last one. Cutting undoes the
framing that ends every block in a `d` (`cut_frame`).
-/

namespace Delim

variable {α : Type*} [DecidableEq α]

/-- The place of the leftmost occurrence of `d`. -/
def find (d : List α) : List α → Option Nat
  | [] => if d = [] then some 0 else none
  | x :: l => if d <+: x :: l then some 0 else (find d l).map (· + 1)

/-- Where `d` is found it is a prefix of what follows. -/
theorem prefix_of_find {d l : List α} {i : Nat} (h : find d l = some i) : d <+: l.drop i := by
  induction l generalizing i with
  | nil =>
    simp only [find] at h
    split at h
    · rename_i hd
      simp [hd]
    · cases h
  | cons x l ih =>
    simp only [find] at h
    split at h
    · rename_i hd
      cases h
      simpa using hd
    · obtain ⟨j, hj, rfl⟩ := Option.map_eq_some_iff.mp h
      simpa using ih hj

/-- Where `d` is found there is room for it. -/
theorem find_le {d l : List α} {i : Nat} (h : find d l = some i) : i + d.length ≤ l.length := by
  induction l generalizing i with
  | nil =>
    simp only [find] at h
    split at h
    · rename_i hd
      cases h
      simp [hd]
    · cases h
  | cons x l ih =>
    simp only [find] at h
    split at h
    · rename_i hd
      cases h
      simpa using hd.length_le
    · obtain ⟨j, hj, rfl⟩ := Option.map_eq_some_iff.mp h
      have := ih hj
      simp only [List.length_cons]
      omega

/-- `d` does not occur before the place it is found at. -/
theorem not_prefix_of_lt_find {d l : List α} {i : Nat} (h : find d l = some i) :
    ∀ j < i, ¬ d <+: l.drop j := by
  induction l generalizing i with
  | nil =>
    simp only [find] at h
    split at h
    · cases h
      intro j hj
      omega
    · cases h
  | cons x l ih =>
    simp only [find] at h
    split at h
    · cases h
      intro j hj
      omega
    · rename_i hd
      obtain ⟨k, hk, rfl⟩ := Option.map_eq_some_iff.mp h
      intro j hj
      cases j with
      | zero => simpa using hd
      | succ j => simpa using ih hk j (by omega)

/-- The leftmost occurrence is the only place `find` gives. -/
theorem find_eq_some_of {d l : List α} {i : Nat} (hp : d <+: l.drop i) (hi : i ≤ l.length)
    (hn : ∀ j < i, ¬ d <+: l.drop j) : find d l = some i := by
  induction l generalizing i with
  | nil =>
    have hi : i = 0 := by simpa using hi
    subst hi
    have hd : d = [] := by simpa using hp
    simp [find, hd]
  | cons x l ih =>
    cases i with
    | zero =>
      have hd : d <+: x :: l := by simpa using hp
      simp [find, hd]
    | succ i =>
      have hd : ¬ d <+: x :: l := by simpa using hn 0 (by omega)
      have hl : find d l = some i := by
        apply ih
        · simpa using hp
        · simpa using hi
        · intro j hj
          simpa using hn (j + 1) (by omega)
      simp [find, hd, hl]

/-- What comes after it does not move the leftmost occurrence. -/
theorem find_append_of_some {d l : List α} {i : Nat} (m : List α) (h : find d l = some i) :
    find d (l ++ m) = some i := by
  have hle := find_le h
  apply find_eq_some_of
  · rw [List.drop_append_of_le_length (by omega)]
    exact (prefix_of_find h).trans (List.prefix_append _ _)
  · simp only [List.length_append]
    omega
  · intro j hj hp
    apply not_prefix_of_lt_find h j hj
    rw [List.drop_append_of_le_length (by omega)] at hp
    refine List.prefix_of_prefix_length_le hp (List.prefix_append _ _) ?_
    simp only [List.length_drop]
    omega

/-- A list without the first element of `d` moves the leftmost occurrence by its length. -/
theorem find_append_of_not_mem {x : α} {d l : List α} (h : x ∉ l) (m : List α) :
    find (x :: d) (l ++ m) = (find (x :: d) m).map (· + l.length) := by
  induction l with
  | nil => simp
  | cons y l ih =>
    have hx : x ≠ y := fun hxy => h (by simp [hxy])
    have hl : x ∉ l := fun hl => h (List.mem_cons_of_mem _ hl)
    have hnp : ¬ x :: d <+: y :: (l ++ m) := fun hp => hx (List.cons_prefix_cons.mp hp).1
    simp only [List.cons_append, find]
    rw [if_neg hnp, ih hl, Option.map_map]
    rfl

/-- Lines that are not empty and have no `x`, joined by `x`, reach up to the first double `x` written after them. -/
theorem find_intercalate {x : α} {ls : List (List α)} (hls : ls ≠ []) (h : ∀ l ∈ ls, l ≠ [] ∧ x ∉ l) :
    find [x, x] ([x].intercalate ls ++ [x, x]) = some ([x].intercalate ls).length := by
  induction ls with
  | nil => exact absurd rfl hls
  | cons l ls ih =>
    have hl := (h l (by simp)).2
    cases ls with
    | nil =>
      rw [List.intercalate_singleton, find_append_of_not_mem hl]
      simp [find]
    | cons l' ls =>
      -- the line that follows the joining `x` begins with something else
      obtain ⟨hne, hnm⟩ := h l' (by simp)
      have ih' := ih (by simp) (fun k hk => h k (List.mem_cons_of_mem _ hk))
      have hsep : ¬ [x, x] <+: x :: ([x].intercalate (l' :: ls) ++ [x, x]) := by
        intro hp
        obtain ⟨y, t, rfl⟩ := List.exists_cons_of_ne_nil hne
        have hxy : x = y := by
          have := (List.cons_prefix_cons.mp hp).2
          cases ls <;> simpa using this
        exact hnm (by simp [hxy])
      have hjoin : [x].intercalate (l :: l' :: ls) ++ [x, x] =
          l ++ x :: ([x].intercalate (l' :: ls) ++ [x, x]) := by simp
      rw [hjoin, find_append_of_not_mem hl, find, if_neg hsep, ih']
      simp
      omega

/-- Cut a list at the leftmost occurrences of `d` that do not overlap: the blocks that end in a `d`, without it, and what is
left after the last one. Nothing is cut at an empty delimiter. -/
def cut (d : List α) (l : List α) : List (List α) × List α :=
  match _h : find d l with
  | none => ([], l)
  | some i =>
    if _hd : d = [] then ([], l)
    else
      let rest := cut d (l.drop (i + d.length))
      (l.take i :: rest.1, rest.2)
termination_by l.length
decreasing_by
  have := find_le _h
  have := List.length_pos_iff.mpr _hd
  simp only [List.length_drop]
  omega

/-- A list in which the delimiter does not occur is not cut. -/
theorem cut_of_find_none {d l : List α} (h : find d l = none) : cut d l = ([], l) := by
  rw [cut]
  split
  · rfl
  · rename_i h'
    rw [h] at h'
    cases h'

/-- A list in which the delimiter occurs is cut there, and the rest is cut after it. -/
theorem cut_of_find_some {d l : List α} {i : Nat} (hd : d ≠ []) (h : find d l = some i) :
    cut d l = (l.take i :: (cut d (l.drop (i + d.length))).1, (cut d (l.drop (i + d.length))).2) := by
  rw [cut]
  split
  · rename_i h'
    rw [h] at h'
    cases h'
  · rename_i j h'
    rw [h] at h'
    cases h'
    simp [hd]

/-- What comes after it does not change what has been cut: it is cut together with what was left. -/
theorem cut_append {d : List α} (hd : d ≠ []) (l m : List α) :
    cut d (l ++ m) = ((cut d l).1 ++ (cut d ((cut d l).2 ++ m)).1, (cut d ((cut d l).2 ++ m)).2) := by
  induction hn : l.length using Nat.strongRecOn generalizing l with
  | _ n ih =>
    cases h : find d l with
    | none => rw [cut_of_find_none h, List.nil_append]
    | some i =>
      have hle := find_le h
      have hpos := List.length_pos_iff.mpr hd
      have hrest := ih (l.drop (i + d.length)).length (by rw [List.length_drop]; omega) _ rfl
      rw [cut_of_find_some hd h, cut_of_find_some hd (find_append_of_some m h), List.take_append_of_le_length (by omega),
        List.drop_append_of_le_length hle, hrest, List.cons_append]

/-- A block that reaches up to the first delimiter is the first block cut. -/
theorem cut_block {d b : List α} (hd : d ≠ []) (h : find d (b ++ d) = some b.length) (m : List α) :
    cut d (b ++ d ++ m) = (b :: (cut d m).1, (cut d m).2) := by
  rw [cut_of_find_some hd (find_append_of_some m h)]
  have hdrop : (b ++ d ++ m).drop (b.length + d.length) = m := by
    rw [← List.length_append, List.drop_left]
  rw [hdrop]
  simp

/-- Cutting undoes framing: blocks that each reach up to the first delimiter, written one after the other with a delimiter
after each, are cut into those blocks, and nothing is left. -/
theorem cut_frame {d : List α} (hd : d ≠ []) (bs : List (List α))
    (h : ∀ b ∈ bs, find d (b ++ d) = some b.length) :
    cut d (bs.map (· ++ d)).flatten = (bs, []) := by
  induction bs with
  | nil =>
    apply cut_of_find_none
    simp [find, hd]
  | cons b bs ih =>
    rw [List.map_cons, List.flatten_cons, cut_block hd (h b (by simp)),
      ih (fun b' hb' => h b' (List.mem_cons_of_mem _ hb'))]

end Delim
