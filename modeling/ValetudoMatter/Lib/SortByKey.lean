import Mathlib.Data.List.Sort

/-!
# Sorting by a key

A stable sort by a key: entries with the same key keep their order (`filter_sortByKey`), and a search finds an entry whose key
is least among those it could find (`findSome_sortByKey`).
-/

namespace SortByKey

variable {α β κ : Type*} [LinearOrder κ]

/-- Sort by a key; the sort is stable. -/
def sortByKey (key : α → κ) (l : List α) : List α := l.insertionSort fun a b => key a ≤ key b

variable {key : α → κ}

@[simp] theorem mem_sortByKey {l : List α} {a : α} : a ∈ sortByKey key l ↔ a ∈ l := List.mem_insertionSort _

/-- What is sorted is in the order of its keys. -/
theorem pairwise_sortByKey (l : List α) : (sortByKey key l).Pairwise fun a b => key a ≤ key b := by
  have : Std.Total fun a b : α => key a ≤ key b := ⟨fun a b => le_total (key a) (key b)⟩
  have : IsTrans α fun a b => key a ≤ key b := ⟨fun _ _ _ => le_trans⟩
  exact List.pairwise_insertionSort _ l

/-- Entries with the same key keep their order. -/
theorem filter_sortByKey {p : α → Bool} {k : κ} {l : List α} (h : ∀ a ∈ l, p a → key a = k) :
    (sortByKey key l).filter p = l.filter p := by
  have hsame : (l.filter p).Pairwise fun a b => key a ≤ key b := by
    apply List.pairwise_of_forall_mem_list
    intro a ha b hb
    obtain ⟨ha, hpa⟩ := List.mem_filter.mp ha
    obtain ⟨hb, hpb⟩ := List.mem_filter.mp hb
    rw [h a ha hpa, h b hb hpb]
  have hsub : (l.filter p).Sublist (sortByKey key l) := List.sublist_insertionSort hsame List.filter_sublist
  have hfilter := hsub.filter p
  rw [List.filter_filter, funext fun a => Bool.and_self (p a)] at hfilter
  exact (hfilter.eq_of_length ((List.perm_insertionSort _ l).filter p).length_eq.symm).symm

/-- A search of what is sorted finds an entry with the least key. -/
theorem findSome_sortByKey {f : α → Option β} {l : List α} {b : β} (h : (sortByKey key l).findSome? f = some b) :
    ∃ a ∈ l, f a = some b ∧ ∀ a' ∈ l, (f a').isSome → key a ≤ key a' := by
  obtain ⟨l₁, a, l₂, hl, hab, hnone⟩ := List.findSome?_eq_some_iff.mp h
  have hmem : ∀ a', a' ∈ l₁ ++ a :: l₂ ↔ a' ∈ l := fun a' => by rw [← hl, mem_sortByKey]
  refine ⟨a, (hmem a).mp (by simp), hab, ?_⟩
  intro a' ha' hsome
  have hsorted : (sortByKey key l).Pairwise fun a b => key a ≤ key b := pairwise_sortByKey l
  rw [hl] at hsorted
  rcases List.mem_append.mp ((hmem a').mpr ha') with ha' | ha'
  · simp [hnone a' ha'] at hsome
  · rcases List.mem_cons.mp ha' with rfl | ha'
    · exact le_rfl
    · exact List.rel_of_pairwise_cons (List.pairwise_append.mp hsorted).2.1 ha'

end SortByKey
