import Mathlib.Data.List.Basic

/-!
# The last write wins

A register that a sequence of items is applied to: an item that carries a value overwrites it, another one leaves it. What the
register holds after the sequence is the last value carried, and where there is one it does not matter what was there before
(`after_eq_of_carries`).
-/

namespace LastWrite

variable {α β : Type*} (f : α → Option β)

/-- The register after a sequence of items. -/
def after (b : β) (xs : List α) : β := xs.foldl (fun b a => (f a).getD b) b

@[simp] theorem after_nil (b : β) : after f b [] = b := rfl

@[simp] theorem after_cons (b : β) (a : α) (xs : List α) : after f b (a :: xs) = after f ((f a).getD b) xs := rfl

@[simp] theorem after_append (b : β) (xs ys : List α) : after f b (xs ++ ys) = after f (after f b xs) ys :=
  List.foldl_append

variable {f}

/-- A property of the register and of every value carried is one of the register after the sequence. -/
theorem after_of_forall {P : β → Prop} {b : β} {xs : List α} (hb : P b) (hxs : ∀ a ∈ xs, ∀ v ∈ f a, P v) :
    P (after f b xs) := by
  induction xs generalizing b with
  | nil => exact hb
  | cons a xs ih =>
    rw [after_cons]
    apply ih
    · cases ha : f a with
      | none => exact hb
      | some v => exact hxs a (by simp) v ha
    · exact fun a' ha' => hxs a' (List.mem_cons_of_mem _ ha')

/-- Items that carry nothing leave the register. -/
theorem after_eq_self {b : β} {xs : List α} (h : ∀ a ∈ xs, f a = none) : after f b xs = b := by
  induction xs with
  | nil => rfl
  | cons a xs ih =>
    rw [after_cons, h a (by simp)]
    exact ih fun a' ha' => h a' (List.mem_cons_of_mem _ ha')

/-- After an item that carries a value it does not matter what the register held. -/
theorem after_eq_of_carries {xs : List α} (h : ∃ a ∈ xs, (f a).isSome) (b b' : β) : after f b xs = after f b' xs := by
  induction xs generalizing b b' with
  | nil => simp at h
  | cons a xs ih =>
    rw [after_cons, after_cons]
    cases ha : f a with
    | none =>
      obtain ⟨a', ha', hsome⟩ := h
      rcases List.mem_cons.mp ha' with rfl | ha'
      · simp [ha] at hsome
      · exact ih ⟨a', ha', hsome⟩ _ _
    | some v => rfl

/-- If all values carried are the same and there is one, the register holds it. -/
theorem after_eq_of_forall {v b : β} {xs : List α} (h : ∃ a ∈ xs, (f a).isSome) (hv : ∀ a ∈ xs, ∀ u ∈ f a, u = v) :
    after f b xs = v := by
  rw [after_eq_of_carries h b v]
  exact after_of_forall (P := (· = v)) rfl hv

/-- Items that carry one value, and do carry it if the register holds another, leave the register with it. -/
theorem after_eq_of_update {v b : β} {xs : List α} (hv : ∀ a ∈ xs, ∀ u ∈ f a, u = v)
    (h : v ≠ b → ∃ a ∈ xs, (f a).isSome) : after f b xs = v := by
  by_cases hvb : v = b
  · exact after_of_forall (P := (· = v)) hvb.symm hv
  · exact after_eq_of_forall (h hvb) hv

/-- Another value written before the sequence makes no difference to what is there after it, exactly when the sequence carries a
value or leaves that value. -/
theorem after_eq_iff {b v : β} {xs : List α} (h : after f b xs = v) (u : β) :
    after f u xs = v ↔ v = u ∨ ∃ a ∈ xs, (f a).isSome := by
  by_cases hcarries : ∃ a ∈ xs, (f a).isSome
  · exact iff_of_true ((after_eq_of_carries hcarries u b).trans h) (.inr hcarries)
  · have hself : after f u xs = u := by
      apply after_eq_self
      intro a ha
      by_contra hne
      exact hcarries ⟨a, ha, Option.isSome_iff_ne_none.mpr hne⟩
    rw [hself]
    simp only [hcarries, or_false]
    exact eq_comm

end LastWrite
