import Mathlib.Data.List.Induction

/-!
# Labelled transition systems

A deterministic step on a label, with an output; the transitions a run takes, as a list, so that a statement can speak of
every state a run visits and of every step it takes; the invariant rule; and an interpreter whose results are runs, for
concrete ones.
-/

namespace Lts

variable {S L O : Type*}

/-- One step of a run. -/
structure Transition (S L O : Type*) where
  before : S
  label : L
  out : O
  after : S

/-- A transition is one that the step function takes. -/
def Transition.Valid (step : S → L → Option (S × O)) (t : Transition S L O) : Prop :=
  step t.before t.label = some (t.after, t.out)

/-- `Run step s ts s'`: the transitions `ts` lead from `s` to `s'`. -/
inductive Run (step : S → L → Option (S × O)) : S → List (Transition S L O) → S → Prop where
  | nil (s : S) : Run step s [] s
  | cons {s s' s'' : S} {l : L} {o : O} {ts : List (Transition S L O)} :
      step s l = some (s', o) → Run step s' ts s'' → Run step s (⟨s, l, o, s'⟩ :: ts) s''

/-- The states a run visits. -/
def visited (s : S) (ts : List (Transition S L O)) : List S := s :: ts.map (·.after)

/-- What holds of the first state and after every transition holds of every state visited. -/
theorem forall_mem_visited {s : S} {ts : List (Transition S L O)} {I : S → Prop} :
    (∀ x ∈ visited s ts, I x) ↔ I s ∧ ∀ t ∈ ts, I t.after := by
  simp [visited]

variable {step : S → L → Option (S × O)}

/-- Every transition of a run is one the step function takes. -/
theorem Run.valid {s s' : S} {ts : List (Transition S L O)} (h : Run step s ts s') : ∀ t ∈ ts, t.Valid step := by
  induction h with
  | nil s => simp
  | cons hstep _ ih =>
    intro t ht
    rcases List.mem_cons.mp ht with rfl | ht
    · exact hstep
    · exact ih t ht

/-- The invariant rule. What the first state has, and every transition of the run keeps, all states before and after the
transitions of the run have. -/
theorem Run.invariant_mem {I : S → Prop} {s s' : S} {ts : List (Transition S L O)} (h : Run step s ts s') (hs : I s)
    (hstep : ∀ t ∈ ts, I t.before → I t.after) : I s' ∧ ∀ t ∈ ts, I t.before ∧ I t.after := by
  induction h with
  | nil s => exact ⟨hs, by simp⟩
  | @cons s s' s'' l o ts _ _ ih =>
    have hs' : I s' := hstep ⟨s, l, o, s'⟩ (by simp) hs
    obtain ⟨hlast, hall⟩ := ih hs' (fun t ht => hstep t (List.mem_cons_of_mem _ ht))
    refine ⟨hlast, ?_⟩
    intro t ht
    rcases List.mem_cons.mp ht with rfl | ht
    · exact ⟨hs, hs'⟩
    · exact hall t ht

/-- The invariant rule for what every transition keeps. -/
theorem Run.invariant {I : S → Prop} {s s' : S} {ts : List (Transition S L O)} (h : Run step s ts s') (hs : I s)
    (hstep : ∀ t : Transition S L O, t.Valid step → I t.before → I t.after) :
    I s' ∧ ∀ t ∈ ts, I t.before ∧ I t.after :=
  h.invariant_mem hs fun t ht => hstep t (h.valid t ht)

/-- What the first state has, and every transition of the run keeps, all states visited have. -/
theorem Run.invariant_visited {I : S → Prop} {s s' : S} {ts : List (Transition S L O)} (h : Run step s ts s') (hs : I s)
    (hstep : ∀ t ∈ ts, I t.before → I t.after) : ∀ x ∈ visited s ts, I x :=
  forall_mem_visited.mpr ⟨hs, fun t ht => ((h.invariant_mem hs hstep).2 t ht).2⟩

/-- A run visits the state it leads to. -/
theorem Run.last_mem {s s' : S} {ts : List (Transition S L O)} (h : Run step s ts s') : s' ∈ visited s ts := by
  induction h with
  | nil s => simp [visited]
  | cons _ _ ih => exact List.mem_cons_of_mem _ ih

/-- A run visits the state before each of its transitions. -/
theorem Run.before_mem {s s' : S} {ts : List (Transition S L O)} (h : Run step s ts s') {t : Transition S L O}
    (ht : t ∈ ts) : t.before ∈ visited s ts := by
  induction h with
  | nil s => simp at ht
  | cons _ _ ih =>
    rcases List.mem_cons.mp ht with rfl | ht
    · simp [visited]
    · exact List.mem_cons_of_mem _ (ih ht)

/-- One run after another. -/
theorem Run.append {s m s' : S} {ts us : List (Transition S L O)} (h : Run step s ts m) (h' : Run step m us s') :
    Run step s (ts ++ us) s' := by
  induction h with
  | nil s => exact h'
  | cons hstep _ ih => exact .cons hstep (ih h')

/-- What the second of two runs visits, the two together visit. -/
theorem mem_visited_append {s m : S} {ts us : List (Transition S L O)} (h : Run step s ts m) {x : S}
    (hx : x ∈ visited m us) : x ∈ visited s (ts ++ us) := by
  rcases List.mem_cons.mp hx with rfl | hx
  · rcases List.mem_cons.mp h.last_mem with hm | hm
    · rw [hm]
      exact List.mem_cons_self
    · exact List.mem_cons_of_mem _ (by simp [List.mem_map.mp hm])
  · exact List.mem_cons_of_mem _ (by simp [List.mem_map.mp hx])

/-- A run of one step. -/
theorem Run.single {s s' : S} {l : L} {o : O} (h : step s l = some (s', o)) : Run step s [⟨s, l, o, s'⟩] s' :=
  .cons h (.nil s')

/-- A run can be cut anywhere. -/
theorem Run.cut {s s' : S} {ts us : List (Transition S L O)} (h : Run step s (ts ++ us) s') :
    ∃ m, Run step s ts m ∧ Run step m us s' := by
  induction ts generalizing s with
  | nil => exact ⟨s, .nil s, h⟩
  | cons t ts ih =>
    cases h with
    | cons hstep h =>
      obtain ⟨m, hts, hus⟩ := ih h
      exact ⟨m, .cons hstep hts, hus⟩

/-- A run that is cut before one of its transitions leads to the state before it. -/
theorem Run.before {s s' : S} {t : Transition S L O} {ts us : List (Transition S L O)}
    (h : Run step s (ts ++ t :: us) s') : Run step s ts t.before := by
  obtain ⟨m, hts, hus⟩ := h.cut
  cases hus with
  | cons _ _ => exact hts

/-- A run that is cut after one of its transitions goes on from the state after it. -/
theorem Run.of_append {s s' : S} {t : Transition S L O} {ts us : List (Transition S L O)}
    (h : Run step s (ts ++ t :: us) s') : Run step t.after us s' := by
  obtain ⟨m, -, hus⟩ := h.cut
  cases hus with
  | cons _ hus => exact hus

/-- The invariant rule with history. What holds of no transition, and every transition that extends a run keeps, holds of every
run. -/
theorem Run.history {P : List (Transition S L O) → S → Prop} {s s' : S} {ts : List (Transition S L O)}
    (h : Run step s ts s') (hnil : P [] s)
    (hsnoc : ∀ us t, Run step s (us ++ [t]) t.after → P us t.before → P (us ++ [t]) t.after) : P ts s' := by
  induction ts using List.reverseRecOn generalizing s' with
  | nil =>
    cases h
    exact hnil
  | append_singleton us t ih =>
    have hafter := h.of_append
    cases hafter
    exact hsnoc us t h (ih h.before)

/-- Execute a list of labels: the transitions it causes and the state it leads to, if every label can be taken. -/
def exec (step : S → L → Option (S × O)) (s : S) : List L → Option (List (Transition S L O) × S)
  | [] => some ([], s)
  | l :: ls =>
    match step s l with
    | none => none
    | some (s', o) => (exec step s' ls).map fun r => (⟨s, l, o, s'⟩ :: r.1, r.2)

/-- An execution is a run. -/
theorem run_of_exec {s : S} {ls : List L} {r : List (Transition S L O) × S} (h : exec step s ls = some r) :
    Run step s r.1 r.2 := by
  induction ls generalizing s r with
  | nil =>
    cases h
    exact .nil s
  | cons l ls ih =>
    simp only [exec] at h
    split at h
    · cases h
    · rename_i s' o hstep
      obtain ⟨r', hr', rfl⟩ := Option.map_eq_some_iff.mp h
      exact .cons hstep (ih hr')

/-- What can be computed of an execution holds of a run. -/
theorem exists_run_of_exec {s : S} {ls : List L} {p : List (Transition S L O) × S → Bool}
    (h : (exec step s ls).any p = true) : ∃ ts s', Run step s ts s' ∧ p (ts, s') = true := by
  cases hr : exec step s ls with
  | none => simp [hr] at h
  | some r => exact ⟨r.1, r.2, run_of_exec hr, by simpa [hr] using h⟩

/-- The transitions of an execution have the labels executed. -/
theorem map_label_of_exec {s : S} {ls : List L} {r : List (Transition S L O) × S} (h : exec step s ls = some r) :
    r.1.map (·.label) = ls := by
  induction ls generalizing s r with
  | nil =>
    cases h
    rfl
  | cons l ls ih =>
    simp only [exec] at h
    split at h
    · cases h
    · obtain ⟨r', hr', rfl⟩ := Option.map_eq_some_iff.mp h
      rw [List.map_cons, ih hr']

/-- What can be computed of an execution holds of a run, cut at one of the labels executed. -/
theorem exists_run_cut_of_exec {s : S} {ls ls' : List L} {l : L} {p : List (Transition S L O) × S → Bool}
    (h : (exec step s (ls ++ l :: ls')).any p = true) :
    ∃ ts t us s', Run step s (ts ++ t :: us) s' ∧ t.label = l ∧ us.map (·.label) = ls' ∧ p (ts ++ t :: us, s') = true := by
  cases hr : exec step s (ls ++ l :: ls') with
  | none => simp [hr] at h
  | some r =>
    obtain ⟨all, s'⟩ := r
    obtain ⟨ts, rest, rfl, -, hrest⟩ := List.map_eq_append_iff.mp (map_label_of_exec hr)
    obtain ⟨t, us, rfl, hlabel, hlabels⟩ := List.map_eq_cons_iff.mp hrest
    rw [hr, Option.any_some] at h
    exact ⟨ts, t, us, s', run_of_exec hr, hlabel, hlabels, h⟩

/-- What can be computed of an execution holds of a run, whose first transition has the first label executed. -/
theorem exists_run_cons_of_exec {s : S} {l : L} {ls : List L} {p : List (Transition S L O) × S → Bool}
    (h : (exec step s (l :: ls)).any p = true) :
    ∃ t ts s', Run step s (t :: ts) s' ∧ t.label = l ∧ p (t :: ts, s') = true := by
  cases hr : exec step s (l :: ls) with
  | none => simp [hr] at h
  | some r =>
    obtain ⟨all, s'⟩ := r
    obtain ⟨t, ts, rfl, hlabel, -⟩ := List.map_eq_cons_iff.mp (map_label_of_exec hr)
    rw [hr, Option.any_some] at h
    exact ⟨t, ts, s', run_of_exec hr, hlabel, h⟩

end Lts
