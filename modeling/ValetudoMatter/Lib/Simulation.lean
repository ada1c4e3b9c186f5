import ValetudoMatter.Lib.Lts

/-!
# Forward simulation

Two transition systems with observations on their transitions. A simulation relates their states so that every step of the one
that is in question is matched by a run of the other, of any length, with the same observations; then every run of such steps is,
by one that visits related states (`Simulation.run`).
-/

namespace Lts

variable {S L O S' L' O' β : Type*}

/-- `step'` simulates the steps of `step` that satisfy `P`: what is related before such a step of the one is related after a run
of the other that observes the same. -/
structure Simulation (step : S → L → Option (S × O)) (step' : S' → L' → Option (S' × O')) (P : Transition S L O → Prop)
    (observe : Transition S L O → List β) (observe' : Transition S' L' O' → List β) where
  rel : S → S' → Prop
  match_step : ∀ (t : Transition S L O) (a : S'), t.Valid step → P t → rel t.before a →
    ∃ us a', Run step' a us a' ∧ us.flatMap observe' = observe t ∧ rel t.after a'

variable {step : S → L → Option (S × O)} {step' : S' → L' → Option (S' × O')} {P : Transition S L O → Prop}
  {observe : Transition S L O → List β} {observe' : Transition S' L' O' → List β}

/-- Every run of such steps is matched by one with the same observations, which visits a related state for every state that it
visits. -/
theorem Simulation.run (R : Simulation step step' P observe observe') {s s' : S} {ts : List (Transition S L O)}
    (h : Run step s ts s') (hP : ∀ t ∈ ts, P t) {a : S'} (ha : R.rel s a) :
    ∃ us a', Run step' a us a' ∧ us.flatMap observe' = ts.flatMap observe ∧ R.rel s' a' ∧
      ∀ x ∈ visited s ts, ∃ y ∈ visited a us, R.rel x y := by
  induction h generalizing a with
  | nil s => exact ⟨[], a, .nil a, rfl, ha, by simpa [visited] using ha⟩
  | @cons s s' s'' l o ts hstep _ ih =>
    obtain ⟨us, a', hrun, hobs, ha'⟩ := R.match_step ⟨s, l, o, s'⟩ a hstep (hP _ List.mem_cons_self) ha
    obtain ⟨vs, a'', hrun', hobs', ha'', hvisited⟩ := ih (fun t ht => hP t (List.mem_cons_of_mem _ ht)) ha'
    refine ⟨us ++ vs, a'', hrun.append hrun', by simp [hobs, hobs'], ha'', ?_⟩
    intro x hx
    rcases List.mem_cons.mp hx with rfl | hx
    · exact ⟨a, by simp [visited], ha⟩
    · obtain ⟨y, hy, hxy⟩ := hvisited x hx
      exact ⟨y, mem_visited_append hrun hy, hxy⟩

end Lts
