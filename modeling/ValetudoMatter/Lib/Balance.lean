import Mathlib.Algebra.BigOperators.Group.List.Basic
import Mathlib.Algebra.GroupWithZero.Nat
import Mathlib.Algebra.Order.Group.Multiset
import Mathlib.Data.List.Perm.Basic
import ValetudoMatter.Lib.Coroutine
import ValetudoMatter.Lib.Lts

/-!
# Balances

What is conserved along a run: where every transition balances a stock with what it gains and loses, so does the run
(`Run.balance`). For the tasks of a pool the stock is what waits: every task that starts to wait waits still or has been resumed
(`Pool.step_waits`), and every call has ended or waits (`Pool.step_calls`).
-/

namespace Lts

variable {S L O M : Type*} [AddCommMonoid M] {step : S → L → Option (S × O)}

/-- A run balances what each of its transitions balances. -/
theorem Run.balance {s s' : S} {ts : List (Transition S L O)} (h : Run step s ts s') (stock : S → M)
    (gain loss : Transition S L O → M) (hstep : ∀ t ∈ ts, stock t.before + gain t = stock t.after + loss t) :
    stock s + (ts.map gain).sum = stock s' + (ts.map loss).sum := by
  induction h with
  | nil s => rfl
  | @cons s s' s'' l o ts _ _ ih =>
    have hfirst : stock s + gain ⟨s, l, o, s'⟩ = stock s' + loss ⟨s, l, o, s'⟩ := hstep ⟨s, l, o, s'⟩ (by simp)
    have hrest := ih fun t ht => hstep t (List.mem_cons_of_mem _ ht)
    rw [List.map_cons, List.map_cons, List.sum_cons, List.sum_cons, ← add_assoc, hfirst, add_right_comm, hrest,
      add_right_comm, add_assoc, add_comm (loss _)]

/-- A sum of lists, as multisets, is what they have together. -/
theorem sum_map_coe {α β : Type*} (f : α → List β) (xs : List α) :
    (xs.map fun x => (f x : Multiset β)).sum = (xs.flatMap f : Multiset β) := by
  induction xs with
  | nil => rfl
  | cons x xs ih => rw [List.map_cons, List.sum_cons, ih, List.flatMap_cons, Multiset.coe_add]

/-- A sum of conditions is how often they hold. -/
theorem sum_map_toNat {α : Type*} (p : α → Bool) (xs : List α) : (xs.map fun x => (p x).toNat).sum = xs.countP p := by
  induction xs with
  | nil => rfl
  | cons x xs ih =>
    rw [List.map_cons, List.sum_cons, ih, List.countP_cons]
    cases p x <;> simp [add_comm]

end Lts

namespace Coroutine

variable {σ ν ρ β ε α κ γ : Type}

/-- The call that an event makes. -/
def Event.called : Event β κ → Multiset κ
  | .call c => {c}
  | .answer _ _ => 0
  | .resume _ => 0

/-- The call that a segment ends. -/
def Segment.ended : Option (Segment ν ρ ε α κ) → Multiset κ
  | some ⟨c, _, .exit _⟩ => {c}
  | some ⟨_, _, .await _⟩ => 0
  | none => 0

/-- The call that a segment leaves waiting, with its request. -/
def Segment.asked : Option (Segment ν ρ ε α κ) → Multiset (κ × ρ)
  | some ⟨_, _, .exit _⟩ => 0
  | some ⟨c, _, .await r⟩ => {(c, r)}
  | none => 0

/-- The calls that wait, with their requests. -/
def Pool.waits (p : Pool σ ν ρ β ε α κ) : Multiset (κ × ρ) := p.tasks.map fun t => (t.call, t.request)

/-- The call that an event resumes, with its request. -/
def Pool.resumed (p : Pool σ ν ρ β ε α κ) : Event β κ → Multiset (κ × ρ)
  | .call _ => 0
  | .answer _ _ => 0
  | .resume i => (p.tasks[i]?.map fun t => (t.call, t.request)).toList

/-- Taking up a segment adds what it asks for. -/
theorem Pool.take_waits (p : Pool σ ν ρ β ε α κ) (c : κ) (o : Outcome σ ν ρ β ε α) :
    p.waits + Segment.asked (some (p.take c o).2) = (p.take c o).1.waits ∧
      Segment.ended (some (p.take c o).2) + (Segment.asked (some (p.take c o).2)).map Prod.fst = {c} := by
  cases o with
  | exit s ns x => cases x <;> simp [take, waits, Segment.asked, Segment.ended]
  | await s ns r k => simp [take, waits, Segment.asked, Segment.ended, ← Multiset.coe_add]

/-- An answer that is recorded leaves what waits. -/
theorem Pool.waits_answer (p : Pool σ ν ρ β ε α κ) {i : Nat} {t : Task σ ν ρ β ε α κ} (ht : p.tasks[i]? = some t) (b : β) :
    ({ p with tasks := p.tasks.set i { t with answer := some b } } : Pool σ ν ρ β ε α κ).waits = p.waits := by
  have hset : (p.tasks.set i { t with answer := some b }).map (fun t => (t.call, t.request)) =
      p.tasks.map fun t => (t.call, t.request) := by
    apply List.ext_getElem?
    intro j
    by_cases hij : i = j
    · subst hij
      rw [List.getElem?_map, List.getElem?_map, List.getElem?_set_self', ht]
      rfl
    · simp [hij]
  unfold waits
  rw [hset]

/-- A task that waits is one of those that wait. -/
theorem Pool.waits_erase (p : Pool σ ν ρ β ε α κ) {i : Nat} {t : Task σ ν ρ β ε α κ} (ht : p.tasks[i]? = some t) :
    p.waits = ({ p with tasks := p.tasks.eraseIdx i } : Pool σ ν ρ β ε α κ).waits + {(t.call, t.request)} := by
  obtain ⟨hi, rfl⟩ := List.getElem?_eq_some_iff.mp ht
  have hperm := (List.getElem_cons_eraseIdx_perm hi).symm.map fun t => (t.call, t.request)
  rw [waits, Multiset.coe_eq_coe.mpr hperm, List.map_cons, ← Multiset.cons_coe, ← Multiset.singleton_add, add_comm]
  rfl

/-- What a step leaves waiting, waits; what it resumes does not; and what it calls or resumes ends or is left waiting. -/
theorem Pool.step_waits {handle : κ → Co σ ν ρ β ε α} {p p' : Pool σ ν ρ β ε α κ} {e : Event β κ}
    {seg : Option (Segment ν ρ ε α κ)} (h : p.step handle e = some (p', seg)) :
    p.waits + Segment.asked seg = p'.waits + p.resumed e ∧
      e.called + (p.resumed e).map Prod.fst = Segment.ended seg + (Segment.asked seg).map Prod.fst := by
  cases e with
  | call c =>
    simp only [step] at h
    split at h
    · cases h
      obtain ⟨hwaits, hcalls⟩ := p.take_waits c (handle c p.state)
      exact ⟨by rw [hwaits]; simp [resumed], by rw [hcalls]; simp [Event.called, resumed]⟩
    · cases h
  | answer i b =>
    simp only [step] at h
    split at h
    · rename_i t ht
      split at h
      · cases h
        rw [p.waits_answer ht b]
        simp [resumed, Event.called, Segment.asked, Segment.ended]
      · cases h
    · cases h
  | resume i =>
    simp only [step] at h
    split at h
    · rename_i t ht
      split at h
      · rename_i b hb
        split at h
        · cases h
          obtain ⟨hwaits, hcalls⟩ :=
            ({ p with tasks := p.tasks.eraseIdx i } : Pool σ ν ρ β ε α κ).take_waits t.call (t.resume b p.state)
          have hresumed : p.resumed (.resume i : Event β κ) = {(t.call, t.request)} := by simp [resumed, ht]
          refine ⟨?_, ?_⟩
          · rw [hresumed, ← hwaits, p.waits_erase ht, add_right_comm]
          · rw [hresumed, hcalls]
            simp [Event.called]
        · cases h
      · cases h
    · cases h

/-- What is called waits or has ended. -/
theorem Pool.step_calls {handle : κ → Co σ ν ρ β ε α} {p p' : Pool σ ν ρ β ε α κ} {e : Event β κ}
    {seg : Option (Segment ν ρ ε α κ)} (h : p.step handle e = some (p', seg)) :
    p.waits.map Prod.fst + e.called = p'.waits.map Prod.fst + Segment.ended seg := by
  obtain ⟨hwaits, hcalls⟩ := step_waits h
  have hfst := congrArg (Multiset.map Prod.fst) hwaits
  rw [Multiset.map_add, Multiset.map_add] at hfst
  -- what is resumed counts on both sides
  apply add_right_cancel (b := (p.resumed e).map Prod.fst)
  calc p.waits.map Prod.fst + e.called + (p.resumed e).map Prod.fst
      = p.waits.map Prod.fst + (Segment.asked seg).map Prod.fst + Segment.ended seg := by
        rw [add_assoc, hcalls, add_comm (Segment.ended seg), add_assoc]
    _ = p'.waits.map Prod.fst + Segment.ended seg + (p.resumed e).map Prod.fst := by rw [hfst, add_right_comm]

end Coroutine
