import Mathlib.Data.List.Forall2
import ValetudoMatter.Lib.Coroutine

/-!
# Two runs of one coroutine

What a computation does not depend on. A relation `R` says in what two states may differ; a computation is alike under `R` if from
related states it emits the same, sends the same requests, ends the same way, and leaves related states, whatever related states
it is resumed in (`Co.Alike`). The rules build this up along the code. A pool whose calls are alike then steps alike
(`Pool.step_alike`): nothing that only changes a state within `R` can be told from what its tasks do.
-/

namespace Coroutine

variable {σ ν ρ β ε α α' γ γ' κ : Type} {R : σ → σ → Prop} {V : α → α' → Prop} {W : γ → γ' → Prop}

/-- Two outcomes that emit and send the same, from states that `R` relates to such states, and end in values that `V` relates. -/
inductive Outcome.Alike (R : σ → σ → Prop) (V : α → α' → Prop) :
    Outcome σ ν ρ β ε α → Outcome σ ν ρ β ε α' → Prop where
  | done {s s' : σ} {ns : List ν} {a : α} {a' : α'} : R s s' → V a a' → Alike R V (.exit s ns (.done a)) (.exit s' ns (.done a'))
  | fail {s s' : σ} {ns : List ν} {e : ε} : R s s' → Alike R V (.exit s ns (.fail e)) (.exit s' ns (.fail e))
  | abort {s s' : σ} {ns : List ν} : R s s' → Alike R V (.exit s ns .abort) (.exit s' ns .abort)
  | await {s s' : σ} {ns : List ν} {r : ρ} {k : β → σ → Outcome σ ν ρ β ε α} {k' : β → σ → Outcome σ ν ρ β ε α'} :
      R s s' → (∀ b t t', R t t' → Alike R V (k b t) (k' b t')) → Alike R V (.await s ns r k) (.await s' ns r k')

/-- Two computations that have such outcomes from all states that `R` relates. -/
def Co.Alike (R : σ → σ → Prop) (V : α → α' → Prop) (x : Co σ ν ρ β ε α) (x' : Co σ ν ρ β ε α') : Prop :=
  ∀ s s', R s s' → (x s).Alike R V (x' s')

/-! ## Rules -/

theorem Outcome.Alike.emit {o : Outcome σ ν ρ β ε α} {o' : Outcome σ ν ρ β ε α'} (h : o.Alike R V o') (ms : List ν) :
    (o.emit ms).Alike R V (o'.emit ms) := by
  rcases h with ⟨hR, hV⟩ | hR | hR | ⟨hR, hk⟩
  · exact .done hR hV
  · exact .fail hR
  · exact .abort hR
  · exact .await hR hk

theorem Outcome.Alike.bind {o : Outcome σ ν ρ β ε α} {o' : Outcome σ ν ρ β ε α'} (h : o.Alike R V o')
    {f : α → Co σ ν ρ β ε γ} {f' : α' → Co σ ν ρ β ε γ'} (hf : ∀ a a', V a a' → (f a).Alike R W (f' a')) :
    (o.bind f).Alike R W (o'.bind f') := by
  induction h with
  | done hR hV => exact (hf _ _ hV _ _ hR).emit _
  | fail hR => exact .fail hR
  | abort hR => exact .abort hR
  | await hR _ ih => exact .await hR ih

theorem Co.Alike.bind {x : Co σ ν ρ β ε α} {x' : Co σ ν ρ β ε α'} (hx : x.Alike R V x') {f : α → Co σ ν ρ β ε γ}
    {f' : α' → Co σ ν ρ β ε γ'} (hf : ∀ a a', V a a' → (f a).Alike R W (f' a')) : (x >>= f).Alike R W (x' >>= f') := by
  intro s s' hR
  exact (hx s s' hR).bind hf

theorem Co.Alike.pure {a : α} {a' : α'} (h : V a a') :
    (pure a : Co σ ν ρ β ε α).Alike R V (pure a' : Co σ ν ρ β ε α') := by
  intro s s' hR
  exact .done hR h

/-- What is read is related. -/
theorem Co.Alike.get : (Co.get : Co σ ν ρ β ε σ).Alike R R Co.get := by
  intro s s' hR
  exact .done hR hR

theorem Co.Alike.set {t t' : σ} (h : R t t') : (Co.set t : Co σ ν ρ β ε Unit).Alike R Eq (Co.set t') := by
  intro s s' _
  exact .done h rfl

theorem Co.Alike.emit (ns : List ν) : (Co.emit ns : Co σ ν ρ β ε Unit).Alike R Eq (Co.emit ns) := by
  intro s s' hR
  exact .done hR rfl

/-- The answers are the same. -/
theorem Co.Alike.await (r : ρ) : (Co.await r : Co σ ν ρ β ε β).Alike R Eq (Co.await r) := by
  intro s s' hR
  exact .await hR fun b t t' ht => .done ht rfl

theorem Co.Alike.fail (e : ε) : (Co.fail e : Co σ ν ρ β ε α).Alike R V (Co.fail e : Co σ ν ρ β ε α') := by
  intro s s' hR
  exact .fail hR

theorem Co.Alike.ofExcept (r : Except ε α) : (Co.ofExcept r : Co σ ν ρ β ε α).Alike R Eq (Co.ofExcept r) := by
  cases r with
  | ok a => exact .pure rfl
  | error e => exact .fail e

/-! ## Pools -/

/-- Two tasks of one call that go on alike. -/
structure Task.Alike (R : σ → σ → Prop) (t t' : Task σ ν ρ β ε α κ) : Prop where
  call : t'.call = t.call
  request : t'.request = t.request
  answer : t'.answer = t.answer
  resume : ∀ b s s', R s s' → (t.resume b s).Alike R Eq (t'.resume b s')

/-- Two pools with related states, whose tasks go on alike. -/
structure Pool.Alike (R : σ → σ → Prop) (p p' : Pool σ ν ρ β ε α κ) : Prop where
  state : R p.state p'.state
  tasks : List.Forall₂ (Task.Alike R) p.tasks p'.tasks
  alive : p'.alive = p.alive

/-- Alike outcomes are taken up alike. -/
theorem Pool.take_alike {p q : Pool σ ν ρ β ε α κ} {o o' : Outcome σ ν ρ β ε α} (ho : o.Alike R Eq o')
    (htasks : List.Forall₂ (Task.Alike R) p.tasks q.tasks) (halive : q.alive = p.alive) (c : κ) :
    (q.take c o').2 = (p.take c o).2 ∧ Pool.Alike R (p.take c o).1 (q.take c o').1 := by
  rcases ho with ⟨hR, rfl⟩ | hR | hR | ⟨hR, hk⟩
  · exact ⟨rfl, hR, htasks, halive⟩
  · exact ⟨rfl, hR, htasks, halive⟩
  · exact ⟨rfl, hR, htasks, rfl⟩
  · refine ⟨rfl, hR, ?_, halive⟩
    exact List.rel_append htasks (.cons ⟨rfl, rfl, rfl, hk⟩ .nil)

section Forall₂

variable {τ τ' : Type} {Q : τ → τ' → Prop} {xs : List τ} {ys : List τ'}

theorem exists_of_forall₂ (h : List.Forall₂ Q xs ys) {i : Nat} {x : τ} (hx : xs[i]? = some x) :
    ∃ y, ys[i]? = some y ∧ Q x y := by
  induction h generalizing i with
  | nil => cases hx
  | @cons a b _ _ hab _ ih =>
    rcases i with _ | i
    · cases hx
      exact ⟨b, rfl, hab⟩
    · exact ih hx

theorem forall₂_set (h : List.Forall₂ Q xs ys) (i : Nat) {x : τ} {y : τ'} (hxy : Q x y) :
    List.Forall₂ Q (xs.set i x) (ys.set i y) := by
  induction h generalizing i with
  | nil => exact .nil
  | cons hab htail ih =>
    rcases i with _ | i
    · exact .cons hxy htail
    · exact .cons hab (ih i)

theorem forall₂_eraseIdx (h : List.Forall₂ Q xs ys) (i : Nat) : List.Forall₂ Q (xs.eraseIdx i) (ys.eraseIdx i) := by
  induction h generalizing i with
  | nil => exact .nil
  | cons hab htail ih =>
    rcases i with _ | i
    · exact htail
    · exact .cons hab (ih i)

end Forall₂

/-- What one of two alike pools does, the other does, if the call is alike that it makes. -/
theorem Pool.step_alike {handle : κ → Co σ ν ρ β ε α} {p q p' : Pool σ ν ρ β ε α κ} {e : Event β κ}
    {seg : Option (Segment ν ρ ε α κ)} (hpq : p.Alike R q) (hcall : ∀ c, e = .call c → (handle c).Alike R Eq (handle c))
    (h : p.step handle e = some (p', seg)) : ∃ q', q.step handle e = some (q', seg) ∧ p'.Alike R q' := by
  obtain ⟨hstate, htasks, halive⟩ := hpq
  cases e with
  | call c =>
    simp only [step] at h
    split at h
    · rename_i hp
      cases h
      obtain ⟨hseg, hafter⟩ := take_alike (hcall c rfl _ _ hstate) htasks halive c
      refine ⟨(q.take c (handle c q.state)).1, ?_, hafter⟩
      simp only [step]
      rw [if_pos (halive.trans hp), ← hseg]
    · cases h
  | answer i b =>
    simp only [step] at h
    split at h
    · rename_i t ht
      split at h
      · rename_i hcond
        cases h
        obtain ⟨t', ht', halike⟩ := exists_of_forall₂ htasks ht
        refine ⟨{ q with tasks := q.tasks.set i { t' with answer := some b } }, ?_, hstate, ?_, halive⟩
        · simp only [step]
          rw [ht']
          exact if_pos ⟨halive.trans hcond.1, by rw [halike.answer]; exact hcond.2⟩
        · exact forall₂_set htasks i ⟨halike.call, halike.request, rfl, halike.resume⟩
      · cases h
    · cases h
  | resume i =>
    simp only [step] at h
    split at h
    · rename_i t ht
      split at h
      · rename_i b hb
        split at h
        · rename_i hp
          cases h
          obtain ⟨t', ht', halike⟩ := exists_of_forall₂ htasks ht
          obtain ⟨hseg, hafter⟩ := @take_alike _ _ _ _ _ _ _ _ { p with tasks := p.tasks.eraseIdx i }
            { q with tasks := q.tasks.eraseIdx i } _ _ (halike.resume b _ _ hstate) (forall₂_eraseIdx htasks i) halive t.call
          refine ⟨_, ?_, hafter⟩
          simp only [step]
          rw [ht']
          simp only [halike.answer, hb, halike.call, if_pos (halive.trans hp), hseg]
        · cases h
      · cases h
    · cases h

end Coroutine
