import Mathlib.Data.List.Basic

/-!
# Coroutines over a shared state

Asynchronous code as it is written: a computation that reads and writes a shared state, emits notifications, may fail or abort,
and now and then awaits the answer to a request. Between two awaits it runs alone (a *segment*); while it waits, anything may
happen to the state. `Outcome.Keeps` says that each segment of a computation meets a guarantee, whatever the state it is resumed
in and whatever the answer; and the tasks of a `Pool`, in whatever order they are started, answered and resumed, then meet it
too (`Pool.step_keeps`).

The types are: `σ` the state, `ν` what is emitted, `ρ` requests, `β` answers, `ε` errors, `κ` the calls that start a task.
-/

namespace Coroutine

variable {σ ν ρ β ε α γ κ : Type}

/-- How a computation ends. -/
inductive Exit (ε α : Type) where
  | done (a : α)
  | fail (e : ε)
  | abort
  deriving DecidableEq, Repr

/-- Where a segment stops: at the end, or at an await. -/
inductive Stop (ρ ε α : Type) where
  | exit (x : Exit ε α)
  | await (r : ρ)
  deriving DecidableEq, Repr

/-- What running a computation gives: the state after its first segment, what that segment emits, and how it ends or what it
awaits and how it goes on. -/
inductive Outcome (σ ν ρ β ε α : Type) where
  | exit (s : σ) (ns : List ν) (x : Exit ε α)
  | await (s : σ) (ns : List ν) (r : ρ) (k : β → σ → Outcome σ ν ρ β ε α)

/-- Emit before what is emitted. -/
def Outcome.emit (ms : List ν) : Outcome σ ν ρ β ε α → Outcome σ ν ρ β ε α
  | .exit s ns x => .exit s (ms ++ ns) x
  | .await s ns r k => .await s (ms ++ ns) r k

/-- A coroutine. -/
def Co (σ ν ρ β ε α : Type) : Type := σ → Outcome σ ν ρ β ε α

/-- Go on with another computation where one is done. -/
def Outcome.bind (f : α → Co σ ν ρ β ε γ) : Outcome σ ν ρ β ε α → Outcome σ ν ρ β ε γ
  | .exit s ns (.done a) => (f a s).emit ns
  | .exit s ns (.fail e) => .exit s ns (.fail e)
  | .exit s ns .abort => .exit s ns .abort
  | .await s ns r k => .await s ns r fun b s' => (k b s').bind f

instance : Monad (Co σ ν ρ β ε) where
  pure a := fun s => .exit s [] (.done a)
  bind x f := fun s => (x s).bind f

namespace Co

/-- Read the state. -/
def get : Co σ ν ρ β ε σ := fun s => .exit s [] (.done s)

/-- Replace the state. -/
def set (s : σ) : Co σ ν ρ β ε Unit := fun _ => .exit s [] (.done ())

/-- Emit. -/
def emit (ns : List ν) : Co σ ν ρ β ε Unit := fun s => .exit s ns (.done ())

/-- Send a request and wait for its answer. -/
def await (r : ρ) : Co σ ν ρ β ε β := fun s => .await s [] r fun b s' => .exit s' [] (.done b)

/-- End with an error. -/
def fail (e : ε) : Co σ ν ρ β ε α := fun s => .exit s [] (.fail e)

/-- Bring the process down. -/
def abort : Co σ ν ρ β ε α := fun s => .exit s [] .abort

/-- Go on with a value, or end with an error. -/
def ofExcept : Except ε α → Co σ ν ρ β ε α
  | .ok a => pure a
  | .error e => fail e

end Co

/-! ## Running -/

@[simp] theorem Co.pure_apply (a : α) (s : σ) : (pure a : Co σ ν ρ β ε α) s = .exit s [] (.done a) := rfl

@[simp] theorem Co.bind_apply (x : Co σ ν ρ β ε α) (f : α → Co σ ν ρ β ε γ) (s : σ) :
    (x >>= f) s = (x s).bind f := rfl

@[simp] theorem Co.ite_apply (p : Prop) [Decidable p] (x y : Co σ ν ρ β ε α) (s : σ) :
    (if p then x else y) s = if p then x s else y s := by
  split <;> rfl

@[simp] theorem Co.get_apply (s : σ) : (get : Co σ ν ρ β ε σ) s = .exit s [] (.done s) := rfl

@[simp] theorem Co.set_apply (s s' : σ) : (set s' : Co σ ν ρ β ε Unit) s = .exit s' [] (.done ()) := rfl

@[simp] theorem Co.emit_apply (ns : List ν) (s : σ) :
    (emit ns : Co σ ν ρ β ε Unit) s = .exit s ns (.done ()) := rfl

@[simp] theorem Co.await_apply (r : ρ) (s : σ) :
    (await r : Co σ ν ρ β ε β) s = .await s [] r fun b s' => .exit s' [] (.done b) := rfl

@[simp] theorem Co.fail_apply (e : ε) (s : σ) : (fail e : Co σ ν ρ β ε α) s = .exit s [] (.fail e) := rfl

@[simp] theorem Co.abort_apply (s : σ) : (abort : Co σ ν ρ β ε α) s = .exit s [] .abort := rfl

@[simp] theorem Co.ofExcept_ok (a : α) : (ofExcept (.ok a) : Co σ ν ρ β ε α) = pure a := rfl

@[simp] theorem Co.ofExcept_error (e : ε) : (ofExcept (.error e) : Co σ ν ρ β ε α) = fail e := rfl

@[simp] theorem Outcome.emit_exit (ms ns : List ν) (s : σ) (x : Exit ε α) :
    (Outcome.exit s ns x : Outcome σ ν ρ β ε α).emit ms = .exit s (ms ++ ns) x := rfl

@[simp] theorem Outcome.emit_await (ms ns : List ν) (s : σ) (r : ρ) (k : β → σ → Outcome σ ν ρ β ε α) :
    (Outcome.await s ns r k).emit ms = .await s (ms ++ ns) r k := rfl

@[simp] theorem Outcome.emit_nil (o : Outcome σ ν ρ β ε α) : o.emit [] = o := by
  cases o <;> rfl

@[simp] theorem Outcome.bind_done (f : α → Co σ ν ρ β ε γ) (s : σ) (ns : List ν) (a : α) :
    (Outcome.exit s ns (.done a)).bind f = (f a s).emit ns := rfl

@[simp] theorem Outcome.bind_fail (f : α → Co σ ν ρ β ε γ) (s : σ) (ns : List ν) (e : ε) :
    (Outcome.exit s ns (.fail e)).bind f = .exit s ns (.fail e) := rfl

@[simp] theorem Outcome.bind_abort (f : α → Co σ ν ρ β ε γ) (s : σ) (ns : List ν) :
    (Outcome.exit s ns .abort).bind f = .exit s ns .abort := rfl

@[simp] theorem Outcome.bind_await (f : α → Co σ ν ρ β ε γ) (s : σ) (ns : List ν) (r : ρ)
    (k : β → σ → Outcome σ ν ρ β ε α) :
    (Outcome.await s ns r k).bind f = .await s ns r fun b s' => (k b s').bind f := rfl

/-! ## Computations that do not wait -/

/-- A computation ends without an await: it emits only what satisfies `P`, and where it is done its result and the state
satisfy `Q`. -/
def Co.Ends (P : ν → Prop) (Q : α → σ → Prop) (x : Co σ ν ρ β ε α) (s : σ) : Prop :=
  ∃ s' ns e, x s = .exit s' ns e ∧ (∀ n ∈ ns, P n) ∧ ∀ a, e = .done a → Q a s'

theorem Co.Ends.pure {P : ν → Prop} {Q : α → σ → Prop} {a : α} {s : σ} (h : Q a s) :
    Co.Ends P Q (Pure.pure a : Co σ ν ρ β ε α) s :=
  ⟨s, [], .done a, rfl, by simp, fun a' h' => by cases h'; exact h⟩

theorem Co.Ends.fail {P : ν → Prop} {Q : α → σ → Prop} (e : ε) (s : σ) :
    Co.Ends P Q (Co.fail e : Co σ ν ρ β ε α) s :=
  ⟨s, [], .fail e, rfl, by simp, nofun⟩

/-- One computation after another. -/
theorem Co.Ends.bind {P : ν → Prop} {Q : α → σ → Prop} {R : γ → σ → Prop} {x : Co σ ν ρ β ε α}
    {f : α → Co σ ν ρ β ε γ} {s : σ} (hx : x.Ends P Q s) (hf : ∀ a s', Q a s' → (f a).Ends P R s') :
    (x >>= f).Ends P R s := by
  obtain ⟨s', ns, e, hxs, hns, hdone⟩ := hx
  cases e with
  | done a =>
    obtain ⟨s'', ms, e', hfs, hms, hdone'⟩ := hf a s' (hdone a rfl)
    refine ⟨s'', ns ++ ms, e', by simp [hxs, hfs], ?_, hdone'⟩
    intro n hn
    rcases List.mem_append.mp hn with hn | hn
    · exact hns n hn
    · exact hms n hn
  | fail e => exact ⟨s', ns, .fail e, by simp [hxs], hns, nofun⟩
  | abort => exact ⟨s', ns, .abort, by simp [hxs], hns, nofun⟩

/-! ## Guarantees -/

/-- What starts a segment: the call, or the answer to a request. -/
inductive Cause (ρ β : Type) where
  | call
  | answer (r : ρ) (b : β)

/-- A guarantee about one segment: what starts it, the state before and after it, what it emits, and where it stops. -/
abbrev Guarantee (σ ν ρ β ε α : Type) : Type := Cause ρ β → σ → σ → List ν → Stop ρ ε α → Prop

/-- Every segment of a computation meets a guarantee, whatever the answers and whatever the state when they come. -/
def Outcome.Keeps (G : Guarantee σ ν ρ β ε α) (c : Cause ρ β) (s : σ) : Outcome σ ν ρ β ε α → Prop
  | .exit s' ns x => G c s s' ns (.exit x)
  | .await s' ns r k => G c s s' ns (.await r) ∧ ∀ b s'', (k b s'').Keeps G (.answer r b) s''

/-- However its requests are answered, a computation ends as `P` says. -/
def Outcome.Always (P : Exit ε α → Prop) : Outcome σ ν ρ β ε α → Prop
  | .exit _ _ x => P x
  | .await _ _ _ k => ∀ b s, (k b s).Always P

/-! ## Tasks -/

/-- A task that waits: the call it runs, the request it has sent, the answer once it is there, and how it goes on. -/
structure Task (σ ν ρ β ε α κ : Type) where
  call : κ
  request : ρ
  answer : Option β
  resume : β → σ → Outcome σ ν ρ β ε α

/-- The shared state, the tasks that wait, and whether the process still runs. -/
structure Pool (σ ν ρ β ε α κ : Type) where
  state : σ
  tasks : List (Task σ ν ρ β ε α κ)
  alive : Bool

/-- What happens to a pool: a call starts a task, an answer arrives for the `i`-th, the `i`-th is resumed. -/
inductive Event (β κ : Type) where
  | call (c : κ)
  | answer (i : Nat) (b : β)
  | resume (i : Nat)
  deriving DecidableEq, Repr

/-- The segment that a step of a pool runs. -/
structure Segment (ν ρ ε α κ : Type) where
  call : κ
  emitted : List ν
  stop : Stop ρ ε α

/-- Take up what running a segment gives. -/
def Pool.take (p : Pool σ ν ρ β ε α κ) (c : κ) :
    Outcome σ ν ρ β ε α → Pool σ ν ρ β ε α κ × Segment ν ρ ε α κ
  | .exit s ns .abort => ({ p with state := s, alive := false }, ⟨c, ns, .exit .abort⟩)
  | .exit s ns x => ({ p with state := s }, ⟨c, ns, .exit x⟩)
  | .await s ns r k => ({ p with state := s, tasks := p.tasks ++ [⟨c, r, none, k⟩] }, ⟨c, ns, .await r⟩)

/-- One step of a pool of the tasks that `handle` describes. -/
def Pool.step (handle : κ → Co σ ν ρ β ε α) (p : Pool σ ν ρ β ε α κ) :
    Event β κ → Option (Pool σ ν ρ β ε α κ × Option (Segment ν ρ ε α κ))
  | .call c =>
    if p.alive then
      let (p', seg) := p.take c (handle c p.state)
      some (p', some seg)
    else none
  | .answer i b =>
    match p.tasks[i]? with
    | some t =>
      if p.alive ∧ t.answer.isNone then
        some ({ p with tasks := p.tasks.set i { t with answer := some b } }, none)
      else none
    | none => none
  | .resume i =>
    match p.tasks[i]? with
    | some t =>
      match t.answer with
      | some b =>
        if p.alive then
          let (p', seg) := { p with tasks := p.tasks.eraseIdx i }.take t.call (t.resume b p.state)
          some (p', some seg)
        else none
      | none => none
    | none => none

/-- A pool that steps is alive, and dies where the segment aborts. -/
theorem Pool.step_alive {handle : κ → Co σ ν ρ β ε α} {p p' : Pool σ ν ρ β ε α κ} {e : Event β κ}
    {o : Option (Segment ν ρ ε α κ)} (h : p.step handle e = some (p', o)) :
    p.alive ∧ (p'.alive = false ↔ ∃ seg ∈ o, seg.stop = .exit .abort) := by
  have htake : ∀ (q : Pool σ ν ρ β ε α κ) (c : κ) (out : Outcome σ ν ρ β ε α), q.alive →
      ((q.take c out).1.alive = false ↔ ∃ seg ∈ some (q.take c out).2, seg.stop = .exit .abort) := by
    intro q c out hq
    cases out with
    | exit s ns x => cases x <;> simp [take, hq]
    | await s ns r k => simp [take, hq]
  cases e with
  | call c =>
    simp only [step] at h
    split at h
    · rename_i halive
      cases h
      exact ⟨halive, htake p c _ halive⟩
    · cases h
  | answer i b =>
    simp only [step] at h
    split at h
    · split at h
      · rename_i hcond
        cases h
        exact ⟨hcond.1, by simp [hcond.1]⟩
      · cases h
    · cases h
  | resume i =>
    simp only [step] at h
    split at h
    · split at h
      · split at h
        · rename_i halive
          cases h
          exact ⟨halive, htake _ _ _ halive⟩
        · cases h
      · cases h
    · cases h

/-- A task that waits can be answered. -/
theorem Pool.step_answer {handle : κ → Co σ ν ρ β ε α} {p : Pool σ ν ρ β ε α κ} {i : Nat} {t : Task σ ν ρ β ε α κ}
    (halive : p.alive) (ht : p.tasks[i]? = some t) (hnone : t.answer = none) (b : β) :
    p.step handle (.answer i b) = some ({ p with tasks := p.tasks.set i { t with answer := some b } }, none) := by
  simp [step, halive, ht, hnone]

/-- A task that is answered can be resumed. -/
theorem Pool.step_resume {handle : κ → Co σ ν ρ β ε α} {p : Pool σ ν ρ β ε α κ} {i : Nat} {t : Task σ ν ρ β ε α κ} {b : β}
    (halive : p.alive) (ht : p.tasks[i]? = some t) (hb : t.answer = some b) :
    ∃ p' seg, p.step handle (.resume i) = some (p', seg) := by
  simp [step, halive, ht, hb]

/-! ## Guarantees of a pool -/

/-- A task meets the guarantee of its call from here on. -/
def Task.Sound (G : κ → Guarantee σ ν ρ β ε α) (t : Task σ ν ρ β ε α κ) : Prop :=
  ∀ b s, (t.resume b s).Keeps (G t.call) (.answer t.request b) s

/-- The tasks that wait after a segment of a call: those before it, and one more if the segment stops at an await. -/
def TasksAfter (ts : List (Task σ ν ρ β ε α κ)) (c : κ) : Stop ρ ε α → List (Task σ ν ρ β ε α κ) → Prop
  | .exit _, ts' => ts' = ts
  | .await r, ts' => ∃ k, ts' = ts ++ [⟨c, r, none, k⟩]

variable {G : κ → Guarantee σ ν ρ β ε α}

/-- Taking up a segment that keeps the guarantee: the segment meets it, and so will the tasks that wait after it. -/
theorem Pool.take_keeps {p : Pool σ ν ρ β ε α κ} {c : κ} {cause : Cause ρ β} {s : σ} {o : Outcome σ ν ρ β ε α}
    (ho : o.Keeps (G c) cause s) (hp : ∀ t ∈ p.tasks, t.Sound G) :
    G c cause s (p.take c o).1.state (p.take c o).2.emitted (p.take c o).2.stop ∧
      (p.take c o).2 = ⟨c, (p.take c o).2.emitted, (p.take c o).2.stop⟩ ∧
      TasksAfter p.tasks c (p.take c o).2.stop (p.take c o).1.tasks ∧
      ∀ t ∈ (p.take c o).1.tasks, t.Sound G := by
  cases o with
  | exit s' ns x => cases x <;> exact ⟨ho, rfl, rfl, hp⟩
  | await s' ns r k =>
    obtain ⟨hseg, hk⟩ := ho
    refine ⟨hseg, rfl, ⟨k, rfl⟩, ?_⟩
    intro t ht
    rcases List.mem_append.mp ht with ht | ht
    · exact hp t ht
    · rw [List.mem_singleton.mp ht]
      exact hk

/-- What a step of a pool does, by the event: it runs a segment that meets the guarantee of its call, or records an answer. -/
def Pool.StepMeets (G : κ → Guarantee σ ν ρ β ε α) (p : Pool σ ν ρ β ε α κ) (e : Event β κ)
    (p' : Pool σ ν ρ β ε α κ) (o : Option (Segment ν ρ ε α κ)) : Prop :=
  match e with
  | .call c => ∃ ns stop, o = some ⟨c, ns, stop⟩ ∧ G c .call p.state p'.state ns stop ∧
      TasksAfter p.tasks c stop p'.tasks
  | .answer i b => ∃ t, p.tasks[i]? = some t ∧ t.answer = none ∧ o = none ∧ p'.state = p.state ∧
      p'.tasks = p.tasks.set i { t with answer := some b }
  | .resume i => ∃ t b ns stop, p.tasks[i]? = some t ∧ t.answer = some b ∧ o = some ⟨t.call, ns, stop⟩ ∧
      G t.call (.answer t.request b) p.state p'.state ns stop ∧ TasksAfter (p.tasks.eraseIdx i) t.call stop p'.tasks

/-- Every step of a pool meets the guarantees of its calls, and its tasks go on meeting them, if every call meets its
guarantee from its first segment on. -/
theorem Pool.step_keeps {handle : κ → Co σ ν ρ β ε α} (hhandle : ∀ c s, (handle c s).Keeps (G c) .call s)
    {p p' : Pool σ ν ρ β ε α κ} {e : Event β κ} {o : Option (Segment ν ρ ε α κ)}
    (hp : ∀ t ∈ p.tasks, t.Sound G) (h : p.step handle e = some (p', o)) :
    p.StepMeets G e p' o ∧ ∀ t ∈ p'.tasks, t.Sound G := by
  cases e with
  | call c =>
    simp only [step] at h
    split at h
    · cases h
      obtain ⟨hseg, hcall, htasks, hsound⟩ := take_keeps (hhandle c p.state) hp
      exact ⟨⟨_, _, congrArg some hcall, hseg, htasks⟩, hsound⟩
    · cases h
  | answer i b =>
    simp only [step] at h
    split at h
    · rename_i t ht
      split at h
      · rename_i hcond
        cases h
        refine ⟨⟨t, ht, by simpa using hcond.2, rfl, rfl, rfl⟩, ?_⟩
        intro t' ht'
        rcases List.mem_or_eq_of_mem_set ht' with ht' | rfl
        · exact hp t' ht'
        · exact hp t (List.mem_of_getElem? ht)
      · cases h
    · cases h
  | resume i =>
    simp only [step] at h
    split at h
    · rename_i t ht
      split at h
      · rename_i b hb
        split at h
        · cases h
          have htsound := hp t (List.mem_of_getElem? ht) b p.state
          have hrest : ∀ t' ∈ ({ p with tasks := p.tasks.eraseIdx i } : Pool σ ν ρ β ε α κ).tasks, t'.Sound G :=
            fun t' ht' => hp t' (List.mem_of_mem_eraseIdx ht')
          obtain ⟨hseg, hcall, htasks, hsound⟩ := take_keeps htsound hrest
          exact ⟨⟨t, b, _, _, ht, hb, congrArg some hcall, hseg, htasks⟩, hsound⟩
        · cases h
      · cases h
    · cases h

end Coroutine
