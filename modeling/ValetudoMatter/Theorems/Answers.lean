import ValetudoMatter.Lemmas.Init
import ValetudoMatter.Lemmas.Replies
import ValetudoMatter.Lemmas.Wire
import ValetudoMatter.Theorems.Client

/-!
# The exchange behind a reply

What a controller is told of a command that has waited is what became of the exchange of its own PUT: every command that waits
has been called and has sent its request, and the answer that it holds is the result of an exchange of that request since
(`CommandTask.History`). So it is acknowledged only on a response of status 200 (`replies_answered`).
-/

namespace ValetudoMatter

open Coroutine

/-! ## What a step on the wire does to the tasks -/

/-- The exchange of a PUT has a result. -/
def Api.Puts (api : Api) (net : Network) (r : HttpRequest) : Except AnyhowError Unit → Prop
  | .ok () => (api.client.put net r.path r.body).outcome.2 = .done ()
  | .error e => (api.client.put net r.path r.body).outcome.2 = .fail e

/-- A step on the wire as a step of the program: the answer to a PUT is the result of its exchange, and the monitor leaves the
tasks. -/
def WireLabel.Acts (api : Api) (w w' : Wire) (o : Out) : WireLabel → Prop
  | .call c => w.bridge.step (.task (.call c)) = some (w'.bridge, o)
  | .answer i net => ∃ t res, w.tasks.tasks[i]? = some t ∧ api.Puts net t.request res ∧
      w.bridge.step (.task (.answer i res)) = some (w'.bridge, o)
  | .resume i => w.bridge.step (.task (.resume i)) = some (w'.bridge, o)
  | .monitor _ => w'.tasks.tasks = w.tasks.tasks

theorem Wire.run_acts {w w' : Wire} {e : Event (Except AnyhowError Unit) Command} {o : Out} (h : w.run e = some (w', o)) :
    w.bridge.step (.task e) = some (w'.bridge, o) := by
  obtain ⟨⟨p, seg⟩, hp, heq⟩ := Option.map_eq_some_iff.mp h
  cases heq
  exact Bridge.task_step hp

/-- A step on the wire is such a step of the program. -/
theorem Wire.step_acts {api : Api} {w w' : Wire} {l : WireLabel} {o : Out} (h : w.step api l = some (w', o)) :
    l.Acts api w w' o := by
  rcases l with c | ⟨i, net⟩ | i | ev
  · exact run_acts h
  · simp only [step] at h
    split at h
    · rename_i t ht
      rcases api.client.put_cases net t.request.path t.request.body with ⟨req, resp, -, -, hput⟩ | ⟨sent, e, -, hput⟩
      · rw [hput] at h
        exact ⟨t, .ok (), ht, congrArg Prod.snd hput, run_acts h⟩
      · rw [hput] at h
        exact ⟨t, .error e, ht, congrArg Prod.snd hput, run_acts h⟩
    · cases h
  · exact run_acts h
  · have hdoes := step_cases h
    cases hdoes with
    | task hl _ => exact absurd rfl (hl ev)
    | monitor _ _ => rfl

/-! ## Where a waiting command comes from -/

/-- The command has been called, and has sent its request. -/
def CommandTask.Called (task : CommandTask) (us : List WireStep) : Prop :=
  ∃ v ∈ us, v.label = .call task.call ∧ task.request ∈ v.out.sent

/-- Since then its request has been exchanged with a result, while it waited for that. -/
def CommandTask.Answered (api : Api) (task : CommandTask) (us : List WireStep) (res : Except AnyhowError Unit) : Prop :=
  ∃ vs u ws j net, us = vs ++ u :: ws ∧ task.Called vs ∧ u.label = .answer j net ∧
    u.before.tasks.tasks[j]? = some { task with answer := none } ∧ api.Puts net task.request res

/-- Where a command that waits comes from, and the answer that it holds. -/
structure CommandTask.History (api : Api) (us : List WireStep) (task : CommandTask) : Prop where
  called : task.Called us
  answered : ∀ res, task.answer = some res → task.Answered api us res

theorem CommandTask.Called.snoc {task : CommandTask} {us : List WireStep} (h : task.Called us) (t : WireStep) :
    task.Called (us ++ [t]) := by
  obtain ⟨v, hv, hcall⟩ := h
  exact ⟨v, List.mem_append_left _ hv, hcall⟩

theorem CommandTask.History.snoc {api : Api} {task : CommandTask} {us : List WireStep} (h : task.History api us)
    (t : WireStep) : task.History api (us ++ [t]) where
  called := h.called.snoc t
  answered := by
    intro res hres
    obtain ⟨vs, u, ws, j, net, rfl, hanswered⟩ := h.answered res hres
    exact ⟨vs, u, ws ++ [t], j, net, by simp, hanswered⟩

/-- A step keeps the history of every command that waits. -/
theorem WireStep.history {api : Api} {us : List WireStep} {t : WireStep} (h : t.Valid (Wire.step api))
    (hgood : t.before.bridge.Good) (ih : ∀ task ∈ t.before.tasks.tasks, CommandTask.History api us task) :
    ∀ task ∈ t.after.tasks.tasks, CommandTask.History api (us ++ [t]) task := by
  obtain ⟨w, l, o, w'⟩ := t
  have hacts : l.Acts api w w' o := Wire.step_acts h
  intro task htask
  rcases l with c | ⟨i, net⟩ | i | ev
  · obtain ⟨-, stop, -, hafter, hsent⟩ := (Bridge.step_does hgood hacts).1
    rcases stop with x | r
    · rw [show w'.tasks.tasks = w.tasks.tasks from hafter] at htask
      exact (ih task htask).snoc _
    · obtain ⟨k, hk⟩ := hafter
      rw [show w'.tasks.tasks = w.tasks.tasks ++ _ from hk] at htask
      rcases List.mem_append.mp htask with hold | hnew
      · exact (ih task hold).snoc _
      · obtain rfl := List.mem_singleton.mp hnew
        exact ⟨⟨_, List.mem_append_right us List.mem_cons_self, rfl, (hsent r).mpr rfl⟩, by simp⟩
  · obtain ⟨t₀, res, ht₀, hputs, hstep⟩ := hacts
    obtain ⟨-, -, -, t₁, ht₁, hnone, hset⟩ := (Bridge.step_does hgood hstep).1
    obtain rfl : t₁ = t₀ := Option.some.inj (ht₁.symm.trans ht₀)
    rw [show w'.tasks.tasks = w.tasks.tasks.set i _ from hset] at htask
    rcases List.mem_or_eq_of_mem_set htask with hold | rfl
    · exact (ih task hold).snoc _
    · -- the command that the answer is for
      have hcalled := (ih t₁ (List.mem_of_getElem? ht₀)).called
      refine ⟨hcalled.snoc _, ?_⟩
      rintro res' ⟨⟩
      refine ⟨us, _, [], i, net, rfl, hcalled, rfl, ?_, hputs⟩
      rw [ht₀]
      obtain ⟨call, request, answer, resume⟩ := t₁
      obtain rfl : answer = none := hnone
      rfl
  · obtain ⟨-, -, herase, -⟩ := (Bridge.step_does hgood hacts).1
    rw [show w'.tasks.tasks = w.tasks.tasks.eraseIdx i from herase] at htask
    exact (ih task (List.mem_of_mem_eraseIdx htask)).snoc _
  · rw [show w'.tasks.tasks = w.tasks.tasks from hacts] at htask
    exact (ih task htask).snoc _

/-- Every command that waits in a run has its history there. -/
theorem Wire.Run.history_tasks {api : Api} {d : Device} {w : Wire} {us : List WireStep}
    (h : Wire.Run api (.start d) us w) : ∀ task ∈ w.tasks.tasks, CommandTask.History api us task :=
  Lts.Run.history (P := fun us w => ∀ task ∈ w.tasks.tasks, CommandTask.History api us task) h (by simp [Wire.start])
    fun _ t hrun ih => WireStep.history (hrun.valid t (by simp)) ((Wire.Run.good hrun).2 t (by simp)).1 ih

/-! ## The reply -/

/-- What a resumed command replies on the wire. -/
theorem Wire.Run.resumed {api : Api} {d : Device} {w : Wire} {us vs : List WireStep} {t : WireStep} {i : Nat}
    (h : Wire.Run api (.start d) (us ++ t :: vs) w) (hlabel : t.label = .resume i) :
    ∃ task res, t.before.tasks.tasks[i]? = some task ∧ task.answer = some res ∧
      t.out.replied = some (task.call, report task.call.acknowledgement res) := by
  have hrel : SameState (.start d) (.start d) := ⟨rfl, rfl⟩
  obtain ⟨us', b, hrun, -, hsame, -⟩ := (wireSimulation api).run h.before (fun _ _ => trivial) hrel
  obtain rfl := hsame.eq_bridge
  have hacts := Wire.step_acts (h.valid t (by simp))
  rw [hlabel] at hacts
  have hall : Bridge.Run (.start d) (us' ++ [⟨t.before.bridge, .task (.resume i), t.out, t.after.bridge⟩]) t.after.bridge :=
    Lts.Run.append hrun (.single hacts)
  obtain ⟨task, res, htask, hres, -, hreplied⟩ := hall.replies ⟨t.before.bridge, .task (.resume i), t.out, t.after.bridge⟩
    (by simp)
  exact ⟨task, res, htask, hres, hreplied⟩

/-- A reply says what became of the PUT. In every run on the wire from the start, whatever the network does and however the steps
interleave: when a command that has waited is resumed, it has been called and has sent its PUT before, and after that, while it
waited for it, an exchange of this very PUT has been over; and either that has met a response of status 200, and the command is
acknowledged, or it has failed, and the reply is a failure with the error of that exchange. -/
theorem replies_answered {api : Api} {d : Device} {w : Wire} {us vs : List WireStep} {t : WireStep} {i : Nat}
    (h : Wire.Run api (.start d) (us ++ t :: vs) w) (hlabel : t.label = .resume i) :
    ∃ (task : CommandTask) (res : Except AnyhowError Unit) (before after : List WireStep) (u : WireStep) (j : Nat)
        (net : Network),
      us = before ++ u :: after ∧ (∃ v ∈ before, v.label = .call task.call ∧ task.request ∈ v.out.sent) ∧
      u.label = .answer j net ∧ u.before.tasks.tasks[j]? = some task ∧
      t.before.tasks.tasks[i]? = some { task with answer := some res } ∧
      ((∃ req resp, (api.client.put net task.request.path task.request.body).outcome = ([req], .done ()) ∧
          net.sendRequest req = .ok resp ∧ resp.status = 200 ∧
          t.out.replied = some (task.call, .done task.call.acknowledgement)) ∨
        ∃ e, (api.client.put net task.request.path task.request.body).outcome.2 = .fail e ∧
          t.out.replied = some (task.call, .fail { code := .failure, details := some e })) := by
  obtain ⟨task, res, htask, hres, hreplied⟩ := Wire.Run.resumed h hlabel
  have hbefore : Wire.Run api (.start d) us t.before := h.before
  have hhistory := hbefore.history_tasks task (List.mem_of_getElem? htask)
  obtain ⟨before, u, after, j, net, hus, hcalled, hanswer, hwaits, hputs⟩ := hhistory.answered res hres
  have hheld : task = { task with answer := some res } := by
    obtain ⟨call, request, answer, resume⟩ := task
    obtain rfl : answer = some res := hres
    rfl
  refine ⟨{ task with answer := none }, res, before, after, u, j, net, hus, hcalled, hanswer, hwaits,
    htask.trans (congrArg some hheld), ?_⟩
  rcases res with e | ⟨⟩
  · exact .inr ⟨e, hputs, hreplied⟩
  · left
    rcases api.client.put_cases net task.request.path task.request.body with
      ⟨req, resp, hsend, hstatus, hput⟩ | ⟨sent, e, -, hput⟩
    · exact ⟨req, resp, hput, hsend, hstatus, hreplied⟩
    · have hfail : (api.client.put net task.request.path task.request.body).outcome.2 = .done () := hputs
      rw [hput] at hfail
      cases hfail

/-- A network on which a request is answered by a response of this status. -/
def statusNetwork (status : UInt16) : Network :=
  .answering { status := status, contentEncoding := none, frames := [], decoded := .eof }

/-- The program without attributes and events. -/
def plainApi : Api where
  client := localClient
  fromSlice _ := .ok []
  fromStr _ := .ok []

/-- Two commands wait, the exchange of the second is over first and has failed, and the first is acknowledged. -/
theorem replies_answered_crossed : ∃ (us vs : List WireStep) (t : WireStep) (w : Wire),
    Wire.Run plainApi (.start mopAndVacuumDevice) (us ++ t :: vs) w ∧
    t.out.replied = some (.pause, .done (.operational .ok)) ∧
    ∃ u ∈ us, ∃ j net req resp, u.label = .answer j net ∧ net.sendRequest req = .ok resp ∧ resp.status = 200 := by
  have hexec : (Lts.exec (Wire.step plainApi) (.start mopAndVacuumDevice)
      ([.call .pause, .call .goHome, .answer 1 (statusNetwork 500), .answer 0 (statusNetwork 200)] ++
        .resume 0 :: [.call .resume])).any
      (fun r : List WireStep × Wire => decide (∀ u ∈ r.1, u.out.replied = none ∨
        u.out.replied = some (.pause, .done (.operational .ok)))) = true := by
    decide +kernel
  obtain ⟨us, t, vs, w, hrun, hlabel, -, hp⟩ := Lts.exists_run_cut_of_exec hexec
  have hreplied : ∀ u ∈ us ++ t :: vs, u.out.replied = none ∨ u.out.replied = some (.pause, .done (.operational .ok)) :=
    of_decide_eq_true hp
  obtain ⟨task, res, before, after, u, j, net, rfl, -, hanswer, -, -, hends⟩ := replies_answered hrun hlabel
  rcases hends with ⟨req, resp, -, hsend, hstatus, hdone⟩ | ⟨e, -, hfail⟩
  · refine ⟨_, vs, t, w, hrun, ?_, u, by simp, j, net, req, resp, hanswer, hsend, hstatus⟩
    exact (hreplied t (by simp)).resolve_left (by simp [hdone])
  · rcases hreplied t (by simp) with hnone | hpause
    · exact absurd (hnone.symm.trans hfail) (by simp)
    · exact absurd (hpause.symm.trans hfail) (by simp)

end ValetudoMatter
