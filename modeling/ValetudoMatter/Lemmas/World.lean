import ValetudoMatter.Lemmas.Bridge
import ValetudoMatter.World

/-!
# What a step of the world does

The inversion of `World.step` (`World.step_cases`), and what a step of the monitor does to the program, the poll and the stream
together (`MonitorDoes`). The program in the world stays good (`World.StepDoes.good`), for its steps are steps of the program.
-/

namespace ValetudoMatter

open Coroutine

/-! ## Inversion -/

theorem World.run_eq_some {w w' : World} {l : Label} {o : Out} :
    w.run l = some (w', o) ↔ ∃ b, w.bridge.step l = some (b, o) ∧ w' = { w with bridge := b } := by
  simp only [run, Option.map_eq_some_iff, Prod.mk.injEq, Prod.exists]
  constructor
  · rintro ⟨b, o', h, rfl, rfl⟩
    exact ⟨b, h, rfl⟩
  · rintro ⟨b, h, rfl⟩
    exact ⟨b, o, h, rfl, rfl⟩

/-- What a step of the world does, by its label. -/
inductive World.StepDoes (w : World) : WorldLabel → World → Out → Prop where
  | call {c : Command} {b : Bridge} {o : Out} :
      w.bridge.step (.task (.call c)) = some (b, o) → StepDoes w (.call c) { w with bridge := b } o
  | answer {i : Nat} {t : CommandTask} {res : Except AnyhowError Unit} {robot : Robot}
      {event : Option (List StateAttribute)} {b : Bridge} {o : Out} :
      w.bridge.tasks.tasks[i]? = some t → ActsOn t.request res w.robot robot → Announces w.robot robot event →
      w.bridge.step (.task (.answer i res)) = some (b, o) →
      StepDoes w (.answer i res robot event) { w.become robot event with bridge := b } o
  | resume {i : Nat} {b : Bridge} {o : Out} :
      w.bridge.step (.task (.resume i)) = some (b, o) → StepDoes w (.resume i) { w with bridge := b } o
  | change {robot : Robot} {event : Option (List StateAttribute)} :
      Announces w.robot robot event → StepDoes w (.change robot event) (w.become robot event) ⟨[], [], none⟩
  | pollAnswer {attrs : List StateAttribute} :
      w.bridge.monitor = .polling → Reports w.robot attrs → HasStatus attrs →
      StepDoes w (.pollAnswer attrs) { w with pollAnswer := some attrs, polled := w.robot.status } ⟨[], [], none⟩
  | accept : w.bridge.monitor = .subscribing → w.stream = none →
      StepDoes w .accept { w with stream := some [] } ⟨[], [], none⟩
  | monitor {ev : MonitorEvent} {v : World} {b : Bridge} {o : Out} :
      w.serve ev = some v → v.bridge.step (.monitor ev) = some (b, o) → StepDoes w (.monitor ev) { v with bridge := b } o

theorem World.step_cases {w w' : World} {l : WorldLabel} {o : Out} (h : w.step l = some (w', o)) : w.StepDoes l w' o := by
  cases l with
  | call c =>
    obtain ⟨b, hb, rfl⟩ := run_eq_some.mp h
    exact .call hb
  | answer i res robot event =>
    simp only [step] at h
    split at h
    · rename_i t ht
      split at h
      · rename_i hacts
        obtain ⟨b, hb, rfl⟩ := run_eq_some.mp h
        exact .answer ht hacts.1 hacts.2 hb
      · cases h
    · cases h
  | resume i =>
    obtain ⟨b, hb, rfl⟩ := run_eq_some.mp h
    exact .resume hb
  | change robot event =>
    simp only [step] at h
    split at h
    · rename_i hann
      cases h
      exact .change hann
    · cases h
  | pollAnswer attrs =>
    simp only [step] at h
    split at h
    · rename_i hcond
      cases h
      exact .pollAnswer hcond.1 hcond.2.2.1 hcond.2.2.2
    · cases h
  | accept =>
    simp only [step] at h
    split at h
    · rename_i hcond
      cases h
      exact .accept hcond.1 hcond.2
    · cases h
  | monitor ev =>
    obtain ⟨v, hv, hrun⟩ := Option.bind_eq_some_iff.mp h
    obtain ⟨b, hb, rfl⟩ := run_eq_some.mp hrun
    exact .monitor hv hb

/-- Serving the monitor leaves the program and the robot as they are. -/
theorem World.serve_frame {w v : World} {ev : MonitorEvent} (h : w.serve ev = some v) :
    v.bridge = w.bridge ∧ v.robot = w.robot ∧ v.polled = w.polled := by
  unfold World.serve at h
  split at h
  · cases h; exact ⟨rfl, rfl, rfl⟩
  · cases h; exact ⟨rfl, rfl, rfl⟩
  · split at h
    · cases h; exact ⟨rfl, rfl, rfl⟩
    · cases h
  · cases h; exact ⟨rfl, rfl, rfl⟩
  · split at h
    · cases h; exact ⟨rfl, rfl, rfl⟩
    · cases h
  · cases h; exact ⟨rfl, rfl, rfl⟩
  · split at h
    · split at h
      · cases h; exact ⟨rfl, rfl, rfl⟩
      · cases h
    · cases h
  · cases h; exact ⟨rfl, rfl, rfl⟩
  · cases h; exact ⟨rfl, rfl, rfl⟩
  · cases h; exact ⟨rfl, rfl, rfl⟩

/-- A step of the world leaves the program as it is or is a step of the program. -/
theorem World.StepDoes.bridge {w w' : World} {l : WorldLabel} {o : Out} (h : w.StepDoes l w' o) :
    w'.bridge = w.bridge ∨ ∃ l', w.bridge.step l' = some (w'.bridge, o) := by
  cases h with
  | call h => exact .inr ⟨_, h⟩
  | answer _ _ _ h => exact .inr ⟨_, h⟩
  | resume h => exact .inr ⟨_, h⟩
  | change _ => exact .inl rfl
  | pollAnswer _ _ _ => exact .inl rfl
  | accept _ _ => exact .inl rfl
  | monitor hserve h =>
    rw [(World.serve_frame hserve).1] at h
    exact .inr ⟨_, h⟩

/-- The program in the world stays good. -/
theorem World.StepDoes.good {w w' : World} {l : WorldLabel} {o : Out} (h : w.StepDoes l w' o) (hw : w.bridge.Good) :
    w'.bridge.Good := by
  rcases h.bridge with hb | ⟨l', hl'⟩
  · rw [hb]
    exact hw
  · exact Bridge.step_good hw hl'

/-- In every run from a world whose program is good, it is good before every step, and every step does what its label says. -/
theorem World.Run.good {w w' : World} {ts : List WorldStep} (h : World.Run w ts w') (hw : w.bridge.Good) :
    ∀ t ∈ ts, t.before.bridge.Good ∧ t.before.StepDoes t.label t.after t.out := by
  have hinv := h.invariant (I := fun w => w.bridge.Good) hw (fun t ht hgood => (World.step_cases ht).good hgood)
  exact fun t ht => ⟨(hinv.2 t ht).1, World.step_cases (h.valid t ht)⟩

/-! ## The monitor -/

/-- What a step of the monitor does: it polls, takes up the answer to its poll or is turned down, gets its stream or not, takes
an event off the stream, or loses the stream. -/
inductive MonitorDoes (w w' : World) : MonitorEvent → Prop where
  | poll {ev : MonitorEvent} : ev = .begin ∨ ev = .timer → w.bridge.monitor = .ready ∨ w.bridge.monitor = .waiting →
      w'.bridge.monitor = .polling → w'.bridge.device = w.bridge.device → w'.stream = w.stream →
      w'.pollAnswer = w.pollAnswer → MonitorDoes w w' ev
  | polled {attrs : List StateAttribute} : w.bridge.monitor = .polling → w.pollAnswer = some attrs →
      w'.bridge.monitor = .subscribing → w'.bridge.device = (w.bridge.device.apply attrs).1 → w'.stream = w.stream →
      w'.pollAnswer = none → MonitorDoes w w' (.polled (.ok attrs))
  | unpolled {e : AnyhowError} : w.bridge.monitor = .polling → w'.bridge.monitor = .waiting →
      w'.bridge.device = w.bridge.device → w'.stream = w.stream → w'.pollAnswer = none →
      MonitorDoes w w' (.polled (.error e))
  | subscribed : w.bridge.monitor = .subscribing → w.stream.isSome → w'.bridge.monitor = .streaming →
      w'.bridge.device = w.bridge.device → w'.stream = w.stream → w'.pollAnswer = w.pollAnswer →
      MonitorDoes w w' (.subscribed (.ok ()))
  | event {attrs : List StateAttribute} {rest : List (List StateAttribute)} : w.bridge.monitor = .streaming →
      w.stream = some (attrs :: rest) → w'.bridge.monitor = .streaming →
      w'.bridge.device = (w.bridge.device.apply attrs).1 → w'.stream = some rest → w'.pollAnswer = w.pollAnswer →
      MonitorDoes w w' (.event attrs)
  | lost {ev : MonitorEvent} : (∀ attrs, ev ≠ .event attrs) →
      w.bridge.monitor = .subscribing ∨ w.bridge.monitor = .streaming → w'.bridge.monitor = .waiting →
      w'.bridge.device = w.bridge.device → w'.stream = none → w'.pollAnswer = w.pollAnswer → MonitorDoes w w' ev

theorem monitor_does {w v : World} {ev : MonitorEvent} {b : Bridge} {o : Out} (hserve : w.serve ev = some v)
    (hstep : v.bridge.step (.monitor ev) = some (b, o)) (hw : w.bridge.Good) :
    MonitorDoes w { v with bridge := b } ev ∧ b.tasks.tasks = w.bridge.tasks.tasks := by
  have hbridge := (World.serve_frame hserve).1
  rw [hbridge] at hstep
  obtain ⟨⟨hmon, htasks⟩, -⟩ := Bridge.step_does hw hstep
  refine ⟨?_, htasks⟩
  obtain ⟨⟨device, tasks, alive⟩, monitor⟩ := b
  change w.bridge.device.monitorStep w.bridge.monitor ev = some (device, monitor, o) at hmon
  unfold Device.monitorStep at hmon
  split at hmon <;> cases hmon
  · rename_i hm
    cases hserve
    exact .poll (.inl rfl) (.inl hm) rfl rfl rfl rfl
  · rename_i hm
    cases hserve
    exact .unpolled hm rfl rfl rfl rfl
  · rename_i hm
    simp only [World.serve] at hserve
    split at hserve
    · rename_i hanswer
      cases hserve
      exact .polled hm hanswer rfl rfl rfl rfl
    · cases hserve
  · rename_i hm
    cases hserve
    exact .lost nofun (.inl hm) rfl rfl rfl rfl
  · rename_i hm
    simp only [World.serve] at hserve
    split at hserve
    · rename_i hstream
      cases hserve
      exact .subscribed hm hstream rfl rfl rfl rfl
    · cases hserve
  · rename_i hm
    simp only [World.serve] at hserve
    split at hserve
    · rename_i hstream
      split at hserve
      · rename_i heq
        cases hserve
        exact .event hm (heq ▸ hstream) rfl rfl rfl rfl
      · cases hserve
    · cases hserve
  · rename_i hm
    cases hserve
    exact .lost nofun (.inr hm) rfl rfl rfl rfl
  · rename_i hm
    cases hserve
    exact .lost nofun (.inr hm) rfl rfl rfl rfl
  · rename_i hm
    cases hserve
    exact .lost nofun (.inr hm) rfl rfl rfl rfl
  · rename_i hm
    cases hserve
    exact .poll (.inr rfl) (.inr hm) rfl rfl rfl rfl

/-- The monitor applies an event that it takes off the stream. -/
theorem monitor_event {w v : World} {attrs : List StateAttribute} {b : Bridge} {o : Out}
    (hserve : w.serve (.event attrs) = some v) (hstep : v.bridge.step (.monitor (.event attrs)) = some (b, o))
    (hw : w.bridge.Good) :
    ∃ rest, w.stream = some (attrs :: rest) ∧ v.stream = some rest ∧ b.monitor = .streaming ∧
      b.device = (w.bridge.device.apply attrs).1 := by
  cases (monitor_does hserve hstep hw).1 with
  | event _ hstream hm' hd hstream' _ => exact ⟨_, hstream, hstream', hm', hd⟩
  | poll hev _ _ _ _ _ => rcases hev with hev | hev <;> cases hev
  | lost hev _ _ _ _ _ => exact absurd rfl (hev attrs)

/-! ## The commands -/

/-- A step of a command leaves the monitor and the cached status as they are. -/
theorem Bridge.task_frame {b b' : Bridge} {e : Event (Except AnyhowError Unit) Command} {o : Out} (hb : b.Good)
    (h : b.step (.task e) = some (b', o)) :
    b'.monitor = b.monitor ∧ b'.device.currentState = b.device.currentState := by
  obtain ⟨hdoes, -⟩ := step_does hb h
  cases e with
  | call c =>
    obtain ⟨hmonitor, stop, heff, -⟩ := hdoes
    exact ⟨hmonitor, heff.currentState⟩
  | answer i res =>
    obtain ⟨hmonitor, hd, -⟩ := hdoes
    exact ⟨hmonitor, by rw [hd]⟩
  | resume i =>
    obtain ⟨hmonitor, -, -, t, res, x, -, -, heff⟩ := hdoes
    exact ⟨hmonitor, heff.currentState⟩

end ValetudoMatter
