import ValetudoMatter.Lemmas.Attributes
import ValetudoMatter.Lemmas.Effects

/-!
# What a step of the program does

The inversion of `Bridge.step`: a call or a resumed command has its effect, an answer is recorded, and the monitor applies
what it gets (`Bridge.StepDoes`). It holds from every state that `Bridge.Good` describes, which every run from the start keeps
(`Bridge.Run.good`).
-/

namespace ValetudoMatter

open Coroutine

/-- A command that waits for its PUT. -/
abbrev CommandTask : Type := Task Device Notification HttpRequest (Except AnyhowError Unit) MatterError Reply Command

/-- A command that waits has its effect when it is resumed, and has sent its request to the robot that the device is of. -/
structure CommandTask.Good (d : Device) (t : CommandTask) : Prop where
  sound : t.Sound Effect
  sent : ∃ d₀, SameRobot d₀ d ∧ t.call.Sends d₀ t.request

/-- The states that the program reaches. -/
def Bridge.Good (b : Bridge) : Prop := ∀ t ∈ b.tasks.tasks, CommandTask.Good b.device t

theorem Bridge.good_start (d : Device) : (Bridge.start d).Good := by
  intro t ht
  simp [Bridge.start] at ht

/-- What a step does, by its label. -/
def Bridge.StepDoes (b : Bridge) (l : Label) (b' : Bridge) (o : Out) : Prop :=
  match l with
  | .task (.call c) => b'.monitor = b.monitor ∧ ∃ stop, Effect c .call b.device b'.device o.notified stop ∧
      TasksAfter b.tasks.tasks c stop b'.tasks.tasks ∧ (∀ r, r ∈ o.sent ↔ stop = .await r)
  | .task (.answer i res) => b'.monitor = b.monitor ∧ b'.device = b.device ∧ o = ⟨[], [], none⟩ ∧
      ∃ t, b.tasks.tasks[i]? = some t ∧ t.answer = none ∧ b'.tasks.tasks = b.tasks.tasks.set i { t with answer := some res }
  | .task (.resume i) => b'.monitor = b.monitor ∧ o.sent = [] ∧ b'.tasks.tasks = b.tasks.tasks.eraseIdx i ∧
      ∃ t res x, b.tasks.tasks[i]? = some t ∧ t.answer = some res ∧
        Effect t.call (.answer t.request res) b.device b'.device o.notified (.exit x)
  | .monitor ev => b.device.monitorStep b.monitor ev = some (b'.device, b'.monitor, o) ∧ b'.tasks.tasks = b.tasks.tasks

/-- A segment, as others see it: what is sent is what it waits for. -/
theorem mem_ofSegment_sent {c : Command} {ns : List Notification} {stop : Stop HttpRequest MatterError Reply}
    (r : HttpRequest) : r ∈ (Out.ofSegment (some ⟨c, ns, stop⟩)).sent ↔ stop = .await r := by
  cases stop with
  | exit x => simp [Out.ofSegment]
  | await r' => simp [Out.ofSegment, eq_comm]

theorem ofSegment_notified (c : Command) (ns : List Notification) (stop : Stop HttpRequest MatterError Reply) :
    (Out.ofSegment (some ⟨c, ns, stop⟩)).notified = ns := by
  cases stop <;> rfl

/-- From a good state, a step does what its label says. -/
theorem Bridge.step_does {b b' : Bridge} {l : Label} {o : Out} (hb : b.Good) (h : b.step l = some (b', o)) :
    b.StepDoes l b' o ∧ ∀ t ∈ b'.tasks.tasks, t.Sound Effect := by
  have hsound : ∀ t ∈ b.tasks.tasks, t.Sound Effect := fun t ht => (hb t ht).sound
  cases l with
  | monitor ev =>
    simp only [step] at h
    split at h
    · obtain ⟨⟨d, m, o'⟩, hm, heq⟩ := Option.map_eq_some_iff.mp h
      cases heq
      exact ⟨⟨hm, rfl⟩, hsound⟩
    · cases h
  | task e =>
    obtain ⟨⟨p, seg⟩, hp, heq⟩ := Option.map_eq_some_iff.mp h
    cases heq
    obtain ⟨hdoes, hsound'⟩ := Pool.step_keeps dmHandler_keeps hsound hp
    refine ⟨?_, hsound'⟩
    cases e with
    | call c =>
      obtain ⟨ns, stop, rfl, heff, htasks⟩ := hdoes
      refine ⟨rfl, stop, ?_, htasks, fun r => mem_ofSegment_sent r⟩
      rw [ofSegment_notified]
      exact heff
    | answer i res =>
      obtain ⟨t, ht, hnone, rfl, hstate, htasks⟩ := hdoes
      exact ⟨rfl, hstate, rfl, t, ht, hnone, htasks⟩
    | resume i =>
      obtain ⟨t, res, ns, stop, ht, hres, rfl, heff, htasks⟩ := hdoes
      -- a command waits only once
      cases stop with
      | await r => exact absurd ((heff.sends r).mp rfl).1 nofun
      | exit x => exact ⟨rfl, rfl, htasks, t, res, x, ht, hres, heff⟩

theorem Effect.sameRobot {c : Command} {cause : Cause HttpRequest (Except AnyhowError Unit)} {d d' : Device}
    {ns : List Notification} {stop : Stop HttpRequest MatterError Reply} (h : Effect c cause d d' ns stop) :
    SameRobot d d' :=
  ⟨h.capabilities, h.cleaningPresets, h.segments⟩

/-- A step of the monitor leaves the device as it is or applies a batch to it. -/
theorem monitorStep_effect {d d' : Device} {m m' : Monitor} {ev : MonitorEvent} {o : Out}
    (h : d.monitorStep m ev = some (d', m', o)) :
    (d' = d ∧ o.notified = []) ∨ ∃ attrs, (ev = .polled (.ok attrs) ∨ ev = .event attrs) ∧
      d' = (d.apply attrs).1 ∧ o.notified = (d.apply attrs).2 := by
  unfold Device.monitorStep at h
  split at h <;> cases h
  · exact .inl ⟨rfl, rfl⟩
  · exact .inl ⟨rfl, rfl⟩
  · exact .inr ⟨_, .inl rfl, rfl, rfl⟩
  · exact .inl ⟨rfl, rfl⟩
  · exact .inl ⟨rfl, rfl⟩
  · exact .inr ⟨_, .inr rfl, rfl, rfl⟩
  · exact .inl ⟨rfl, rfl⟩
  · exact .inl ⟨rfl, rfl⟩
  · exact .inl ⟨rfl, rfl⟩
  · exact .inl ⟨rfl, rfl⟩

/-- The monitor sends its poll and its subscription, which are of no capability. -/
theorem monitorStep_sent {d d' : Device} {m m' : Monitor} {ev : MonitorEvent} {o : Out}
    (h : d.monitorStep m ev = some (d', m', o)) : ∀ r ∈ o.sent, r = pollRequest ∨ r = subscribeRequest := by
  unfold Device.monitorStep at h
  split at h <;> cases h <;> simp

/-- What a step sends is what the command that it calls sends, or a request of the monitor. -/
theorem Bridge.StepDoes.sent_cases {b b' : Bridge} {l : Label} {o : Out} (h : b.StepDoes l b' o) {r : HttpRequest}
    (hr : r ∈ o.sent) :
    (∃ c, l = .task (.call c) ∧ c.Sends b.device r) ∨ r = pollRequest ∨ r = subscribeRequest := by
  cases l with
  | task e =>
    cases e with
    | call c =>
      obtain ⟨-, stop, heff, -, hsent⟩ := h
      exact .inl ⟨c, rfl, ((heff.sends r).mp ((hsent r).mp hr)).2⟩
    | answer i res =>
      obtain ⟨-, -, rfl, -⟩ := h
      simp at hr
    | resume i =>
      obtain ⟨-, hsent, -⟩ := h
      simp [hsent] at hr
  | monitor ev => exact .inr (monitorStep_sent h.1 r hr)

/-- A step of a command. -/
theorem Bridge.task_step {b : Bridge} {e : Event (Except AnyhowError Unit) Command} {p : Tasks}
    {seg : Option (Segment Notification HttpRequest MatterError Reply Command)} (h : b.tasks.step dmHandler e = some (p, seg)) :
    b.step (.task e) = some ({ b with tasks := p }, Out.ofSegment seg) := by
  simp [Bridge.step, h]

/-- A step of the monitor. -/
theorem Bridge.monitor_step {b : Bridge} (ev : MonitorEvent) {d : Device} {m : Monitor} {o : Out} (halive : b.tasks.alive)
    (h : b.device.monitorStep b.monitor ev = some (d, m, o)) :
    b.step (.monitor ev) = some (⟨{ b.tasks with state := d }, m⟩, o) := by
  simp [Bridge.step, halive, h]

/-- No step changes what `init` has fetched. -/
theorem Bridge.StepDoes.sameRobot {b b' : Bridge} {l : Label} {o : Out} (h : b.StepDoes l b' o) :
    SameRobot b.device b'.device := by
  cases l with
  | task e =>
    cases e with
    | call c =>
      obtain ⟨-, stop, heff, -⟩ := h
      exact heff.sameRobot
    | answer i res =>
      obtain ⟨-, hd, -⟩ := h
      rw [hd]
      exact .refl _
    | resume i =>
      obtain ⟨-, -, -, t, res, x, -, -, heff⟩ := h
      exact heff.sameRobot
  | monitor ev =>
    rcases monitorStep_effect h.1 with ⟨hd, -⟩ | ⟨attrs, -, hd, -⟩
    · rw [hd]
      exact .refl _
    · rw [hd]
      exact (apply_effect _ _).sameRobot

/-- A step keeps the program good. -/
theorem Bridge.step_good {b b' : Bridge} {l : Label} {o : Out} (hb : b.Good) (h : b.step l = some (b', o)) : b'.Good := by
  obtain ⟨hdoes, hsound⟩ := step_does hb h
  have hsame := hdoes.sameRobot
  -- a task that has sent its request before this step has sent it to the same robot
  have hold : ∀ t ∈ b.tasks.tasks, ∃ d₀, SameRobot d₀ b'.device ∧ t.call.Sends d₀ t.request := by
    intro t ht
    obtain ⟨d₀, hd₀, hsends⟩ := (hb t ht).sent
    exact ⟨d₀, hd₀.trans hsame, hsends⟩
  intro t ht
  refine ⟨hsound t ht, ?_⟩
  cases l with
  | monitor ev =>
    rw [hdoes.2] at ht
    exact hold t ht
  | task e =>
    cases e with
    | call c =>
      obtain ⟨-, stop, heff, htasks, -⟩ := hdoes
      cases stop with
      | exit x =>
        rw [show b'.tasks.tasks = b.tasks.tasks from htasks] at ht
        exact hold t ht
      | await r =>
        obtain ⟨k, hk⟩ := htasks
        rw [hk] at ht
        rcases List.mem_append.mp ht with ht | ht
        · exact hold t ht
        · rw [List.mem_singleton.mp ht]
          exact ⟨b.device, hsame, ((heff.sends r).mp rfl).2⟩
    | answer i res =>
      obtain ⟨-, -, -, t', ht', -, htasks⟩ := hdoes
      rw [htasks] at ht
      rcases List.mem_or_eq_of_mem_set ht with ht | rfl
      · exact hold t ht
      · exact hold t' (List.mem_of_getElem? ht')
    | resume i =>
      obtain ⟨-, -, htasks, -⟩ := hdoes
      rw [htasks] at ht
      exact hold t (List.mem_of_mem_eraseIdx ht)

/-- Every state of a run from a good state is good, and every step does what its label says. -/
theorem Bridge.Run.good {b b' : Bridge} {ts : List Step} (h : Bridge.Run b ts b') (hb : b.Good) :
    b'.Good ∧ ∀ t ∈ ts, t.before.Good ∧ t.after.Good ∧ t.before.StepDoes t.label t.after t.out := by
  obtain ⟨hlast, hall⟩ := h.invariant (I := Bridge.Good) hb (fun t ht hgood => Bridge.step_good hgood ht)
  refine ⟨hlast, ?_⟩
  intro t ht
  obtain ⟨hbefore, hafter⟩ := hall t ht
  exact ⟨hbefore, hafter, (Bridge.step_does hbefore (h.valid t ht)).1⟩

/-! ## Further guarantees -/

section Guarantees

variable {G : Command → Guarantee Device Notification HttpRequest (Except AnyhowError Unit) MatterError Reply}

/-- What a step does in terms of the guarantee of its command: it runs a segment that meets it, records an answer, or is one of
the monitor. -/
def Bridge.SegmentMeets
    (G : Command → Guarantee Device Notification HttpRequest (Except AnyhowError Unit) MatterError Reply) (b : Bridge)
    (l : Label) (b' : Bridge) (o : Out) : Prop :=
  match l with
  | .task (.call c) => ∃ ns stop, o = Out.ofSegment (some ⟨c, ns, stop⟩) ∧ G c .call b.device b'.device ns stop
  | .task (.resume i) => ∃ t res ns stop, b.tasks.tasks[i]? = some t ∧ t.answer = some res ∧
      o = Out.ofSegment (some ⟨t.call, ns, stop⟩) ∧ G t.call (.answer t.request res) b.device b'.device ns stop
  | .task (.answer _ _) => b'.device = b.device ∧ o = ⟨[], [], none⟩
  | .monitor ev => b.device.monitorStep b.monitor ev = some (b'.device, b'.monitor, o)

/-- A step runs a segment that meets the guarantees that all commands keep, and the commands that wait after it will. -/
theorem Bridge.step_segment (hG : ∀ c d, (dmHandler c d).Keeps (G c) .call d) {b b' : Bridge} {l : Label} {o : Out}
    (hb : ∀ t ∈ b.tasks.tasks, t.Sound G) (h : b.step l = some (b', o)) :
    b.SegmentMeets G l b' o ∧ ∀ t ∈ b'.tasks.tasks, t.Sound G := by
  cases l with
  | monitor ev =>
    simp only [step] at h
    split at h
    · obtain ⟨r, hm, heq⟩ := Option.map_eq_some_iff.mp h
      cases heq
      exact ⟨hm, hb⟩
    · cases h
  | task e =>
    obtain ⟨⟨p, seg⟩, hp, heq⟩ := Option.map_eq_some_iff.mp h
    cases heq
    obtain ⟨hmeets, hsound⟩ := Pool.step_keeps hG hb hp
    refine ⟨?_, hsound⟩
    cases e with
    | call c =>
      obtain ⟨ns, stop, rfl, hseg, -⟩ := hmeets
      exact ⟨ns, stop, rfl, hseg⟩
    | answer i res =>
      obtain ⟨-, -, -, rfl, hstate, -⟩ := hmeets
      exact ⟨hstate, rfl⟩
    | resume i =>
      obtain ⟨t, res, ns, stop, ht, hres, rfl, hseg, -⟩ := hmeets
      exact ⟨t, res, ns, stop, ht, hres, rfl, hseg⟩

/-- Every step of a run from the start runs such a segment. -/
theorem Bridge.Run.segments (hG : ∀ c d, (dmHandler c d).Keeps (G c) .call d) {d : Device} {ts : List Step} {b : Bridge}
    (h : Bridge.Run (.start d) ts b) : ∀ t ∈ ts, t.before.SegmentMeets G t.label t.after t.out := by
  have hall := (h.invariant (I := fun b => ∀ t ∈ b.tasks.tasks, t.Sound G) (by simp [Bridge.start])
    (fun t ht hsound => (Bridge.step_segment hG hsound ht).2)).2
  exact fun t ht => (Bridge.step_segment hG (hall t ht).1 (h.valid t ht)).1

end Guarantees

end ValetudoMatter
