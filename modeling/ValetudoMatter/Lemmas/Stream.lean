import ValetudoMatter.Lemmas.Init
import ValetudoMatter.Lemmas.World

/-!
# The events on their way

What the events on their way make of the cached status and preset (`World.statusAhead`, `World.presetAhead`): a change of the
robot and the event that follows it keep the status ahead that of the robot (`World.StepDoes.current`), from an accepted
subscription to the next, and a stream that stays connected stays open (`World.StepDoes.reading`).
-/

namespace ValetudoMatter

open Coroutine

/-- The status that the device has once the events on their way have been applied. -/
def World.statusAhead (w : World) : DeviceState :=
  statusAfter w.bridge.device.currentState.inner (w.stream.getD []).flatten

/-- The preset that the device has once the events on their way have been applied. -/
def World.presetAhead (w : World) : Preset :=
  presetAfter w.bridge.device.currentPreset.inner (w.stream.getD []).flatten

/-- With no event on its way, the status ahead is the one cached. -/
theorem World.statusAhead_of_nil {w : World} (h : w.stream = some []) :
    w.statusAhead = w.bridge.device.currentState.inner := by
  simp [statusAhead, h]

theorem World.presetAhead_of_nil {w : World} (h : w.stream = some []) :
    w.presetAhead = w.bridge.device.currentPreset.inner := by
  simp [presetAhead, h]

/-- An operation mode that reports the preset of the robot carries it. -/
theorem Reports.preset {r : Robot} {attrs : List StateAttribute} (h : Reports r attrs) {a : StateAttribute} (ha : a ∈ attrs) :
    a.preset? = a.operationMode?.map fun _ => r.preset := by
  cases hmode : a.operationMode? with
  | none => simp [StateAttribute.preset?, hmode]
  | some m =>
    have hm : m = r.preset.name := (h a ha).2 m hmode
    simp [StateAttribute.preset?, hmode, hm]

/-- The event of a change takes a cache that has the old status to the new one. -/
theorem Announces.statusAfter {r r' : Robot} {event : Option (List StateAttribute)} (h : Announces r r' event) :
    statusAfter r.status event.toList.flatten = r'.status := by
  cases event with
  | none =>
    cases h
    rfl
  | some attrs =>
    obtain ⟨hreports, hstatus, -⟩ := h
    simp only [Option.toList_some, List.flatten_cons, List.flatten_nil, List.append_nil]
    exact LastWrite.after_eq_of_update (fun a ha => (hreports a ha).1) hstatus

/-- The event of a change takes a cache that has the old preset to the new one. -/
theorem Announces.presetAfter {r r' : Robot} {event : Option (List StateAttribute)} (h : Announces r r' event) :
    presetAfter r.preset event.toList.flatten = r'.preset := by
  cases event with
  | none =>
    cases h
    rfl
  | some attrs =>
    obtain ⟨hreports, -, hpreset⟩ := h
    simp only [Option.toList_some, List.flatten_cons, List.flatten_nil, List.append_nil]
    apply LastWrite.after_eq_of_update
    · intro a ha u hu
      rw [hreports.preset ha] at hu
      obtain ⟨-, -, rfl⟩ := Option.map_eq_some_iff.mp hu
      rfl
    · intro hne
      obtain ⟨a, ha, hsome⟩ := hpreset hne
      exact ⟨a, ha, by rw [hreports.preset ha, Option.isSome_map]; exact hsome⟩

/-- A change of the robot puts its event on the stream, and so the new status and preset are what is ahead. -/
theorem World.become_ahead {w : World} {robot : Robot} {event : Option (List StateAttribute)} (hstream : w.stream.isSome)
    (h : Announces w.robot robot event) :
    (w.statusAhead = w.robot.status → (w.become robot event).statusAhead = robot.status) ∧
      (w.presetAhead = w.robot.preset → (w.become robot event).presetAhead = robot.preset) := by
  obtain ⟨queue, hqueue⟩ := Option.isSome_iff_exists.mp hstream
  constructor
  · intro hahead
    simp only [statusAhead, hqueue, Option.getD_some] at hahead
    simp only [statusAhead, become, hqueue, Option.map_some, Option.getD_some, List.flatten_append, LastWrite.after_append,
      hahead]
    exact h.statusAfter
  · intro hahead
    simp only [presetAhead, hqueue, Option.getD_some] at hahead
    simp only [presetAhead, become, hqueue, Option.map_some, Option.getD_some, List.flatten_append, LastWrite.after_append,
      hahead]
    exact h.presetAfter

/-- Applying the first of the events on their way leaves what is ahead. -/
theorem World.ahead_of_event {w : World} (w' : World) {attrs : List StateAttribute} {rest : List (List StateAttribute)}
    (hstream : w.stream = some (attrs :: rest)) (hd : w'.bridge.device = (w.bridge.device.apply attrs).1)
    (hstream' : w'.stream = some rest) : w'.statusAhead = w.statusAhead ∧ w'.presetAhead = w.presetAhead := by
  have heff := apply_effect w.bridge.device attrs
  rw [← hd] at heff
  constructor
  · simp only [statusAhead, hstream, hstream', heff.currentState, Option.getD_some, List.flatten_cons, LastWrite.after_append]
  · simp only [presetAhead, hstream, hstream', heff.currentPreset, Option.getD_some, List.flatten_cons,
      LastWrite.after_append]

/-! ## The open stream -/

/-- The stream is open only for a monitor that reads it, or is about to. -/
def World.StreamRead (w : World) : Prop :=
  w.stream.isSome → w.bridge.monitor = .subscribing ∨ w.bridge.monitor = .streaming

theorem World.streamRead_start (d : Device) (robot : Robot) : (World.start d robot).StreamRead := nofun

/-- A step of the monitor leaves no stream open that it does not read. -/
theorem MonitorDoes.keeps_streamRead {w w' : World} {ev : MonitorEvent} (h : MonitorDoes w w' ev) (hw : w.StreamRead) :
    w'.StreamRead := by
  intro hopen
  cases h with
  | poll _ hm hm' _ hstream _ =>
    rw [hstream] at hopen
    rcases hm with hm | hm <;> rcases hw hopen with hm' | hm' <;> simp [hm] at hm'
  | polled _ _ hm' _ _ _ => exact .inl hm'
  | unpolled hm hm' _ hstream _ =>
    rw [hstream] at hopen
    rcases hw hopen with hm' | hm' <;> simp [hm] at hm'
  | subscribed _ _ hm' _ _ _ => exact .inr hm'
  | event _ _ hm' _ _ _ => exact .inr hm'
  | lost _ _ _ _ hstream _ => simp [hstream] at hopen

/-- In every step the stream is open only for a monitor that reads it. -/
theorem World.StepDoes.streamRead {w w' : World} {l : WorldLabel} {o : Out} (h : w.StepDoes l w' o) (hgood : w.bridge.Good)
    (hw : w.StreamRead) : w'.StreamRead := by
  cases h with
  | call hb =>
    intro hopen
    rw [(Bridge.task_frame hgood hb).1]
    exact hw hopen
  | answer _ _ _ hb =>
    intro hopen
    rw [(Bridge.task_frame hgood hb).1]
    exact hw (by simpa [become] using hopen)
  | resume hb =>
    intro hopen
    rw [(Bridge.task_frame hgood hb).1]
    exact hw hopen
  | change _ =>
    intro hopen
    exact hw (by simpa [become] using hopen)
  | pollAnswer _ _ _ => exact hw
  | accept hmonitor _ => exact fun _ => .inl hmonitor
  | monitor hserve hb => exact (monitor_does hserve hb hgood).1.keeps_streamRead hw

/-- While the stream is open, the events on their way take the cached status to that of the robot. -/
def World.Current (w : World) : Prop := w.stream.isSome → w.statusAhead = w.robot.status

/-- A step of the monitor keeps the world current. -/
theorem MonitorDoes.keeps_current {w w' : World} {ev : MonitorEvent} (h : MonitorDoes w w' ev)
    (hrobot : w'.robot = w.robot) (hread : w.StreamRead) (hw : w.Current) : w'.Current := by
  -- with the device and the stream unchanged, so is what is ahead
  have hsame : w'.bridge.device = w.bridge.device → w'.stream = w.stream → w'.Current := by
    intro hd hstream hopen
    rw [hstream] at hopen
    rw [hrobot, ← hw hopen]
    simp only [World.statusAhead, hd, hstream]
  cases h with
  | poll _ _ _ hd hstream _ => exact hsame hd hstream
  | polled hm _ _ _ hstream _ =>
    intro hopen
    rw [hstream] at hopen
    rcases hread hopen with hm' | hm' <;> simp [hm] at hm'
  | unpolled _ _ hd hstream _ => exact hsame hd hstream
  | subscribed _ _ _ hd hstream _ => exact hsame hd hstream
  | event _ hstream _ hd hstream' _ =>
    intro _
    rw [hrobot, (World.ahead_of_event w' hstream hd hstream').1]
    exact hw (by simp [hstream])
  | lost _ _ _ _ hstream _ =>
    intro hopen
    simp [hstream] at hopen

/-- A step keeps the world current, if no subscription is accepted while the cached status is another than the robot's. -/
theorem World.StepDoes.current {w w' : World} {l : WorldLabel} {o : Out} (h : w.StepDoes l w' o) (hgood : w.bridge.Good)
    (hread : w.StreamRead) (haccept : l = .accept → w.bridge.device.currentState.inner = w.robot.status)
    (hw : w.Current) : w'.Current := by
  -- a command leaves the cached status, and so what is ahead
  have htask : ∀ (v : World) (b : Bridge), v.Current → b.device.currentState = v.bridge.device.currentState →
      World.Current { v with bridge := b } := by
    intro v b hv hstate hopen
    rw [← hv hopen]
    simp only [statusAhead, hstate]
  have hbecome : ∀ robot event, Announces w.robot robot event → (w.become robot event).Current := by
    intro robot event hann hopen
    have hopen : w.stream.isSome := by simpa [become] using hopen
    exact (become_ahead hopen hann).1 (hw hopen)
  cases h with
  | call hb => exact htask w _ hw (Bridge.task_frame hgood hb).2
  | answer _ _ hann hb => exact htask _ _ (hbecome _ _ hann) (Bridge.task_frame hgood hb).2
  | resume hb => exact htask w _ hw (Bridge.task_frame hgood hb).2
  | change hann => exact hbecome _ _ hann
  | pollAnswer _ _ _ => exact hw
  | accept _ _ =>
    intro _
    rw [statusAhead_of_nil rfl]
    exact haccept rfl
  | monitor hserve hb =>
    exact (monitor_does hserve hb hgood).1.keeps_current (serve_frame hserve).2.1 hread hw

/-! ## The connected stream -/

/-- An accepted subscription opens the stream and changes nothing else. -/
theorem World.StepDoes.of_accept {w w' : World} {o : Out} (h : w.StepDoes .accept w' o) :
    w.bridge.monitor = .subscribing ∧ w'.bridge.device = w.bridge.device ∧ w'.robot = w.robot ∧ w'.stream = some [] := by
  cases h with
  | accept hmonitor _ => exact ⟨hmonitor, rfl, rfl, rfl⟩

/-- The stream stays connected: of the steps of the monitor only the events. -/
def WorldLabel.Connected : WorldLabel → Prop
  | .monitor ev => ∃ attrs, ev = .event attrs
  | _ => True

instance : (l : WorldLabel) → Decidable l.Connected
  | .monitor (.event attrs) => .isTrue ⟨attrs, rfl⟩
  | .monitor .begin | .monitor .timer | .monitor .streamEnd => .isFalse nofun
  | .monitor (.polled _) | .monitor (.subscribed _) => .isFalse nofun
  | .monitor (.malformed _) | .monitor (.streamError _) => .isFalse nofun
  | .call _ | .answer _ _ _ _ | .resume _ => .isTrue trivial
  | .change _ _ | .pollAnswer _ | .accept => .isTrue trivial

/-- The program reads an open stream. -/
def World.Reading (w : World) : Prop := w.bridge.monitor = .streaming ∧ w.stream.isSome

/-- A step keeps the stream open, if the stream stays connected. -/
theorem World.StepDoes.reading {w w' : World} {l : WorldLabel} {o : Out} (h : w.StepDoes l w' o) (hgood : w.bridge.Good)
    (hconn : l.Connected) (hw : w.Reading) : w'.Reading := by
  obtain ⟨hmonitor, hopen⟩ := hw
  cases h with
  | call hb => exact ⟨(Bridge.task_frame hgood hb).1.trans hmonitor, hopen⟩
  | answer _ _ _ hb => exact ⟨(Bridge.task_frame hgood hb).1.trans hmonitor, by simpa [become] using hopen⟩
  | resume hb => exact ⟨(Bridge.task_frame hgood hb).1.trans hmonitor, hopen⟩
  | change _ => exact ⟨hmonitor, by simpa [become] using hopen⟩
  | pollAnswer hpolling _ _ => exact absurd (hmonitor.symm.trans hpolling) (by simp)
  | accept hsubscribing _ => exact absurd (hmonitor.symm.trans hsubscribing) (by simp)
  | monitor hserve hb =>
    obtain ⟨attrs, rfl⟩ := hconn
    obtain ⟨rest, -, hstream, hmonitor, -⟩ := monitor_event hserve hb hgood
    exact ⟨hmonitor, by simp [hstream]⟩

/-- The monitor polls a robot that reports this status. -/
def pollLabels (value : StatusValue) : List WorldLabel :=
  [.monitor .begin, .pollAnswer (statusAttributes value), .monitor (.polled (.ok (statusAttributes value)))]

/-- It polls the robot, and subscribes. -/
def connectLabels (value : StatusValue) : List WorldLabel :=
  pollLabels value ++ [.accept, .monitor (.subscribed (.ok ()))]

end ValetudoMatter
