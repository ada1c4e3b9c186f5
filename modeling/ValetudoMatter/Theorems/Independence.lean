import ValetudoMatter.Lemmas.Independence
import ValetudoMatter.Theorems.Capabilities

/-!
# Independence

Commands and monitor share the device, and do not interfere. What the commands answer and put to the robot does not depend on what
the robot reports, unless one of them changes the run mode (`commands_alone`); and what the monitor makes of the status does not
depend on the commands at all (`monitor_alone`).
-/

namespace ValetudoMatter

open Coroutine

/-- The commands run as if there were no monitor. Take any run from the start, with any polls and events between the commands, in
which no run-mode command is called whose byte is a mode: the tasks alone, without the monitor, take the same calls, answers and
resumptions in the same order, notify, send and reply the same at each, and end with the same identify time, selection and
areas. -/
theorem commands_alone {d : Device} {ts : List Step} {b : Bridge} (h : Bridge.Run (.start d) ts b)
    (hunmoded : ∀ t ∈ ts, t.Unmoded) :
    ∃ us p, Lts.Run (Pool.step dmHandler) (Bridge.start d).tasks us p ∧
      us.map (fun u => (u.label, Out.ofSegment u.out)) = ts.flatMap Step.command ∧ SameControls b.device p.state := by
  have hrel : commandSimulation.rel (Bridge.start d) (Bridge.start d).tasks :=
    ⟨⟨rfl, rfl, rfl, rfl, rfl⟩, .nil, rfl⟩
  obtain ⟨us, p, hrun, hobs, hend, -⟩ := commandSimulation.run h hunmoded hrel
  rw [← List.map_eq_flatMap] at hobs
  exact ⟨us, p, hrun, hobs, hend.state⟩

/-- A status that arrives between the commands. -/
def crossedLabels : List Label :=
  [.task (.call (.identify (.ok 5))), .monitor .begin,
    .monitor (.polled (.ok [.statusStateAttribute .cleaning .none])), .task (.call (.selectAreas (.ok [.ok 16]))),
    .task (.call .resume), .task (.answer 0 (.ok ())), .task (.resume 0)]

/-- The selection is resumed and the identification ends as if there were no status. -/
theorem commands_alone_crossed : ∃ us p, Lts.Run (Pool.step dmHandler) (Bridge.start roomDevice).tasks us p ∧ us.length = 5 ∧
    p.state.identifyTime.inner = 0 ∧ p.state.selectedAreas = [16] := by
  have hexec : (Lts.exec Bridge.step (.start roomDevice) crossedLabels).any (fun r : List Step × Bridge =>
      decide ((∀ t ∈ r.1, t.Unmoded) ∧ (r.1.flatMap Step.command).length = 5 ∧ r.2.device.identifyTime.inner = 0 ∧
        r.2.device.selectedAreas = [16])) = true := by decide +kernel
  obtain ⟨ts, b, hrun, hp⟩ := Lts.exists_run_of_exec hexec
  obtain ⟨hunmoded, hlength, htime, hselected⟩ : (∀ t ∈ ts, Step.Unmoded t) ∧ (ts.flatMap Step.command).length = 5 ∧
      b.device.identifyTime.inner = 0 ∧ b.device.selectedAreas = [16] := of_decide_eq_true hp
  obtain ⟨us, p, hus, hobs, hsame⟩ := commands_alone hrun hunmoded
  refine ⟨us, p, hus, ?_, ?_, hsame.selectedAreas.trans hselected⟩
  · rw [← hlength, ← hobs, List.length_map]
  · rw [hsame.identifyTime, htime]

/-- The monitor runs as if there were no commands. Take any run from the start, with any commands: the monitor alone takes the
same events in the same order, asks the robot for the same at each and notifies the same of the status, and ends with the same
status, of the same version. -/
theorem monitor_alone {d : Device} {ts : List Step} {b : Bridge} (h : Bridge.Run (.start d) ts b) :
    ∃ us s, Lts.Run monitorAlone (d, .ready) us s ∧
      us.map (fun u => (u.label, u.out.reported)) = ts.flatMap Step.reported ∧
      s.1.currentState = b.device.currentState ∧ s.2 = b.monitor := by
  have hrel : monitorSimulation.rel (Bridge.start d) (d, .ready) := ⟨Bridge.good_start d, rfl, rfl⟩
  obtain ⟨us, s, hrun, hobs, ⟨-, hstate, hmonitor⟩, -⟩ := monitorSimulation.run h (fun _ _ => trivial) hrel
  rw [← List.map_eq_flatMap] at hobs
  exact ⟨us, s, hrun, hobs, hstate, hmonitor⟩

/-- The status arrives as if there were no commands. -/
theorem monitor_alone_crossed : ∃ us s, Lts.Run monitorAlone (roomDevice, .ready) us s ∧ us.length = 2 ∧
    s.1.currentState.inner = { value := .cleaning, flag := .none } := by
  have hexec : (Lts.exec Bridge.step (.start roomDevice) crossedLabels).any (fun r : List Step × Bridge =>
      decide ((r.1.flatMap Step.reported).length = 2 ∧
        r.2.device.currentState.inner = { value := .cleaning, flag := .none })) = true := by decide +kernel
  obtain ⟨ts, b, hrun, hp⟩ := Lts.exists_run_of_exec hexec
  obtain ⟨hlength, hstatus⟩ : (ts.flatMap Step.reported).length = 2 ∧
      b.device.currentState.inner = { value := .cleaning, flag := .none } := of_decide_eq_true hp
  obtain ⟨us, s, hus, hobs, hstate, -⟩ := monitor_alone hrun
  refine ⟨us, s, hus, ?_, ?_⟩
  · rw [← hlength, ← hobs, List.length_map]
  · rw [hstate, hstatus]

end ValetudoMatter
