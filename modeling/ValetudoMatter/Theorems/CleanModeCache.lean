import ValetudoMatter.Lemmas.Init
import ValetudoMatter.Lemmas.Stream

/-!
# The cached clean mode and the preset of the robot

The cached preset has two writers: the events, which come in order, and the commands, which write what they have asked for when
their answer is taken up, however late. The events on their way take the cached preset to that of the robot as long as every
answer is taken up in time (`presetAhead_iff`); one that is not leaves a preset that the robot no longer has
(`cached_preset_overwritten`).
-/

namespace ValetudoMatter

open Coroutine

/-- The preset that a step of a command writes to the cache: what it has asked for, when it is resumed after success. -/
def Bridge.writes? (b : Bridge) : Event (Except AnyhowError Unit) Command → Option Preset
  | .resume i => b.tasks.tasks[i]?.bind fun t =>
      match t.answer with
      | some (.ok ()) => t.call.cleanPreset?
      | _ => none
  | _ => none

/-- If the step resumes a command that writes a preset, the robot has this preset, or an event with a preset is on its way. -/
def World.InTime (w : World) : WorldLabel → Prop
  | .resume i => ∀ preset ∈ w.bridge.writes? (.resume i),
      w.robot.preset = preset ∨ ∃ a ∈ (w.stream.getD []).flatten, a.preset?.isSome
  | _ => True

/-- The stream is connected, no command waits, no event is on its way, and the cached preset is that of the robot. -/
structure World.Settled (w : World) : Prop where
  tasks : w.bridge.tasks.tasks = []
  monitor : w.bridge.monitor = .streaming
  stream : w.stream = some []
  preset : w.bridge.device.currentPreset.inner = w.robot.preset

instance (w : World) : (l : WorldLabel) → Decidable (w.InTime l)
  | .resume i => inferInstanceAs (Decidable (∀ preset ∈ w.bridge.writes? (.resume i),
      w.robot.preset = preset ∨ ∃ a ∈ (w.stream.getD []).flatten, a.preset?.isSome))
  | .call _ | .answer _ _ _ _ | .change _ _ => .isTrue trivial
  | .pollAnswer _ | .accept | .monitor _ => .isTrue trivial

instance (w : World) : Decidable w.Settled :=
  decidable_of_iff (w.bridge.tasks.tasks = [] ∧ w.bridge.monitor = .streaming ∧ w.stream = some [] ∧
    w.bridge.device.currentPreset.inner = w.robot.preset)
    ⟨fun ⟨h₁, h₂, h₃, h₄⟩ => ⟨h₁, h₂, h₃, h₄⟩, fun h => ⟨h.tasks, h.monitor, h.stream, h.preset⟩⟩

/-! ## One step -/

/-- A step of a command leaves the cached preset, or writes its own. -/
theorem Bridge.task_preset {b b' : Bridge} {e : Event (Except AnyhowError Unit) Command} {o : Out} (hb : b.Good)
    (h : b.step (.task e) = some (b', o)) :
    b'.device.currentPreset.inner = (b.writes? e).getD b.device.currentPreset.inner := by
  obtain ⟨hdoes, -⟩ := step_does hb h
  cases e with
  | call c =>
    obtain ⟨-, stop, heff, -⟩ := hdoes
    rw [heff.currentPreset]
    rfl
  | answer i res =>
    obtain ⟨-, hd, -⟩ := hdoes
    rw [hd]
    rfl
  | resume i =>
    obtain ⟨-, -, -, t, res, x, ht, hres, heff⟩ := hdoes
    rw [heff.currentPreset]
    cases res with
    | error e => simp [writes?, ht, hres, Command.presetAfter]
    | ok u => cases hpreset : t.call.cleanPreset? <;> simp [writes?, ht, hres, Command.presetAfter, hpreset]

/-- If the preset ahead is that of the robot, it is so after a step of a command exactly when what the command writes is the
robot's as well, or overwritten by an event on its way. -/
theorem World.presetAhead_of_task {w : World} {b : Bridge} {e : Event (Except AnyhowError Unit) Command} {o : Out}
    (hgood : w.bridge.Good) (hb : w.bridge.step (.task e) = some (b, o)) (hahead : w.presetAhead = w.robot.preset) :
    World.presetAhead { w with bridge := b } = w.robot.preset ↔
      ∀ preset ∈ w.bridge.writes? e, w.robot.preset = preset ∨ ∃ a ∈ (w.stream.getD []).flatten, a.preset?.isSome := by
  have hpreset := Bridge.task_preset hgood hb
  cases hwrites : w.bridge.writes? e with
  | none =>
    rw [hwrites, Option.getD_none] at hpreset
    refine iff_of_true ?_ nofun
    rw [← hahead]
    simp only [presetAhead, hpreset]
  | some p =>
    rw [hwrites, Option.getD_some] at hpreset
    simp only [presetAhead, hpreset, Option.mem_some, forall_eq']
    exact LastWrite.after_eq_iff hahead p

/-- If the preset ahead is that of the robot before a connected step, it is so after it exactly when no command writes too
late. -/
theorem World.StepDoes.presetAhead_iff {w w' : World} {l : WorldLabel} {o : Out} (h : w.StepDoes l w' o)
    (hgood : w.bridge.Good) (hconn : l.Connected) (hw : w.Reading) (hahead : w.presetAhead = w.robot.preset) :
    w'.presetAhead = w'.robot.preset ↔ w.InTime l := by
  cases h with
  | call hb => exact iff_of_true ((presetAhead_of_task hgood hb hahead).mpr nofun) trivial
  | answer _ _ hann hb =>
    have hahead' := (become_ahead hw.2 hann).2 hahead
    exact iff_of_true ((presetAhead_of_task (w := w.become _ _) hgood hb hahead').mpr nofun) trivial
  | resume hb => exact presetAhead_of_task hgood hb hahead
  | change hann => exact iff_of_true ((become_ahead hw.2 hann).2 hahead) trivial
  | pollAnswer hpolling _ _ => exact absurd (hw.1.symm.trans hpolling) (by simp)
  | accept hsubscribing _ => exact absurd (hw.1.symm.trans hsubscribing) (by simp)
  | @monitor _ v b _ hserve hb =>
    refine iff_of_true ?_ trivial
    obtain ⟨attrs, rfl⟩ := hconn
    obtain ⟨rest, hstream, hstream', -, hd⟩ := monitor_event hserve hb hgood
    rw [(ahead_of_event { v with bridge := b } hstream hd hstream').2, hahead]
    exact congrArg Robot.preset (serve_frame hserve).2.1.symm

/-! ## Every run -/

theorem World.Settled.good {w : World} (h : w.Settled) : w.bridge.Good := by
  intro t ht
  simp [h.tasks] at ht

/-- The preset ahead is that of the robot in all states of a run exactly when no command writes too late. -/
theorem presetAhead_iff {w w' : World} {ts : List WorldStep} (hstart : w.Settled) (hrun : World.Run w ts w')
    (hconn : ∀ t ∈ ts, t.label.Connected) :
    (∀ s ∈ Lts.visited w ts, s.presetAhead = s.robot.preset) ↔ ∀ t ∈ ts, t.before.InTime t.label := by
  have hgood := hrun.good hstart.good
  have hreading := hrun.invariant_mem (I := World.Reading) ⟨hstart.monitor, by simp [hstart.stream]⟩
    (fun t ht hw => (hgood t ht).2.reading (hgood t ht).1 (hconn t ht) hw)
  have hstep : ∀ t ∈ ts, t.before.presetAhead = t.before.robot.preset →
      (t.after.presetAhead = t.after.robot.preset ↔ t.before.InTime t.label) :=
    fun t ht => (hgood t ht).2.presetAhead_iff (hgood t ht).1 (hconn t ht) (hreading.2 t ht).1
  have hahead : w.presetAhead = w.robot.preset := (World.presetAhead_of_nil hstart.stream).trans hstart.preset
  constructor
  · intro hagree t ht
    have hall := hrun.invariant_mem (I := fun s => s.presetAhead = s.robot.preset) hahead
      (fun t ht _ => (Lts.forall_mem_visited.mp hagree).2 t ht)
    obtain ⟨hbefore, hafter⟩ := hall.2 t ht
    exact (hstep t ht hbefore).mp hafter
  · intro hintime
    exact hrun.invariant_visited (I := fun s => s.presetAhead = s.robot.preset) hahead
      (fun t ht hbefore => (hstep t ht hbefore).mpr (hintime t ht))

/-- The cached clean mode agrees with the robot unless a command writes it too late. In every run on a connected stream, of any
number of concurrent commands whose answers arrive and are taken up in any order among the changes of the robot and the events,
the cached preset is that of the robot in all states with no command waiting and no event on its way, if every command that
writes a preset writes the robot's, or does so while an event with a preset is on its way. -/
theorem cached_preset_agrees {w w' : World} {ts : List WorldStep} (hstart : w.Settled) (hrun : World.Run w ts w')
    (hconn : ∀ t ∈ ts, t.label.Connected) (hintime : ∀ t ∈ ts, t.before.InTime t.label) :
    ∀ s ∈ Lts.visited w ts, s.bridge.tasks.tasks = [] → s.stream = some [] →
      s.bridge.device.currentPreset.inner = s.robot.preset := by
  intro s hs _ hstream
  rw [← World.presetAhead_of_nil hstream]
  exact (presetAhead_iff hstart hrun hconn).mpr hintime s hs

/-! ## An answer taken up too late -/

/-- A robot in its dock that vacuums, or mops. -/
def vacuumRobot : Robot := ⟨⟨.docked, .none⟩, .vacuum⟩

def mopRobot : Robot := ⟨⟨.docked, .none⟩, .mop⟩

def vacuumEvent : List StateAttribute := [.presetSelectionStateAttribute "operation_mode" "vacuum"]

def mopEvent : List StateAttribute := [.presetSelectionStateAttribute "operation_mode" "mop"]

/-- A command for the mop takes effect, another app sets the vacuum again, both events arrive, and then the answer. -/
def lateAnswerLabels : List WorldLabel :=
  [.call (.changeCleanMode (.ok 1)), .answer 0 (.ok ()) mopRobot (some mopEvent), .monitor (.event mopEvent),
    .change vacuumRobot (some vacuumEvent), .monitor (.event vacuumEvent), .resume 0]

/-- The robot vacuums, and the cached preset is the mop, with no PUT in flight and no event on its way. -/
theorem cached_preset_overwritten :
    ∃ ts w us w', World.Run (.start mopAndVacuumDevice vacuumRobot) ts w ∧ w.Settled ∧ World.Run w us w' ∧
      (∀ t ∈ us, t.label.Connected) ∧ w'.bridge.tasks.tasks = [] ∧ w'.stream = some [] ∧ w'.robot.preset = .vacuum ∧
      w'.bridge.device.currentPreset.inner = .mop := by
  have hexec : (Lts.exec World.step (.start mopAndVacuumDevice vacuumRobot) (connectLabels .docked)).any (fun r =>
      decide r.2.Settled && (Lts.exec World.step r.2 lateAnswerLabels).any (fun s =>
        decide ((∀ t ∈ s.1, t.label.Connected) ∧ s.2.bridge.tasks.tasks = [] ∧ s.2.stream = some [] ∧
          s.2.robot.preset = .vacuum ∧ s.2.bridge.device.currentPreset.inner = .mop))) = true := by decide +kernel
  obtain ⟨ts, w, hrun, hp⟩ := Lts.exists_run_of_exec hexec
  rw [Bool.and_eq_true, decide_eq_true_eq] at hp
  obtain ⟨us, w', hrun', hq⟩ := Lts.exists_run_of_exec hp.2
  exact ⟨ts, w, us, w', hrun, hp.1, hrun', of_decide_eq_true hq⟩

/-- Two commands at once, for the mop and for the vacuum, that take effect in this order; the second fails. Their answers are
taken up in the other order, while the events are on their way. -/
def inTimeLabels : List WorldLabel :=
  [.call (.changeCleanMode (.ok 1)), .call (.changeCleanMode (.ok 0)), .answer 0 (.ok ()) mopRobot (some mopEvent),
    .answer 1 (.error (.msg "timeout")) vacuumRobot (some vacuumEvent), .resume 1, .resume 0, .monitor (.event mopEvent),
    .monitor (.event vacuumEvent)]

/-- Both events overwrite what the commands have written. -/
theorem cached_preset_in_time :
    ∃ ts w us w', World.Run (.start mopAndVacuumDevice vacuumRobot) ts w ∧ w.Settled ∧ World.Run w us w' ∧
      w'.bridge.tasks.tasks = [] ∧ w'.stream = some [] ∧ (∃ s ∈ Lts.visited w us, s.robot.preset = .mop) ∧
      ∀ s ∈ Lts.visited w us, s.bridge.tasks.tasks = [] → s.stream = some [] →
        s.bridge.device.currentPreset.inner = s.robot.preset := by
  have hexec : (Lts.exec World.step (.start mopAndVacuumDevice vacuumRobot) (connectLabels .docked)).any (fun r =>
      decide r.2.Settled && (Lts.exec World.step r.2 inTimeLabels).any (fun s =>
        decide (s.2.bridge.tasks.tasks = [] ∧ s.2.stream = some [] ∧ (∃ v ∈ Lts.visited r.2 s.1, v.robot.preset = .mop) ∧
          (∀ t ∈ s.1, t.label.Connected) ∧ ∀ t ∈ s.1, t.before.InTime t.label))) = true := by decide +kernel
  obtain ⟨ts, w, hrun, hp⟩ := Lts.exists_run_of_exec hexec
  rw [Bool.and_eq_true, decide_eq_true_eq] at hp
  obtain ⟨us, w', hrun', hq⟩ := Lts.exists_run_of_exec hp.2
  obtain ⟨htasks, hstream, hmop, hconn, hintime⟩ := of_decide_eq_true hq
  exact ⟨ts, w, us, w', hrun, hp.1, hrun', htasks, hstream, hmop, cached_preset_agrees hp.1 hrun' hconn hintime⟩

end ValetudoMatter
