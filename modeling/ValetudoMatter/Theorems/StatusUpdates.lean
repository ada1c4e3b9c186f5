import ValetudoMatter.Lemmas.Init
import ValetudoMatter.Lemmas.Stream

/-!
# The monitor and the status of the robot

While the stream is open the events on their way take the cached status to the status of the robot, from the moment the
subscription is accepted, if the robot then still has the status that the last poll was answered with. The monitor polls before
it subscribes, and what changes in between reaches neither the poll nor the stream (`status_lost_before_accept`).
-/

namespace ValetudoMatter

open Coroutine

/-- If the step accepts a subscription, the robot has the status that the last poll was answered with. -/
def Fresh (t : WorldStep) : Prop := t.label = .accept → t.before.robot.status = t.before.polled

instance (t : WorldStep) : Decidable (Fresh t) :=
  inferInstanceAs (Decidable (t.label = .accept → t.before.robot.status = t.before.polled))

/-- What the last poll was answered with is on its way, and cached when the subscription is sent. -/
structure World.Polled (w : World) : Prop where
  answer : ∀ attrs, w.pollAnswer = some attrs → ∀ s, statusAfter s attrs = w.polled
  subscribing : w.bridge.monitor = .subscribing → w.bridge.device.currentState.inner = w.polled

theorem World.polled_start (d : Device) (robot : Robot) : (World.start d robot).Polled :=
  ⟨nofun, nofun⟩

/-- Attributes that report a robot and have a status leave every cache with that status. -/
theorem Reports.statusAfter {r : Robot} {attrs : List StateAttribute} (h : Reports r attrs) (hstatus : HasStatus attrs)
    (s : DeviceState) : statusAfter s attrs = r.status :=
  LastWrite.after_eq_of_forall hstatus fun a ha => (h a ha).1

/-- A step that leaves the poll, the monitor and the cached status as they are keeps the world polled. -/
theorem World.Polled.of_frame {w w' : World} (hw : w.Polled) (hanswer : w'.pollAnswer = w.pollAnswer)
    (hpolled : w'.polled = w.polled) (hmonitor : w'.bridge.monitor = w.bridge.monitor)
    (hstate : w'.bridge.device.currentState = w.bridge.device.currentState) : w'.Polled where
  answer := by
    rw [hanswer, hpolled]
    exact hw.answer
  subscribing := by
    rw [hmonitor, hstate, hpolled]
    exact hw.subscribing

/-- A step of the monitor keeps the world polled: the answer to the poll is applied before the subscription is sent. -/
theorem MonitorDoes.keeps_polled {w w' : World} {ev : MonitorEvent} (h : MonitorDoes w w' ev)
    (hpolled : w'.polled = w.polled) (hw : w.Polled) : w'.Polled := by
  have hanswered : w'.pollAnswer = w.pollAnswer → ∀ attrs, w'.pollAnswer = some attrs →
      ∀ s, statusAfter s attrs = w'.polled := by
    intro hanswer
    rw [hanswer, hpolled]
    exact hw.answer
  cases h with
  | poll _ _ hm' _ _ hanswer => exact ⟨hanswered hanswer, by simp [hm']⟩
  | polled _ hanswer _ hd _ hanswer' =>
    refine ⟨by simp [hanswer'], ?_⟩
    intro _
    rw [hd, (apply_effect _ _).currentState, hpolled]
    exact hw.answer _ hanswer _
  | unpolled _ hm' _ _ hanswer => exact ⟨by simp [hanswer], by simp [hm']⟩
  | subscribed _ _ hm' _ _ hanswer => exact ⟨hanswered hanswer, by simp [hm']⟩
  | event _ _ hm' _ _ hanswer => exact ⟨hanswered hanswer, by simp [hm']⟩
  | lost _ _ hm' _ _ hanswer => exact ⟨hanswered hanswer, by simp [hm']⟩

/-- A step keeps the world polled. -/
theorem World.StepDoes.polled {w w' : World} {l : WorldLabel} {o : Out} (h : w.StepDoes l w' o) (hgood : w.bridge.Good)
    (hw : w.Polled) : w'.Polled := by
  cases h with
  | call hb =>
    obtain ⟨hmonitor, hstate⟩ := Bridge.task_frame hgood hb
    exact hw.of_frame rfl rfl hmonitor hstate
  | answer _ _ _ hb =>
    obtain ⟨hmonitor, hstate⟩ := Bridge.task_frame hgood hb
    exact hw.of_frame rfl rfl hmonitor hstate
  | resume hb =>
    obtain ⟨hmonitor, hstate⟩ := Bridge.task_frame hgood hb
    exact hw.of_frame rfl rfl hmonitor hstate
  | change _ => exact hw.of_frame rfl rfl rfl rfl
  | pollAnswer hmonitor hreports hstatus =>
    refine ⟨?_, ?_⟩
    · rintro attrs' ⟨⟩ s
      exact hreports.statusAfter hstatus s
    · intro hsub
      rw [hmonitor] at hsub
      cases hsub
  | accept _ _ => exact ⟨hw.answer, hw.subscribing⟩
  | monitor hserve hb =>
    exact (monitor_does hserve hb hgood).1.keeps_polled (serve_frame hserve).2.2 hw

/-- The monitor loses no status update but one between a poll and the acceptance of the subscription. In every run from the
start, with any number of disconnections, the cached status is that of the robot in all states with an open stream and no event
on its way, exactly when at every acceptance the robot has the status that the last poll was answered with. -/
theorem monitor_current_iff {d : Device} {robot : Robot} {ts : List WorldStep} {w : World}
    (hrun : World.Run (.start d robot) ts w) :
    (∀ s ∈ Lts.visited (.start d robot) ts, s.stream = some [] →
      s.bridge.device.currentState.inner = s.robot.status) ↔ ∀ t ∈ ts, Fresh t := by
  have hgood := hrun.good (Bridge.good_start d)
  have hpolled := hrun.invariant_mem (I := World.Polled) (World.polled_start d robot)
    (fun t ht hw => (hgood t ht).2.polled (hgood t ht).1 hw)
  have hread := hrun.invariant_mem (I := World.StreamRead) (World.streamRead_start d robot)
    (fun t ht hw => (hgood t ht).2.streamRead (hgood t ht).1 hw)
  constructor
  · intro hagree t ht hlabel
    have hdoes := (hgood t ht).2
    have hafter := (Lts.forall_mem_visited.mp hagree).2 t ht
    rw [hlabel] at hdoes
    obtain ⟨hmonitor, hd, hrobot, hstream⟩ := hdoes.of_accept
    rw [← hrobot, ← hafter hstream, hd]
    exact (hpolled.2 t ht).1.subscribing hmonitor
  · intro hfresh
    have haccept : ∀ t ∈ ts, t.label = .accept → t.before.bridge.device.currentState.inner = t.before.robot.status := by
      intro t ht hlabel
      have hdoes := (hgood t ht).2
      rw [hlabel] at hdoes
      rw [hfresh t ht hlabel]
      exact (hpolled.2 t ht).1.subscribing hdoes.of_accept.1
    have hcurrent := hrun.invariant_visited (I := World.Current) (fun hopen => nomatch hopen)
      (fun t ht hw => (hgood t ht).2.current (hgood t ht).1 (hread.2 t ht).1 (haccept t ht) hw)
    intro s hs hstream
    rw [← World.statusAhead_of_nil hstream]
    exact hcurrent s hs (by simp [hstream])

/-! ## A change before the subscription is accepted -/

/-- The robot starts to clean. -/
def cleaningRobot : Robot := ⟨⟨.cleaning, .none⟩, .vacuum⟩

/-- The monitor polls a docked robot, and its subscription is accepted after the robot has started to clean. -/
def lateLabels : List WorldLabel :=
  pollLabels .docked ++
    [.change cleaningRobot (some (statusAttributes .cleaning)), .accept, .monitor (.subscribed (.ok ()))]

/-- The program reads the stream, no event is on its way, and the cached status is `docked` while the robot cleans. -/
theorem status_lost_before_accept :
    (∃ sent, Device.init mopAndVacuumAnswers ⟨0, 0, 0⟩ () = .exit () sent (.done mopAndVacuumDevice)) ∧
      ∃ ts w, World.Run (.start mopAndVacuumDevice ⟨⟨.docked, .none⟩, .vacuum⟩) ts w ∧ w.bridge.monitor = .streaming ∧
        w.stream = some [] ∧ w.robot.status.value = .cleaning ∧ w.bridge.device.currentState.inner.value = .docked := by
  refine ⟨init_mopAndVacuum, ?_⟩
  have hexec : (Lts.exec World.step (.start mopAndVacuumDevice ⟨⟨.docked, .none⟩, .vacuum⟩) lateLabels).any (fun r =>
      decide (r.2.bridge.monitor = .streaming ∧ r.2.stream = some [] ∧ r.2.robot.status.value = .cleaning ∧
        r.2.bridge.device.currentState.inner.value = .docked)) = true := by decide +kernel
  obtain ⟨ts, w, hrun, hp⟩ := Lts.exists_run_of_exec hexec
  exact ⟨ts, w, hrun, of_decide_eq_true hp⟩

/-- The robot starts to clean after the subscription, and the monitor gets the event. -/
def freshLabels : List WorldLabel :=
  pollLabels .docked ++
    [.accept, .change cleaningRobot (some (statusAttributes .cleaning)), .monitor (.subscribed (.ok ())),
      .monitor (.event (statusAttributes .cleaning))]

/-- A change after the subscription reaches the cached status. -/
theorem monitor_current_fresh : ∃ ts w, World.Run (.start mopAndVacuumDevice ⟨⟨.docked, .none⟩, .vacuum⟩) ts w ∧
    w.stream = some [] ∧ w.robot.status.value = .cleaning ∧
      ∀ s ∈ Lts.visited (.start mopAndVacuumDevice ⟨⟨.docked, .none⟩, .vacuum⟩) ts, s.stream = some [] →
        s.bridge.device.currentState.inner = s.robot.status := by
  have hexec : (Lts.exec World.step (.start mopAndVacuumDevice ⟨⟨.docked, .none⟩, .vacuum⟩) freshLabels).any (fun r =>
      decide (r.2.stream = some [] ∧ r.2.robot.status.value = .cleaning ∧ ∀ t ∈ r.1, Fresh t)) = true := by decide +kernel
  obtain ⟨ts, w, hrun, hp⟩ := Lts.exists_run_of_exec hexec
  obtain ⟨hstream, hstatus, hfresh⟩ := of_decide_eq_true hp
  exact ⟨ts, w, hrun, hstream, hstatus, (monitor_current_iff hrun).mpr hfresh⟩

end ValetudoMatter
