import ValetudoMatter.Lemmas.Init
import ValetudoMatter.Lemmas.Replies

/-!
# The pace of the monitor

The monitor waits a second after whatever has ended `monitor_status_once`, and only then asks again: what it asks for, what fails
and what it waits for are counted against each other, at any point of any run (`monitor_paced`).
-/

namespace ValetudoMatter

open Coroutine

/-- What ends `monitor_status_once`. -/
def MonitorEvent.ends : MonitorEvent → Bool
  | .polled (.error _) | .subscribed (.error _) | .malformed _ | .streamError _ | .streamEnd => true
  | .begin | .timer | .polled (.ok _) | .subscribed (.ok _) | .event _ => false

/-- The second is over. -/
def MonitorEvent.elapses : MonitorEvent → Bool
  | .timer => true
  | .begin | .polled _ | .subscribed _ | .event _ | .malformed _ | .streamError _ | .streamEnd => false

/-- A poll is answered with attributes. -/
def MonitorEvent.polls : MonitorEvent → Bool
  | .polled (.ok _) => true
  | .begin | .timer | .polled (.error _) | .subscribed _ | .event _ | .malformed _ | .streamError _ | .streamEnd => false

/-- The event that a step of the monitor takes up is of a kind. -/
def Step.takes (p : MonitorEvent → Bool) (t : Step) : Bool :=
  match t.label with
  | .monitor ev => p ev
  | .task _ => false

/-- Whether the monitor is at a place, as a number. -/
def Monitor.at (m place : Monitor) : Nat := if m = place then 1 else 0

/-- One step of the monitor: what it asks for and takes up, and where the monitor is before and after it. -/
theorem monitorStep_paced {d d' : Device} {m m' : Monitor} {ev : MonitorEvent} {o : Out}
    (h : d.monitorStep m ev = some (d', m', o)) :
    m.at .ready + ev.elapses.toNat = m'.at .ready + o.sent.count pollRequest ∧
      o.sent.count subscribeRequest = ev.polls.toNat ∧
      m.at .waiting + ev.ends.toNat = m'.at .waiting + ev.elapses.toNat := by
  have hne : pollRequest ≠ subscribeRequest := by decide
  unfold Device.monitorStep at h
  split at h <;> cases h <;>
    simp [Monitor.at, MonitorEvent.elapses, MonitorEvent.polls, MonitorEvent.ends, hne, hne.symm]

/-- A step of a command asks for nothing that the monitor asks for. -/
theorem Bridge.StepDoes.task_count {b b' : Bridge} {e : Event (Except AnyhowError Unit) Command} {o : Out}
    (h : b.StepDoes (.task e) b' o) {r : HttpRequest} (hr : r.method = .get) : o.sent.count r = 0 := by
  rw [List.count_eq_zero]
  intro hmem
  rw [h.task_puts r hmem] at hr
  cases hr

theorem Bridge.StepDoes.task_monitor {b b' : Bridge} {e : Event (Except AnyhowError Unit) Command} {o : Out}
    (h : b.StepDoes (.task e) b' o) : b'.monitor = b.monitor := by
  rcases e with c | ⟨i, res⟩ | i
  · exact h.1
  · exact h.1
  · exact h.1

/-- One step of the program. -/
theorem Step.paced {t : Step} (h : t.before.StepDoes t.label t.after t.out) :
    t.before.monitor.at .ready + (t.takes MonitorEvent.elapses).toNat =
        t.after.monitor.at .ready + t.out.sent.count pollRequest ∧
      t.out.sent.count subscribeRequest = (t.takes MonitorEvent.polls).toNat ∧
      t.before.monitor.at .waiting + (t.takes MonitorEvent.ends).toNat =
        t.after.monitor.at .waiting + (t.takes MonitorEvent.elapses).toNat := by
  obtain ⟨b, l, o, b'⟩ := t
  rcases l with e | ev
  · have hmonitor : b'.monitor = b.monitor := h.task_monitor
    have hpoll : o.sent.count pollRequest = 0 := h.task_count rfl
    have hsubscribe : o.sent.count subscribeRequest = 0 := h.task_count rfl
    dsimp only
    rw [hmonitor, hpoll, hsubscribe]
    exact ⟨rfl, rfl, rfl⟩
  · exact monitorStep_paced h.1

/-- The monitor keeps its pace. In every run from the start, at whatever point it is cut, and whatever fails or is lost in it: the
robot has been polled once, if the monitor has begun, and once more for each second that has been waited; it has been asked for a
stream once for each poll that was answered with attributes; and each failure, and each end of a stream, has been followed by one
second of waiting, or is being waited for. -/
theorem monitor_paced {d : Device} {ts : List Step} {b : Bridge} (h : Bridge.Run (.start d) ts b) :
    (ts.flatMap (·.out.sent)).count pollRequest + b.monitor.at .ready = ts.countP (Step.takes MonitorEvent.elapses) + 1 ∧
      (ts.flatMap (·.out.sent)).count subscribeRequest = ts.countP (Step.takes MonitorEvent.polls) ∧
      ts.countP (Step.takes MonitorEvent.ends) = ts.countP (Step.takes MonitorEvent.elapses) + b.monitor.at .waiting := by
  have hpaced := fun t ht => Step.paced ((h.good (Bridge.good_start d)).2 t ht).2.2
  have hpolls := h.balance (fun b => b.monitor.at .ready) (fun t : Step => (t.takes MonitorEvent.elapses).toNat)
    (fun t => t.out.sent.count pollRequest) fun t ht => (hpaced t ht).1
  have hwaits := h.balance (fun b => b.monitor.at .waiting) (fun t : Step => (t.takes MonitorEvent.ends).toNat)
    (fun t : Step => (t.takes MonitorEvent.elapses).toNat) fun t ht => (hpaced t ht).2.2
  have hready : (Bridge.start d).monitor.at .ready = 1 := rfl
  have hwaiting : (Bridge.start d).monitor.at .waiting = 0 := rfl
  have hsent : ∀ r : HttpRequest, (ts.map fun t => t.out.sent.count r).sum = (ts.flatMap (·.out.sent)).count r :=
    fun _ => List.count_flatMap.symm
  rw [Lts.sum_map_toNat, hsent, hready] at hpolls
  rw [Lts.sum_map_toNat, Lts.sum_map_toNat, hwaiting] at hwaits
  refine ⟨by omega, ?_, by omega⟩
  rw [← hsent, ← Lts.sum_map_toNat]
  exact congrArg List.sum (List.map_congr_left fun t ht => (hpaced t ht).2.1)

/-- A poll that fails, a second, and a poll that is answered. -/
def failedPollLabels : List Label :=
  [.monitor .begin, .monitor (.polled (.error (.msg "offline"))), .task (.call .pause), .monitor .timer,
    .monitor (.polled (.ok [.statusStateAttribute .docked .none])), .monitor (.subscribed (.ok ())), .monitor .streamEnd]

theorem monitor_paced_failed : ∃ ts b, Bridge.Run (.start mopAndVacuumDevice) ts b ∧
    (ts.flatMap (·.out.sent)).count pollRequest = 2 ∧ (ts.flatMap (·.out.sent)).count subscribeRequest = 1 := by
  have hexec : (Lts.exec Bridge.step (.start mopAndVacuumDevice) failedPollLabels).any (fun r : List Step × Bridge =>
      decide (r.1.countP (Step.takes MonitorEvent.elapses) = 1 ∧ r.1.countP (Step.takes MonitorEvent.polls) = 1 ∧
        r.2.monitor = .waiting)) = true := by decide +kernel
  obtain ⟨ts, b, hrun, hp⟩ := Lts.exists_run_of_exec hexec
  obtain ⟨hseconds, hpolled, hmonitor⟩ : ts.countP (Step.takes MonitorEvent.elapses) = 1 ∧
      ts.countP (Step.takes MonitorEvent.polls) = 1 ∧ b.monitor = .waiting := of_decide_eq_true hp
  obtain ⟨hpolls, hsubscriptions, -⟩ := monitor_paced hrun
  rw [hseconds, hmonitor] at hpolls
  rw [hpolled] at hsubscriptions
  exact ⟨ts, b, hrun, hpolls, hsubscriptions⟩

end ValetudoMatter
