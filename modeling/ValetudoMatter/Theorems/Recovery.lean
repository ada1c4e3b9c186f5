import ValetudoMatter.Lemmas.Init
import ValetudoMatter.Lemmas.Stream
import ValetudoMatter.Theorems.StatusUpdates

/-!
# Recovery

What the monitor has missed it makes up for. Whatever has happened, once a poll is taken up the cached status is that of the
robot, and it stays so for as long as the robot stays as it is (`status_recovers`); and from every state that the program reaches
alive, a poll and a subscription can be had in six steps, of which the first may be a failure or the end of the stream
(`can_recover`).
-/

namespace ValetudoMatter

open Coroutine

/-! ## The next poll -/

/-- The answer on its way gives every cache the status `s`. -/
def World.Answered (s : DeviceState) (w : World) : Prop := ∀ attrs, w.pollAnswer = some attrs → ∀ s', statusAfter s' attrs = s

/-- The cached status is `s`, and the events on their way report no other. -/
structure World.Agrees (s : DeviceState) (w : World) : Prop where
  cached : w.bridge.device.currentState.inner = s
  ahead : ∀ attrs ∈ w.stream.getD [], ∀ a ∈ attrs, ∀ s' ∈ a.status?, s' = s

/-- While the robot has a status, polls are answered with it. -/
theorem World.StepDoes.answered {w w' : World} {l : WorldLabel} {o : Out} {s : DeviceState} (h : w.StepDoes l w' o)
    (hgood : w.bridge.Good) (hrobot : w'.robot.status = s) (hw : w.Answered s) : w'.Answered s := by
  cases h with
  | call _ => exact hw
  | answer _ _ _ _ => exact hw
  | resume _ => exact hw
  | change _ => exact hw
  | pollAnswer _ hreports hstatus =>
    rintro attrs' ⟨⟩ s'
    exact (hreports.statusAfter hstatus s').trans hrobot
  | accept _ _ => exact hw
  | monitor hserve hb =>
    intro attrs hanswer
    cases (monitor_does hserve hb hgood).1 with
    | poll _ _ _ _ _ hsame => exact hw attrs (hsame.symm.trans hanswer)
    | polled _ _ _ _ _ hnone =>
      rw [hnone] at hanswer
      cases hanswer
    | unpolled _ _ _ _ hnone =>
      rw [hnone] at hanswer
      cases hanswer
    | subscribed _ _ _ _ _ hsame => exact hw attrs (hsame.symm.trans hanswer)
    | event _ _ _ _ _ hsame => exact hw attrs (hsame.symm.trans hanswer)
    | lost _ _ _ _ _ hsame => exact hw attrs (hsame.symm.trans hanswer)

/-- A step that leaves the cached status and the events on their way keeps them agreed. -/
theorem World.Agrees.of_frame {w w' : World} {s : DeviceState} (hw : w.Agrees s)
    (hstate : w'.bridge.device.currentState = w.bridge.device.currentState) (hstream : w'.stream = w.stream) :
    w'.Agrees s where
  cached := by rw [hstate, hw.cached]
  ahead := by
    rw [hstream]
    exact hw.ahead

/-- A change of the robot that leaves its status puts no other on the stream. -/
theorem World.Agrees.become {w : World} {robot : Robot} {event : Option (List StateAttribute)}
    (hw : w.Agrees robot.status) (hann : Announces w.robot robot event) : (w.become robot event).Agrees robot.status where
  cached := hw.cached
  ahead := by
    intro attrs hattrs
    cases hstream : w.stream with
    | none => simp [World.become, hstream] at hattrs
    | some queue =>
      simp only [World.become, hstream, Option.map_some, Option.getD_some] at hattrs
      rcases List.mem_append.mp hattrs with hold | hnew
      · exact hw.ahead attrs (by simpa [hstream] using hold)
      · cases event with
        | none => cases hnew
        | some ev =>
          rw [Option.toList_some, List.mem_singleton] at hnew
          subst hnew
          exact fun a ha => (hann.1 a ha).1

/-- While the robot has a status, a cache that has it keeps it. -/
theorem World.StepDoes.agrees {w w' : World} {l : WorldLabel} {o : Out} {s : DeviceState} (h : w.StepDoes l w' o)
    (hgood : w.bridge.Good) (hrobot : w'.robot.status = s) (hanswered : w.Answered s) (hw : w.Agrees s) : w'.Agrees s := by
  cases h with
  | call hb => exact hw.of_frame (Bridge.task_frame hgood hb).2 rfl
  | answer _ _ hann hb =>
    subst hrobot
    exact (hw.become hann).of_frame (Bridge.task_frame hgood hb).2 rfl
  | resume hb => exact hw.of_frame (Bridge.task_frame hgood hb).2 rfl
  | change hann =>
    subst hrobot
    exact hw.become hann
  | pollAnswer _ _ _ => exact hw.of_frame rfl rfl
  | accept _ _ => exact ⟨hw.cached, by simp⟩
  | monitor hserve hb =>
    cases (monitor_does hserve hb hgood).1 with
    | poll _ _ _ hd hstream _ => exact hw.of_frame (congrArg Device.currentState hd) hstream
    | polled _ hanswer _ hd hstream _ =>
      refine ⟨?_, by rw [hstream]; exact hw.ahead⟩
      rw [hd, (apply_effect _ _).currentState]
      exact hanswered _ hanswer _
    | unpolled _ _ hd hstream _ => exact hw.of_frame (congrArg Device.currentState hd) hstream
    | subscribed _ _ _ hd hstream _ => exact hw.of_frame (congrArg Device.currentState hd) hstream
    | event _ hstream _ hd hstream' _ =>
      have hahead := hw.ahead
      rw [hstream, Option.getD_some] at hahead
      refine ⟨?_, ?_⟩
      · rw [hd, (apply_effect _ _).currentState]
        exact LastWrite.after_of_forall (P := (· = s)) hw.cached (hahead _ List.mem_cons_self)
      · rw [hstream']
        exact fun attrs hattrs => hahead attrs (List.mem_cons_of_mem _ hattrs)
    | lost _ _ _ hd hstream _ => exact ⟨by rw [hd, hw.cached], by rw [hstream]; simp⟩

/-- The answer to a poll is taken up by a monitor that polls. -/
theorem monitorStep_polled {d d' : Device} {m m' : Monitor} {attrs : List StateAttribute} {o : Out}
    (h : d.monitorStep m (.polled (.ok attrs)) = some (d', m', o)) : m = .polling ∧ d' = (d.apply attrs).1 := by
  cases m with
  | ready => cases h
  | polling =>
    cases h
    exact ⟨rfl, rfl⟩
  | subscribing => cases h
  | streaming => cases h
  | waiting => cases h

/-- A poll that is taken up leaves its status, and no event on its way. -/
theorem World.StepDoes.polled_agrees {w w' : World} {attrs : List StateAttribute} {o : Out} {s : DeviceState}
    (h : w.StepDoes (.monitor (.polled (.ok attrs))) w' o) (hgood : w.bridge.Good) (hread : w.StreamRead)
    (hanswered : w.Answered s) : w'.Agrees s := by
  cases h with
  | monitor hserve hb =>
    simp only [serve] at hserve
    split at hserve
    · rename_i hanswer
      cases hserve
      obtain ⟨hm, hd⟩ := monitorStep_polled (Bridge.step_does hgood hb).1.1
      refine ⟨?_, ?_⟩
      · change _ = _ at hd
        rw [hd, (apply_effect _ _).currentState]
        exact hanswered _ hanswer _
      · -- a monitor that polls has no stream
        cases hopen : w.stream with
        | none => simp
        | some queue =>
          rcases hread (by rw [hopen]; rfl) with hm' | hm'
          · exact absurd (hm.symm.trans hm') (by simp)
          · exact absurd (hm.symm.trans hm') (by simp)
    · cases hserve

/-- What the monitor has missed, the next poll makes up for. Take any run from the start, whatever has been lost in it, and go on
for as long as the robot keeps its status, with any commands, events, failures and reconnections: from the moment that the monitor
takes up the answer to a poll of that time, the cached status is that of the robot in every state, and so the run mode and the
operational state that controllers read are the ones of that status. -/
theorem status_recovers {d : Device} {robot : Robot} {ts us vs : List WorldStep} {w w' : World} {t : WorldStep}
    {attrs : List StateAttribute} (hts : World.Run (.start d robot) ts w) (hrun : World.Run w (us ++ t :: vs) w')
    (hrobot : ∀ x ∈ Lts.visited w (us ++ t :: vs), x.robot.status = w.robot.status) (hanswer : w.pollAnswer = none)
    (ht : t.label = .monitor (.polled (.ok attrs))) :
    ∀ x ∈ Lts.visited t.after vs, x.bridge.device.currentState.inner = w.robot.status ∧
      RvcRunMode.currentMode x.bridge.device = (RunMode.ofDeviceState w.robot.status).toU8 ∧
      RvcOperationalState.operationalState x.bridge.device = (OperationalState.ofDeviceState w.robot.status).toU8 := by
  have hall := Lts.Run.append hts hrun
  have hgood : ∀ x ∈ us ++ t :: vs, x.before.bridge.Good ∧ x.before.StepDoes x.label x.after x.out :=
    fun x hx => World.Run.good hall (Bridge.good_start d) x (List.mem_append_right ts hx)
  have hread := ((Lts.Run.invariant_mem hall (World.streamRead_start d robot) fun x hx hw =>
    (World.Run.good hall (Bridge.good_start d) x hx).2.streamRead (World.Run.good hall (Bridge.good_start d) x hx).1 hw).2 t
      (by simp)).1
  have hstatus : ∀ x ∈ us ++ t :: vs, x.after.robot.status = w.robot.status :=
    fun x hx => hrobot x.after (List.mem_cons_of_mem _ (List.mem_map.mpr ⟨x, hx, rfl⟩))
  have hanswered := hrun.invariant_mem (I := World.Answered w.robot.status) (by rw [World.Answered, hanswer]; nofun)
    fun x hx hw => (hgood x hx).2.answered (hgood x hx).1 (hstatus x hx) hw
  have hdoes := (hgood t (by simp)).2
  rw [ht] at hdoes
  have hagrees := hdoes.polled_agrees (hgood t (by simp)).1 hread (hanswered.2 t (by simp)).1
  have hkept := hrun.of_append.invariant_visited (I := World.Agrees w.robot.status) hagrees fun x hx hw =>
    (hgood x (by simp [hx])).2.agrees (hgood x (by simp [hx])).1 (hstatus x (by simp [hx]))
      (hanswered.2 x (by simp [hx])).1 hw
  intro x hx
  have hcached := (hkept x hx).cached
  exact ⟨hcached, congrArg (fun s => (RunMode.ofDeviceState s).toU8) hcached,
    congrArg (fun s => (OperationalState.ofDeviceState s).toU8) hcached⟩

/-- The program has lost the start of a clean: it reads the stream and takes the robot to be docked. -/
def lateWorld : World where
  bridge := ⟨(Bridge.start mopAndVacuumDevice).tasks, .streaming⟩
  robot := cleaningRobot
  pollAnswer := none
  polled := ⟨.docked, .none⟩
  stream := some []

theorem run_lateWorld : ∃ ts, World.Run (.start mopAndVacuumDevice ⟨⟨.docked, .none⟩, .vacuum⟩) ts lateWorld := by
  have hexec : ∃ ts, Lts.exec World.step (.start mopAndVacuumDevice ⟨⟨.docked, .none⟩, .vacuum⟩) lateLabels =
      some (ts, lateWorld) := ⟨_, rfl⟩
  obtain ⟨ts, hts⟩ := hexec
  exact ⟨ts, Lts.run_of_exec hts⟩

/-- The stream ends, the monitor polls again, and a command is called. -/
theorem status_recovers_late : ∃ ts us t vs w', World.Run (.start mopAndVacuumDevice ⟨⟨.docked, .none⟩, .vacuum⟩) ts lateWorld ∧
    World.Run lateWorld (us ++ t :: vs) w' ∧ vs ≠ [] ∧
    RvcRunMode.currentMode lateWorld.bridge.device ≠ RvcRunMode.currentMode w'.bridge.device ∧
    RvcRunMode.currentMode w'.bridge.device = RunMode.cleaning.toU8 := by
  obtain ⟨ts, hts⟩ := run_lateWorld
  have hexec : (Lts.exec World.step lateWorld ([.monitor .streamEnd, .monitor .timer,
      .pollAnswer (statusAttributes .cleaning)] ++
      .monitor (.polled (.ok (statusAttributes .cleaning))) :: [.call .pause, .accept])).any
      (fun r => decide (∀ t ∈ r.1, t.after.robot.status = lateWorld.robot.status)) = true := by decide +kernel
  obtain ⟨us, t, vs, w', hrun, ht, hvs, hp⟩ := Lts.exists_run_cut_of_exec hexec
  have hafter : ∀ x ∈ us ++ t :: vs, x.after.robot.status = lateWorld.robot.status := of_decide_eq_true hp
  have hrobot : ∀ x ∈ Lts.visited lateWorld (us ++ t :: vs), x.robot.status = lateWorld.robot.status :=
    Lts.forall_mem_visited.mpr ⟨rfl, hafter⟩
  have hlast := hrun.of_append.last_mem
  have hmode := (status_recovers hts hrun hrobot rfl ht w' hlast).2.1
  refine ⟨ts, us, t, vs, w', hts, hrun, ?_, ?_, hmode⟩
  · rintro rfl
    cases hvs
  · rw [hmode]
    decide

/-! ## A poll can be had -/

/-- What a robot answers that reports its status and its preset. -/
def Robot.snapshot (r : Robot) : List StateAttribute :=
  [.statusStateAttribute r.status.value r.status.flag, .presetSelectionStateAttribute "operation_mode" r.preset.name]

theorem Robot.snapshot_reports (r : Robot) : Reports r r.snapshot ∧ HasStatus r.snapshot := by
  refine ⟨?_, _, List.mem_cons_self, rfl⟩
  intro a ha
  rcases List.mem_cons.mp ha with rfl | ha
  · exact ⟨by rintro _ ⟨⟩; rfl, nofun⟩
  · rw [List.mem_singleton.mp ha]
    exact ⟨nofun, by rintro _ ⟨⟩; rfl⟩

/-- A device that takes the snapshot up knows the robot. -/
theorem Robot.apply_snapshot (r : Robot) (d : Device) :
    (d.apply r.snapshot).1.currentState.inner = r.status ∧ (d.apply r.snapshot).1.currentPreset.inner = r.preset := by
  have heff := apply_effect d r.snapshot
  refine ⟨heff.currentState.trans rfl, ?_⟩
  rw [heff.currentPreset]
  simp [snapshot, StateAttribute.preset?, StateAttribute.operationMode?]

/-- A poll is on its way only to a monitor that waits for it. -/
def World.PollAwaited (w : World) : Prop := w.pollAnswer.isSome → w.bridge.monitor = .polling

theorem World.StepDoes.pollAwaited {w w' : World} {l : WorldLabel} {o : Out} (h : w.StepDoes l w' o)
    (hgood : w.bridge.Good) (hw : w.PollAwaited) : w'.PollAwaited := by
  cases h with
  | call hb => exact fun hsome => (Bridge.task_frame hgood hb).1.trans (hw hsome)
  | answer _ _ _ hb => exact fun hsome => (Bridge.task_frame hgood hb).1.trans (hw hsome)
  | resume hb => exact fun hsome => (Bridge.task_frame hgood hb).1.trans (hw hsome)
  | change _ => exact hw
  | pollAnswer hm _ _ => exact fun _ => hm
  | accept _ _ => exact hw
  | monitor hserve hb =>
    intro hsome
    cases (monitor_does hserve hb hgood).1 with
    | poll _ _ hm' _ _ _ => exact hm'
    | polled _ _ _ _ _ hnone =>
      rw [hnone] at hsome
      cases hsome
    | unpolled _ _ _ _ hnone =>
      rw [hnone] at hsome
      cases hsome
    | subscribed hm _ _ _ _ hsame =>
      rw [hsame] at hsome
      exact absurd (hm.symm.trans (hw hsome)) (by simp)
    | event hm _ _ _ _ hsame =>
      rw [hsame] at hsome
      exact absurd (hm.symm.trans (hw hsome)) (by simp)
    | lost _ hm _ _ _ hsame =>
      rw [hsame] at hsome
      rcases hm with hm | hm
      · exact absurd (hm.symm.trans (hw hsome)) (by simp)
      · exact absurd (hm.symm.trans (hw hsome)) (by simp)

/-- A step of the monitor that is served. -/
theorem World.monitor_step {w v : World} (ev : MonitorEvent) {d : Device} {m : Monitor} {o : Out}
    (hserve : w.serve ev = some v) (halive : v.bridge.tasks.alive)
    (h : v.bridge.device.monitorStep v.bridge.monitor ev = some (d, m, o)) :
    w.step (.monitor ev) = some ({ v with bridge := ⟨{ v.bridge.tasks with state := d }, m⟩ }, o) := by
  simp [step, run, hserve, Bridge.monitor_step ev halive h]

/-- The robot answers a poll or accepts a subscription, or the monitor goes on, be it by a poll or a subscription that fails or by
the end of the stream; but no command is called, answered or resumed, and the robot does not change. -/
def WorldLabel.Serves : WorldLabel → Prop
  | .pollAnswer _ | .accept | .monitor _ => True
  | .call _ | .answer _ _ _ _ | .resume _ | .change _ _ => False

/-- The monitor reads a stream with no event on its way, and the program knows the robot. -/
structure World.Recovered (robot : Robot) (w : World) : Prop where
  same : w.robot = robot
  monitor : w.bridge.monitor = .streaming
  stream : w.stream = some []
  status : w.bridge.device.currentState.inner = robot.status
  preset : w.bridge.device.currentPreset.inner = robot.preset

/-- So many steps of this kind lead to such a state. -/
def World.Recovers (n : Nat) (w : World) : Prop :=
  ∃ us w', World.Run w us w' ∧ us.length = n ∧ (∀ t ∈ us, t.label.Serves) ∧ w'.Recovered w.robot

theorem World.Recovers.cons {n : Nat} {w w' : World} {l : WorldLabel} {o : Out} (hstep : w.step l = some (w', o))
    (hl : l.Serves) (hrobot : w'.robot = w.robot) (h : w'.Recovers n) : w.Recovers (n + 1) := by
  obtain ⟨us, w'', hrun, hlength, hserves, hrecovered⟩ := h
  rw [hrobot] at hrecovered
  refine ⟨_, w'', .cons hstep hrun, by rw [List.length_cons, hlength], ?_, hrecovered⟩
  intro t ht
  rcases List.mem_cons.mp ht with rfl | ht
  · exact hl
  · exact hserves t ht

/-- A monitor that polls: the poll is answered and taken up, and the subscription accepted and taken up. -/
theorem World.recovers_polling {w : World} (halive : w.bridge.tasks.alive) (hm : w.bridge.monitor = .polling)
    (hanswer : w.pollAnswer = none) (hstream : w.stream = none) : w.Recovers 4 := by
  obtain ⟨⟨tasks, m⟩, robot, answer, polled, stream⟩ := w
  cases hm
  cases hanswer
  cases hstream
  obtain ⟨hreports, hstatus⟩ := robot.snapshot_reports
  obtain ⟨hstate, hpreset⟩ := robot.apply_snapshot tasks.state
  have hpoll : step ⟨⟨tasks, .polling⟩, robot, none, polled, none⟩ (.pollAnswer robot.snapshot) =
      some (⟨⟨tasks, .polling⟩, robot, some robot.snapshot, robot.status, none⟩, ⟨[], [], none⟩) :=
    if_pos ⟨rfl, rfl, hreports, hstatus⟩
  have htake : step ⟨⟨tasks, .polling⟩, robot, some robot.snapshot, robot.status, none⟩
      (.monitor (.polled (.ok robot.snapshot))) =
      some (⟨⟨{ tasks with state := (tasks.state.apply robot.snapshot).1 }, .subscribing⟩, robot, none, robot.status, none⟩,
        ⟨(tasks.state.apply robot.snapshot).2, [subscribeRequest], none⟩) := by
    have hserve : serve ⟨⟨tasks, .polling⟩, robot, some robot.snapshot, robot.status, none⟩ (.polled (.ok robot.snapshot)) =
        some ⟨⟨tasks, .polling⟩, robot, none, robot.status, none⟩ := if_pos rfl
    exact monitor_step _ hserve halive rfl
  have haccept : ∀ p : Tasks, step ⟨⟨p, .subscribing⟩, robot, none, robot.status, none⟩ .accept =
      some (⟨⟨p, .subscribing⟩, robot, none, robot.status, some []⟩, ⟨[], [], none⟩) := by
    intro p
    simp [step]
  have hsubscribe : ∀ p : Tasks, p.alive → step ⟨⟨p, .subscribing⟩, robot, none, robot.status, some []⟩
      (.monitor (.subscribed (.ok ()))) =
      some (⟨⟨p, .streaming⟩, robot, none, robot.status, some []⟩, ⟨[], [], none⟩) := by
    intro p hp
    have hserve : serve ⟨⟨p, .subscribing⟩, robot, none, robot.status, some []⟩ (.subscribed (.ok ())) =
        some ⟨⟨p, .subscribing⟩, robot, none, robot.status, some []⟩ := by simp [serve]
    exact monitor_step _ hserve hp rfl
  refine .cons hpoll trivial rfl (.cons htake trivial rfl (.cons (haccept _) trivial rfl ?_))
  refine .cons (hsubscribe _ halive) trivial rfl ?_
  exact ⟨[], _, .nil _, rfl, by simp, rfl, rfl, rfl, hstate, hpreset⟩

/-- The program can always recover. From every state of every run from the start in which the process is alive, whatever has been
lost or is on its way, at most six steps of the monitor and of polls and subscriptions, with no command and no change of the
robot, lead to a state in which the monitor reads an open stream and the cached status and preset are those of the robot. Some of
these steps may be failures, or the end of a stream: here a monitor that waits for an answer gets an error first, and one that
reads a stream loses it, for only a new poll makes up for what has been missed. -/
theorem can_recover {d : Device} {robot : Robot} {ts : List WorldStep} {w : World}
    (hrun : World.Run (.start d robot) ts w) (halive : w.bridge.tasks.alive) : ∃ n ≤ 6, w.Recovers n := by
  have hgood := hrun.good (Bridge.good_start d)
  have hread := (hrun.invariant_mem (I := World.StreamRead) (World.streamRead_start d robot)
    fun t ht hw => (hgood t ht).2.streamRead (hgood t ht).1 hw).1
  have hawaited := (hrun.invariant_mem (I := World.PollAwaited) nofun
    fun t ht hw => (hgood t ht).2.pollAwaited (hgood t ht).1 hw).1
  have hclosed : w.bridge.monitor ≠ .subscribing → w.bridge.monitor ≠ .streaming → w.stream = none := by
    intro hsub hstr
    by_contra hopen
    rcases hread (Option.isSome_iff_ne_none.mpr hopen) with hm | hm
    · exact hsub hm
    · exact hstr hm
  have hidle : w.bridge.monitor ≠ .polling → w.pollAnswer = none := by
    intro hm
    by_contra hsome
    exact hm (hawaited (Option.isSome_iff_ne_none.mpr hsome))
  obtain ⟨⟨tasks, m⟩, robot', answer, polled, stream⟩ := w
  -- a monitor that waits polls after a second, whatever the last poll was answered with
  have hwaiting : ∀ stream, stream = none → World.Recovers 5 ⟨⟨tasks, .waiting⟩, robot', none, polled, stream⟩ := by
    rintro _ rfl
    exact .cons (World.monitor_step .timer rfl halive rfl) trivial rfl (World.recovers_polling halive rfl rfl rfl)
  cases m with
  | ready =>
    obtain rfl : answer = none := hidle nofun
    obtain rfl : stream = none := hclosed nofun nofun
    exact ⟨5, by omega, .cons (World.monitor_step .begin rfl halive rfl) trivial rfl
      (World.recovers_polling halive rfl rfl rfl)⟩
  | polling =>
    -- the answer on its way may be old: the poll fails
    refine ⟨6, le_rfl, .cons (World.monitor_step (.polled (.error (.msg "timeout"))) rfl halive rfl) trivial rfl ?_⟩
    exact hwaiting stream (hclosed nofun nofun)
  | subscribing =>
    obtain rfl : answer = none := hidle nofun
    refine ⟨6, le_rfl, .cons (World.monitor_step (.subscribed (.error (.msg "timeout"))) rfl halive rfl) trivial rfl ?_⟩
    exact hwaiting none rfl
  | streaming =>
    obtain rfl : answer = none := hidle nofun
    refine ⟨6, le_rfl, .cons (World.monitor_step .streamEnd rfl halive rfl) trivial rfl ?_⟩
    exact hwaiting none rfl
  | waiting =>
    obtain rfl : answer = none := hidle nofun
    exact ⟨5, by omega, hwaiting stream (hclosed nofun nofun)⟩

/-- It can recover from having lost the start of a clean, once the stream ends. -/
theorem can_recover_late : ∃ n ≤ 6, lateWorld.Recovers n := by
  obtain ⟨ts, hts⟩ := run_lateWorld
  exact can_recover hts rfl

end ValetudoMatter
