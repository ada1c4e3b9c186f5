import ValetudoMatter.Lemmas.Init
import ValetudoMatter.Lemmas.Stream

/-!
# The last run-mode command

A run-mode command is sent on only if the cached status is of another mode, and the cache is left to the events. A command that
is sent on is obeyed (`World.StepDoes.obeys`); one that finds the mode it asks for in the cache, while the robot is in the other
and the event on its way, is acknowledged and dropped (`cleaning_not_stopped`).
-/

namespace ValetudoMatter

open Coroutine

/-- The mode of the robot. -/
def Robot.runMode (r : Robot) : RunMode := RunMode.ofDeviceState r.status

/-- The mode that the program takes the robot to be in. -/
def World.cachedRunMode (w : World) : RunMode := RunMode.ofDeviceState w.bridge.device.currentState.inner

/-- One run-mode command after another: it is called for idle or cleaning when no command waits, every PUT succeeds, and nothing
else changes the status of the robot. -/
def World.Sequential (w : World) : WorldLabel → Prop
  | .call c => w.bridge.tasks.tasks = [] ∧ (c = .changeRunMode (.ok RunMode.idle.toU8) ∨
      c = .changeRunMode (.ok RunMode.cleaning.toU8))
  | .answer _ res _ _ => res = .ok ()
  | .change robot _ => robot.status = w.robot.status
  | _ => True

instance (w : World) : (l : WorldLabel) → Decidable (w.Sequential l)
  | .call c => inferInstanceAs (Decidable (w.bridge.tasks.tasks = [] ∧
      (c = .changeRunMode (.ok RunMode.idle.toU8) ∨ c = .changeRunMode (.ok RunMode.cleaning.toU8))))
  | .answer _ res _ _ => inferInstanceAs (Decidable (res = .ok ()))
  | .change robot _ => inferInstanceAs (Decidable (robot.status = w.robot.status))
  | .resume _ | .pollAnswer _ | .accept | .monitor _ => .isTrue trivial

/-- A call of a command. -/
def WorldLabel.isCall : WorldLabel → Bool
  | .call _ => true
  | _ => false

/-! ## What the robot is asked for -/

/-- The request puts the robot into a mode. -/
def HttpRequest.Asks (r : HttpRequest) : RunMode → Prop
  | .idle => r = stopRequest
  | .cleaning => r.Starts
  | .mapping => False

/-- A request at another path asks for no preset. -/
theorem preset?_eq_none {r : HttpRequest} (h : r.path ≠ presetPath) : r.preset? = none := by
  apply List.find?_eq_none.mpr
  intro p _ hp
  apply h
  rw [of_decide_eq_true hp]
  rfl

/-- A robot that does what it is asked for is in the mode. -/
theorem Performs.runMode {r : HttpRequest} {m : RunMode} {robot robot' : Robot} (h : Performs r robot robot')
    (hasks : r.Asks m) : robot'.runMode = m := by
  have hpath : r.path ≠ presetPath := by
    cases m with
    | idle =>
      rw [show r = stopRequest from hasks]
      decide
    | cleaning =>
      rcases (show r.Starts from hasks) with rfl | hpath
      · decide
      · rw [hpath]
        decide
    | mapping => exact hasks.elim
  simp only [Performs, preset?_eq_none hpath] at h
  obtain ⟨-, hstop, hstart⟩ := h
  cases m with
  | idle => simp [Robot.runMode, RunMode.ofDeviceState, hstop hasks]
  | cleaning => simp [Robot.runMode, RunMode.ofDeviceState, hstart hasks]
  | mapping => exact hasks.elim

/-- A start asks for cleaning, whatever areas are selected. -/
theorem startRequest_starts (d : Device) : (startRequest d).Starts := by
  unfold startRequest
  split
  · exact .inl rfl
  · exact .inr rfl

/-- A command for idle or cleaning sends what asks for it, if the cached status is of another mode, and nothing otherwise. -/
theorem changeRunMode_sends {d : Device} {m : RunMode} (hm : m = .idle ∨ m = .cleaning) :
    (RunMode.ofDeviceState d.currentState.inner = m → ∀ r, ¬ (Command.changeRunMode (.ok m.toU8)).Sends d r) ∧
      (RunMode.ofDeviceState d.currentState.inner ≠ m →
        ∃ r, (Command.changeRunMode (.ok m.toU8)).Sends d r ∧ r.Asks m) := by
  rcases hm with rfl | rfl
  · exact ⟨fun h r hr => hr.1 h, fun h => ⟨stopRequest, ⟨h, rfl⟩, rfl⟩⟩
  · exact ⟨fun h r hr => hr.1 h, fun h => ⟨startRequest d, ⟨h, rfl⟩, startRequest_starts d⟩⟩

/-! ## After the last command -/

/-- The robot is in the mode, or the one command that waits has asked it to and is not answered yet. -/
def World.Obeys (m : RunMode) (w : World) : Prop :=
  (∃ task, w.bridge.tasks.tasks = [task] ∧ task.answer = none ∧ task.request.Asks m) ∨
    ((∀ task ∈ w.bridge.tasks.tasks, task.answer ≠ none) ∧ w.robot.runMode = m)

/-- A call for a mode: from here on the robot obeys, or the cached status was of the mode and the robot stays as it is. -/
theorem World.StepDoes.obeys_call {w w' : World} {m : RunMode} {o : Out}
    (h : w.StepDoes (.call (.changeRunMode (.ok m.toU8))) w' o) (hgood : w.bridge.Good) (hm : m = .idle ∨ m = .cleaning)
    (htasks : w.bridge.tasks.tasks = []) :
    w'.Obeys (if w.cachedRunMode = m then w.robot.runMode else m) := by
  cases h with
  | @call _ b _ hb =>
    obtain ⟨⟨-, stop, heff, hafter, -⟩, -⟩ := Bridge.step_does hgood hb
    obtain ⟨hsame, hother⟩ := changeRunMode_sends (d := w.bridge.device) hm
    split
    · rename_i hcached
      cases stop with
      | await r => exact absurd ((heff.sends r).mp rfl).2 (hsame hcached r)
      | exit x =>
        have hempty : b.tasks.tasks = [] := by rw [← htasks]; exact hafter
        exact .inr ⟨by simp [hempty], rfl⟩
    · rename_i hcached
      obtain ⟨r, hsends, hasks⟩ := hother hcached
      obtain rfl := (heff.sends r).mpr ⟨rfl, hsends⟩
      obtain ⟨k, hk⟩ := hafter
      rw [htasks, List.nil_append] at hk
      exact .inl ⟨_, hk, rfl, hasks⟩

/-- When the command that waits is answered with success, the robot is in its mode. -/
theorem World.Obeys.answer {w : World} {m : RunMode} {i : Nat} {task : CommandTask} {robot : Robot}
    {event : Option (List StateAttribute)} {b : Bridge} {o : Out} (hw : w.Obeys m) (hgood : w.bridge.Good)
    (htask : w.bridge.tasks.tasks[i]? = some task) (hacts : Performs task.request w.robot robot)
    (hb : w.bridge.step (.task (.answer i (.ok ()))) = some (b, o)) :
    World.Obeys m { w.become robot event with bridge := b } := by
  obtain ⟨⟨-, -, -, task', htask', hnone, hafter⟩, -⟩ := Bridge.step_does hgood hb
  obtain rfl : task = task' := Option.some.inj (htask.symm.trans htask')
  rcases hw with ⟨waiting, htasks, -, hasks⟩ | ⟨hanswered, -⟩
  · obtain rfl : task = waiting := by
      rw [htasks] at htask
      exact List.mem_singleton.mp (List.mem_of_getElem? htask)
    refine .inr ⟨?_, hacts.runMode hasks⟩
    intro t ht
    rw [show b.tasks.tasks = _ from hafter, htasks] at ht
    cases i with
    | zero =>
      rw [List.mem_singleton.mp ht]
      simp
    | succ i => simp [htasks] at htask
  · exact absurd hnone (hanswered task (List.mem_of_getElem? htask))

/-- Until the next call, the robot obeys. -/
theorem World.StepDoes.obeys {w w' : World} {m : RunMode} {l : WorldLabel} {o : Out} (h : w.StepDoes l w' o)
    (hgood : w.bridge.Good) (hseq : w.Sequential l) (hcall : l.isCall = false) (hw : w.Obeys m) : w'.Obeys m := by
  cases h with
  | call _ => cases hcall
  | answer htask hacts _ hb =>
    cases hseq
    exact hw.answer hgood htask hacts hb
  | @resume i b _ hb =>
    obtain ⟨⟨-, -, hafter, t, res, x, ht, hres, -⟩, -⟩ := Bridge.step_does hgood hb
    rcases hw with ⟨task, htasks, hnone, -⟩ | ⟨hanswered, hmode⟩
    · -- the command that waits has no answer to be resumed with
      rw [htasks] at ht
      rw [List.mem_singleton.mp (List.mem_of_getElem? ht), hnone] at hres
      cases hres
    · refine .inr ⟨?_, hmode⟩
      intro task htask
      rw [show b.tasks.tasks = _ from hafter] at htask
      exact hanswered task (List.mem_of_mem_eraseIdx htask)
  | change _ =>
    rcases hw with hwaits | ⟨hanswered, hmode⟩
    · exact .inl hwaits
    · refine .inr ⟨hanswered, ?_⟩
      rw [← hmode]
      exact congrArg RunMode.ofDeviceState hseq
  | pollAnswer _ _ _ => exact hw
  | accept _ _ => exact hw
  | @monitor _ v b _ hserve hb =>
    have htasks : b.tasks.tasks = w.bridge.tasks.tasks := (monitor_does hserve hb hgood).2
    have hrobot : v.robot = w.robot := (serve_frame hserve).2.1
    rcases hw with ⟨task, hwaits⟩ | ⟨hanswered, hmode⟩
    · exact .inl ⟨task, htasks.trans hwaits.1, hwaits.2⟩
    · exact .inr ⟨fun task htask => hanswered task (htasks ▸ htask), by rw [← hmode, hrobot]⟩

/-- The last run-mode command wins unless it is dropped. In every run of commands for idle and cleaning, one after another, with
the events in any delay, the robot is in the mode that the last command has asked for once this command is answered, exactly
when it was not called while the cached status was of this mode and the robot in the other. -/
theorem last_runMode_wins_iff {w w' : World} {ts us : List WorldStep} {t : WorldStep} {m : RunMode}
    (hstart : w.bridge.tasks.tasks = []) (hrun : World.Run w (ts ++ t :: us) w')
    (hseq : ∀ u ∈ ts ++ t :: us, u.before.Sequential u.label)
    (hcall : t.label = .call (.changeRunMode (.ok m.toU8))) (hlast : ∀ u ∈ us, u.label.isCall = false)
    (hanswered : w'.bridge.tasks.tasks = []) :
    w'.robot.runMode = m ↔ ¬ (t.before.cachedRunMode = m ∧ t.before.robot.runMode ≠ m) := by
  have hgood := hrun.good (fun task htask => by simp [hstart] at htask)
  have ht : t ∈ ts ++ t :: us := by simp
  have hus : ∀ u ∈ us, u ∈ ts ++ t :: us := fun u hu => by simp [hu]
  obtain ⟨hbefore, hdoes⟩ := hgood t ht
  have hseq_t := hseq t ht
  rw [hcall] at hdoes hseq_t
  obtain ⟨htasks, hcommand⟩ := hseq_t
  have hm : m = .idle ∨ m = .cleaning := by
    simp only [Command.changeRunMode.injEq, Except.ok.injEq] at hcommand
    have hinj : ∀ m', m.toU8 = RunMode.toU8 m' → m = m' := by
      intro m' h
      have := congrArg RunMode.tryFrom h
      simpa using this
    exact hcommand.imp (hinj _) (hinj _)
  have hafter := hrun.of_append.invariant_mem (hdoes.obeys_call hbefore hm htasks) (fun u hu hw =>
    (hgood u (hus u hu)).2.obeys (hgood u (hus u hu)).1 (hseq u (hus u hu)) (hlast u hu) hw)
  have hmode : w'.robot.runMode = if t.before.cachedRunMode = m then t.before.robot.runMode else m := by
    rcases hafter.1 with ⟨task, hwaits, -⟩ | ⟨-, hmode⟩
    · simp [hanswered] at hwaits
    · exact hmode
  rw [hmode]
  split
  · rename_i hcached
    simp [hcached]
  · rename_i hcached
    simp [hcached]

/-- A command can be dropped only while an event is on its way. In every run on a connected stream from a state where the events
on their way lead to the status of the robot, the cached mode is the robot's in all states with no event on its way. -/
theorem cachedRunMode_of_delivered {w w' : World} {ts : List WorldStep} (hgood : w.bridge.Good) (hreading : w.Reading)
    (hahead : w.statusAhead = w.robot.status) (hrun : World.Run w ts w') (hconn : ∀ t ∈ ts, t.label.Connected) :
    ∀ s ∈ Lts.visited w ts, s.stream = some [] → s.cachedRunMode = s.robot.runMode := by
  have hdoes := hrun.good hgood
  have hinv := hrun.invariant_visited (I := fun s => s.Reading ∧ s.Current) ⟨hreading, fun _ => hahead⟩ (by
    rintro t ht ⟨hreads, hcurrent⟩
    obtain ⟨hbefore, hstep⟩ := hdoes t ht
    refine ⟨hstep.reading hbefore (hconn t ht) hreads, hstep.current hbefore (fun _ => .inr hreads.1) ?_ hcurrent⟩
    -- a monitor that reads the stream has no subscription to be accepted
    intro hlabel
    rw [hlabel] at hstep
    cases hreads.1.symm.trans hstep.of_accept.1)
  intro s hs hstream
  have hstatus := (hinv s hs).2 (by simp [hstream])
  rw [World.statusAhead_of_nil hstream] at hstatus
  exact congrArg RunMode.ofDeviceState hstatus

/-! ## A command that is dropped -/

def idleRobot : Robot := ⟨⟨.idle, .none⟩, .vacuum⟩

/-- A command for cleaning, which is obeyed. -/
def cleanLabels : List WorldLabel :=
  [.answer 0 (.ok ()) ⟨⟨.cleaning, .none⟩, .vacuum⟩ (some (statusAttributes .cleaning)), .resume 0]

/-- A command for cleaning, one for idle, and then the event of the first. -/
def stopTooSoonLabels : List WorldLabel :=
  (.call (.changeRunMode (.ok 1)) :: cleanLabels) ++
    .call (.changeRunMode (.ok 0)) :: [.monitor (.event (statusAttributes .cleaning))]

/-- Both commands are answered with success, and the robot cleans. -/
theorem cleaning_not_stopped :
    ∃ ts w us t vs w', World.Run (.start mopAndVacuumDevice idleRobot) ts w ∧ w.Reading ∧ w.bridge.tasks.tasks = [] ∧
      w.stream = some [] ∧ w.bridge.device.currentState.inner = w.robot.status ∧ w.robot.status.value = .idle ∧
      World.Run w (us ++ t :: vs) w' ∧ (∀ u ∈ us ++ t :: vs, u.label.Connected ∧ u.before.Sequential u.label) ∧
      t.label = .call (.changeRunMode (.ok RunMode.idle.toU8)) ∧
      t.out.replied = some (.changeRunMode (.ok RunMode.idle.toU8), .done (.changeToMode .success)) ∧
      (∀ v ∈ vs, v.label.isCall = false) ∧ w'.bridge.tasks.tasks = [] ∧ w'.stream = some [] ∧
      w'.robot.runMode = .cleaning := by
  have hexec : (Lts.exec World.step (.start mopAndVacuumDevice idleRobot) (connectLabels .idle)).any (fun r =>
      decide (r.2.bridge.monitor = .streaming ∧ r.2.bridge.tasks.tasks = [] ∧ r.2.stream = some [] ∧
        r.2.bridge.device.currentState.inner = r.2.robot.status ∧ r.2.robot.status.value = .idle) &&
      (Lts.exec World.step r.2 stopTooSoonLabels).any (fun s =>
        decide ((∀ u ∈ s.1, u.label.Connected ∧ u.before.Sequential u.label) ∧
          (∀ u ∈ s.1, u.label = .call (.changeRunMode (.ok 0)) →
            u.out.replied = some (.changeRunMode (.ok 0), .done (.changeToMode .success))) ∧
          s.2.bridge.tasks.tasks = [] ∧ s.2.stream = some [] ∧ s.2.robot.runMode = .cleaning))) = true := by
    decide +kernel
  obtain ⟨ts, w, hrun, hp⟩ := Lts.exists_run_of_exec hexec
  rw [Bool.and_eq_true, decide_eq_true_eq] at hp
  obtain ⟨⟨hmonitor, htasks, hstream, hstate, hidle⟩, hexec'⟩ := hp
  obtain ⟨us, t, vs, w', hrun', hcall, hlabels, hq⟩ := Lts.exists_run_cut_of_exec hexec'
  obtain ⟨hsteps, hreplied, hdone⟩ := of_decide_eq_true hq
  have hopen : w.stream.isSome := by rw [show w.stream = some [] from hstream]; rfl
  have hlast : ∀ l ∈ vs.map (·.label), l.isCall = false := by
    rw [hlabels]
    decide
  exact ⟨ts, w, us, t, vs, w', hrun, ⟨hmonitor, hopen⟩, htasks, hstream, hstate, hidle, hrun', hsteps, hcall,
    hreplied t (by simp) hcall, fun v hv => hlast _ (List.mem_map_of_mem hv), hdone⟩

/-- A command for cleaning, its event, and then one for idle. -/
def stopAfterEventLabels : List WorldLabel :=
  (connectLabels .idle ++ (.call (.changeRunMode (.ok 1)) :: cleanLabels) ++
      [.monitor (.event (statusAttributes .cleaning))]) ++
    .call (.changeRunMode (.ok 0)) :: [.answer 0 (.ok ()) idleRobot (some (statusAttributes .idle)), .resume 0]

/-- The second command finds the event of the first delivered, and stops the robot. -/
theorem cleaning_stopped : ∃ ts t us w', World.Run (.start mopAndVacuumDevice idleRobot) (ts ++ t :: us) w' ∧
    t.label = .call (.changeRunMode (.ok RunMode.idle.toU8)) ∧ t.before.robot.runMode = .cleaning ∧
    t.before.cachedRunMode = .cleaning ∧ w'.bridge.tasks.tasks = [] ∧ w'.robot.runMode = .idle := by
  have hexec : (Lts.exec World.step (.start mopAndVacuumDevice idleRobot) stopAfterEventLabels).any (fun s =>
        decide ((∀ u ∈ s.1, u.before.Sequential u.label) ∧
          (∀ u ∈ s.1, u.label = .call (.changeRunMode (.ok 0)) →
            u.before.robot.runMode = .cleaning ∧ u.before.cachedRunMode = .cleaning) ∧
          s.2.bridge.tasks.tasks = [])) = true := by decide +kernel
  obtain ⟨ts, t, us, w', hrun, hcall, hlabels, hp⟩ := Lts.exists_run_cut_of_exec hexec
  obtain ⟨hseq, hbefore, hdone⟩ := of_decide_eq_true hp
  obtain ⟨hrobot, hcached⟩ := hbefore t (by simp) hcall
  have hlast : ∀ l ∈ us.map (·.label), l.isCall = false := by
    rw [hlabels]
    decide
  have hstop : t.label = .call (.changeRunMode (.ok RunMode.idle.toU8)) := hcall
  refine ⟨ts, t, us, w', hrun, hstop, hrobot, hcached, hdone, ?_⟩
  apply (last_runMode_wins_iff rfl hrun hseq hstop (fun u hu => hlast _ (List.mem_map_of_mem hu)) hdone).mpr
  rintro ⟨hidle, -⟩
  rw [hcached] at hidle
  cases hidle

end ValetudoMatter
