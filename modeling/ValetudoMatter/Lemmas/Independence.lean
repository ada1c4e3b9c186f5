import ValetudoMatter.Lib.Alike
import ValetudoMatter.Lib.Simulation
import ValetudoMatter.Lemmas.Replies
import ValetudoMatter.Lemmas.World
import ValetudoMatter.Theorems.Snapshots

/-!
# What commands and monitor do not depend on

The commands read of the device what controllers and `init` have put there, and only a run-mode command reads what the robot
reports: all others do the same on devices that differ in that (`dmHandler_blind`), so that the tasks alone simulate them
(`commandSimulation`). The monitor writes the status by the status alone (`monitorStep_currentState`), so that it alone simulates
what it does in the program (`monitorSimulation`).
-/

namespace ValetudoMatter

open Coroutine

/-- Two devices that differ at most in what the robot reports. -/
structure SameControls (d d' : Device) : Prop where
  capabilities : d'.capabilities = d.capabilities
  cleaningPresets : d'.cleaningPresets = d.cleaningPresets
  identifyTime : d'.identifyTime = d.identifyTime
  segments : d'.segments = d.segments
  selectedAreas : d'.selectedAreas = d.selectedAreas

/-- A computation that does the same on devices that differ at most in what the robot reports. -/
abbrev Handler.Blind {α : Type} (x : Handler α) : Prop := x.Alike SameControls Eq x

theorem Handler.Blind.bind {α γ : Type} {x : Handler α} {f : α → Handler γ} (hx : x.Blind) (hf : ∀ a, (f a).Blind) :
    Handler.Blind (x >>= f) := by
  refine Co.Alike.bind hx ?_
  rintro a _ rfl
  exact hf a

/-- A computation that reads the device and goes on alike. -/
theorem Handler.Blind.read {γ : Type} {f : Device → Handler γ}
    (hf : ∀ d d', SameControls d d' → (f d).Alike SameControls Eq (f d')) : Handler.Blind (Co.get >>= f) :=
  Co.Alike.bind .get hf

/-- A computation that goes on where a field decodes. -/
theorem Handler.Blind.decode {α γ : Type} {field : Tlv α} {f : α → Handler γ} (hf : ∀ a, field = .ok a → (f a).Blind) :
    Handler.Blind (Co.ofExcept field >>= f) := by
  intro d d' h
  rcases field with e | a
  · exact .fail h
  · exact (hf a rfl d d' h).emit []

theorem put_blind (path body : String) : (put path body).Blind := .await _

/-- What a handler does that reports the result of a PUT. -/
theorem reportTo_blind {α : Type} (a : α) {x : Handler (Except AnyhowError Unit)} (hx : x.Blind) :
    Handler.Blind (do
      let res ← x
      Co.ofExcept (res.mapError toMatterErr)
      return a) :=
  .bind hx fun _ => .bind (.ofExcept _) fun _ => .pure rfl

theorem identifyRobot_blind (ctx : OperationContext) (dur : UInt16) : (Device.identifyRobot ctx dur).Blind := by
  unfold Device.identifyRobot
  refine .read ?_
  intro d d' h
  rw [h.identifyTime, h.capabilities]
  rcases d.identifyTime.replaceNotify dur ctx with ⟨oldValue, cell, ns⟩
  dsimp only
  refine .bind (.set ⟨rfl, h.cleaningPresets, rfl, h.segments, h.selectedAreas⟩) ?_
  rintro _ _ rfl
  refine Handler.Blind.bind (.emit ns) fun _ => ?_
  have hfinish : ∀ res : Except MatterError Unit, Handler.Blind (do
      let device ← Co.get
      Co.set { device with identifyTime := (device.identifyTime.setNotify 0 ctx).1 }
      Co.emit (device.identifyTime.setNotify 0 ctx).2
      Co.ofExcept res) := by
    intro res
    refine .read ?_
    intro d d' h
    rw [h.identifyTime]
    refine .bind (.set ⟨h.capabilities, h.cleaningPresets, rfl, h.segments, h.selectedAreas⟩) ?_
    rintro _ _ rfl
    exact Handler.Blind.bind (.emit _) fun _ => .ofExcept res
  split
  · exact .pure rfl
  · split
    · exact Handler.Blind.bind (put_blind _ _) fun res => .bind (.pure rfl) hfinish
    · exact Handler.Blind.bind (.pure rfl) hfinish

theorem startCleaning_blind : Device.startCleaning.Blind := by
  unfold Device.startCleaning
  refine .read ?_
  intro d d' h
  rw [h.selectedAreas, h.segments]
  dsimp only
  split
  · exact put_blind _ _
  · exact put_blind _ _

theorem handleSelectAreas_blind (ctx : OperationContext) (newAreas : Tlv (List (Tlv UInt32))) :
    (ServiceArea.handleSelectAreas ctx newAreas).Blind := by
  unfold ServiceArea.handleSelectAreas
  refine .read ?_
  intro d d' h
  have hvalid : ServiceArea.validIds d' = ServiceArea.validIds d := congrArg (List.filterMap segmentAreaId) h.segments
  rw [hvalid]
  refine .bind (.ofExcept newAreas) ?_
  rintro areas _ rfl
  split
  · exact .fail _
  · exact .pure rfl
  · refine .bind (.set ⟨h.capabilities, h.cleaningPresets, h.identifyTime, h.segments, rfl⟩) ?_
    rintro _ _ rfl
    exact Handler.Blind.bind (.emit _) fun _ => .pure rfl

/-- A clean-mode command writes the preset, which the robot reports too. -/
theorem handleCleanMode_blind (newMode : Tlv UInt8) : (RvcCleanMode.handleChangeToMode newMode).Blind := by
  unfold RvcCleanMode.handleChangeToMode
  refine .bind (.ofExcept newMode) fun mode => ?_
  dsimp only
  split
  · rename_i m _
    have hsend : Handler.Blind (do
        let res ← Device.setPreset m.toPreset
        Co.ofExcept (res.mapError toMatterErr)
        let device ← Co.get
        Co.set { device with currentPreset := device.currentPreset.set m.toPreset }
        return ChangeToModeResponse.success) := by
      refine .bind (put_blind _ _) fun res => .bind (.ofExcept _) fun _ => .read ?_
      intro d d' h
      refine .bind (.set ⟨h.capabilities, h.cleaningPresets, h.identifyTime, h.segments, h.selectedAreas⟩) ?_
      rintro _ _ rfl
      exact .pure rfl
    refine .read ?_
    intro d d' h
    rw [h.cleaningPresets]
    split
    · exact Handler.Blind.bind (.fail _) fun _ => hsend
    · exact hsend
  · exact .fail _

/-- A run-mode command that does not decode to a mode is rejected unseen. -/
theorem handleRunMode_blind (newMode : Tlv UInt8) (hmode : (Command.changeRunMode newMode).runMode? = none) :
    (RvcRunMode.handleChangeToMode newMode).Blind := by
  unfold RvcRunMode.handleChangeToMode
  refine .decode fun b hb => ?_
  subst hb
  rw [show RunMode.tryFrom b = none from hmode]
  exact .fail _

/-- Every command but a run-mode one that decodes to a mode. -/
theorem dmHandler_blind (c : Command) (hc : c.runMode? = none) : (dmHandler c).Blind := by
  cases c with
  | identify time => exact .bind (.bind (.ofExcept time) fun dur => identifyRobot_blind _ dur) fun _ => .pure rfl
  | setIdentifyTime dur => exact .bind (identifyRobot_blind _ dur) fun _ => .pure rfl
  | triggerEffect => exact Handler.Blind.bind (.fail _) fun _ => .pure rfl
  | changeRunMode mode => exact .bind (handleRunMode_blind mode hc) fun _ => .pure rfl
  | changeCleanMode mode => exact .bind (handleCleanMode_blind mode) fun _ => .pure rfl
  | pause => exact .bind (reportTo_blind _ (put_blind _ _)) fun _ => .pure rfl
  | resume => exact .bind (reportTo_blind _ startCleaning_blind) fun _ => .pure rfl
  | goHome => exact .bind (reportTo_blind _ (put_blind _ _)) fun _ => .pure rfl
  | selectAreas areas => exact .bind (handleSelectAreas_blind _ areas) fun _ => .pure rfl
  | skipArea => exact Handler.Blind.bind (.pure rfl) fun _ => .pure rfl

/-! ## The commands without the monitor -/

theorem SameControls.symm {d d' : Device} (h : SameControls d d') : SameControls d' d :=
  ⟨h.capabilities.symm, h.cleaningPresets.symm, h.identifyTime.symm, h.segments.symm, h.selectedAreas.symm⟩

theorem SameControls.trans {d d' d'' : Device} (h : SameControls d d') (h' : SameControls d' d'') : SameControls d d'' :=
  ⟨h'.capabilities.trans h.capabilities, h'.cleaningPresets.trans h.cleaningPresets, h'.identifyTime.trans h.identifyTime,
    h'.segments.trans h.segments, h'.selectedAreas.trans h.selectedAreas⟩

/-- The monitor leaves what the commands read. -/
theorem monitorStep_sameControls {d d' : Device} {m m' : Monitor} {ev : MonitorEvent} {o : Out}
    (h : d.monitorStep m ev = some (d', m', o)) : SameControls d d' := by
  rcases monitorStep_effect h with ⟨rfl, -⟩ | ⟨attrs, -, rfl, -⟩
  · exact ⟨rfl, rfl, rfl, rfl, rfl⟩
  · have heff := apply_effect d attrs
    exact ⟨heff.sameRobot.capabilities, heff.sameRobot.cleaningPresets, heff.identifyTime, heff.sameRobot.segments,
      heff.selectedAreas⟩

/-- What a step of a command does, as others see it. -/
def Step.command (t : Step) : List (Event (Except AnyhowError Unit) Command × Out) :=
  match t.label with
  | .task e => [(e, t.out)]
  | .monitor _ => []

/-- A step that calls no run-mode command that decodes to a mode. -/
def Step.Unmoded (t : Step) : Prop := ∀ c ∈ t.called, c.runMode? = none

instance (t : Step) : Decidable t.Unmoded := inferInstanceAs (Decidable (∀ c ∈ t.called, c.runMode? = none))

/-- A step of the tasks of the program, without the monitor. -/
abbrev TaskStep : Type :=
  Lts.Transition Tasks (Event (Except AnyhowError Unit) Command)
    (Option (Segment Notification HttpRequest MatterError Reply Command))

/-- The tasks alone simulate what the commands do in the program. -/
def commandSimulation : Lts.Simulation Bridge.step (Pool.step dmHandler) Step.Unmoded Step.command
    (fun u : TaskStep => [(u.label, Out.ofSegment u.out)]) where
  rel b p := b.tasks.Alike SameControls p
  match_step := by
    rintro ⟨b, l, o, b'⟩ p hstep hunmoded hrel
    change b.step l = some (b', o) at hstep
    rcases l with e | ev
    · obtain ⟨⟨q, seg⟩, hq, heq⟩ := Option.map_eq_some_iff.mp hstep
      cases heq
      have hblind : ∀ c, e = .call c → (dmHandler c).Blind := by
        rintro c rfl
        exact dmHandler_blind c (hunmoded c List.mem_cons_self)
      obtain ⟨p', hp', hrel'⟩ := Pool.step_alike hrel hblind hq
      exact ⟨_, p', .single hp', rfl, hrel'⟩
    · obtain ⟨hstate, htasks, halive⟩ := hrel
      simp only [Bridge.step] at hstep
      split at hstep
      · obtain ⟨⟨d, m, o'⟩, hm, heq⟩ := Option.map_eq_some_iff.mp hstep
        cases heq
        exact ⟨[], p, .nil p, rfl, (monitorStep_sameControls hm).symm.trans hstate, htasks, halive⟩
      · cases hstep

/-! ## The monitor without the commands -/

/-- The notifications for the clusters of the status. -/
def ofStatus (ns : List Notification) : List Notification := ns.filter (· ≠ ⟨1, .rvcCleanMode⟩)

theorem ofStatus_append (ns ms : List Notification) : ofStatus (ns ++ ms) = ofStatus ns ++ ofStatus ms :=
  List.filter_append ..

/-- How an attribute changes the status, and what it notifies of it, depends on the status alone. -/
theorem applyAttribute_currentState {d d' : Device} (h : d'.currentState = d.currentState) (a : StateAttribute) :
    (d'.applyAttribute .rvcRunMode .rvcCleanMode .rvcOperationalState a).1.currentState =
        (d.applyAttribute .rvcRunMode .rvcCleanMode .rvcOperationalState a).1.currentState ∧
      ofStatus (d'.applyAttribute .rvcRunMode .rvcCleanMode .rvcOperationalState a).2 =
        ofStatus (d.applyAttribute .rvcRunMode .rvcCleanMode .rvcOperationalState a).2 := by
  rcases hstatus : a.status? with _ | status
  · rcases hpreset : a.preset? with _ | preset
    · rw [applyAttribute_none hstatus hpreset, applyAttribute_none hstatus hpreset]
      exact ⟨h, rfl⟩
    · rw [(applyAttribute_preset hpreset).2, (applyAttribute_preset hpreset).2]
      refine ⟨h, ?_⟩
      -- the cluster of the preset is left out
      have hnone : ∀ p : Prop, ∀ _ : Decidable p, ofStatus (if p then [⟨1, .rvcCleanMode⟩] else []) = [] := by
        intro p _
        split <;> rfl
      rw [hnone, hnone]
  · rw [(applyAttribute_status hstatus).2, (applyAttribute_status hstatus).2, h]
    exact ⟨rfl, rfl⟩

theorem apply_currentState {d d' : Device} (h : d'.currentState = d.currentState) (attrs : List StateAttribute) :
    (d'.apply attrs).1.currentState = (d.apply attrs).1.currentState ∧
      ofStatus (d'.apply attrs).2 = ofStatus (d.apply attrs).2 := by
  induction attrs generalizing d d' with
  | nil => exact ⟨h, rfl⟩
  | cons a attrs ih =>
    obtain ⟨hfirst, hnotes⟩ := applyAttribute_currentState h a
    obtain ⟨hrest, hmore⟩ := ih hfirst
    rw [apply_cons, apply_cons]
    refine ⟨hrest, ?_⟩
    rw [ofStatus_append, ofStatus_append, hnotes, hmore]

/-- What the monitor does to the status, asks for and notifies of the status, as others see it. -/
def Out.reported (o : Out) : List HttpRequest × List Notification := (o.sent, ofStatus o.notified)

/-- A step of the monitor depends on the status alone, as far as that is concerned. -/
theorem monitorStep_currentState {d d' e : Device} (h : d'.currentState = d.currentState) {m m' : Monitor}
    {ev : MonitorEvent} {o : Out} (hstep : d.monitorStep m ev = some (e, m', o)) :
    ∃ e' o', d'.monitorStep m ev = some (e', m', o') ∧ e'.currentState = e.currentState ∧ o'.reported = o.reported := by
  unfold Device.monitorStep at hstep
  split at hstep <;> cases hstep
  · exact ⟨_, _, rfl, h, rfl⟩
  · exact ⟨_, _, rfl, h, rfl⟩
  · -- the answer to a poll
    rename_i attrs
    obtain ⟨hstate, hnotes⟩ := apply_currentState h attrs
    exact ⟨_, _, rfl, hstate, congrArg (Prod.mk _) hnotes⟩
  · exact ⟨_, _, rfl, h, rfl⟩
  · exact ⟨_, _, rfl, h, rfl⟩
  · -- an event
    rename_i attrs
    obtain ⟨hstate, hnotes⟩ := apply_currentState h attrs
    exact ⟨_, _, rfl, hstate, congrArg (Prod.mk _) hnotes⟩
  · exact ⟨_, _, rfl, h, rfl⟩
  · exact ⟨_, _, rfl, h, rfl⟩
  · exact ⟨_, _, rfl, h, rfl⟩
  · exact ⟨_, _, rfl, h, rfl⟩

/-- The monitor alone, with a device that only it changes. -/
def monitorAlone (s : Device × Monitor) (ev : MonitorEvent) : Option ((Device × Monitor) × Out) :=
  (s.1.monitorStep s.2 ev).map fun (device, monitor, out) => ((device, monitor), out)

/-- What a step of the monitor does, as others see it. -/
def Step.reported (t : Step) : List (MonitorEvent × List HttpRequest × List Notification) :=
  match t.label with
  | .monitor ev => [(ev, t.out.reported)]
  | .task _ => []

/-- A step of the monitor alone. -/
abbrev MonitorStep : Type := Lts.Transition (Device × Monitor) MonitorEvent Out

/-- The monitor alone simulates what it does in the program. -/
def monitorSimulation : Lts.Simulation Bridge.step monitorAlone (fun _ => True) Step.reported
    (fun u : MonitorStep => [(u.label, u.out.reported)]) where
  rel b s := b.Good ∧ s.1.currentState = b.device.currentState ∧ s.2 = b.monitor
  match_step := by
    rintro ⟨b, l, o, b'⟩ ⟨d, m⟩ hstep - ⟨hgood, hstate, rfl⟩
    change b.step l = some (b', o) at hstep
    have hgood' := Bridge.step_good hgood hstep
    rcases l with e | ev
    · obtain ⟨hmonitor, hcell⟩ := Bridge.task_frame hgood hstep
      exact ⟨[], _, .nil _, rfl, hgood', hstate.trans hcell.symm, hmonitor.symm⟩
    · obtain ⟨hmonitor, -⟩ := (Bridge.step_does hgood hstep).1
      obtain ⟨d', o', hstep', hstate', hreported⟩ := monitorStep_currentState hstate hmonitor
      have halone : monitorAlone (d, b.monitor) ev = some ((d', b'.monitor), o') := by
        unfold monitorAlone
        rw [hstep']
        rfl
      refine ⟨_, _, .single halone, ?_, hgood', hstate', rfl⟩
      rw [List.flatMap_cons, hreported]
      rfl

end ValetudoMatter
