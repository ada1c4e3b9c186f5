import ValetudoMatter.Requests

/-!
# What a handler can do

`Effect` says of one segment of a command, from its call to its first await or from the answer to its end, what it changes of
the device, what it notifies and what it sends; every command has it, in whatever state it is called and resumed
(`dmHandler_keeps`). What the program does over whole runs is derived from this and from what the monitor does, without
looking into the handlers again.
-/

namespace ValetudoMatter

open Coroutine

/-- The preset cell after a segment: a clean-mode command writes the preset it asked for when the robot has acknowledged it. -/
def Command.presetAfter (c : Command) (cause : Cause HttpRequest (Except AnyhowError Unit))
    (cell : VersionedCell Preset) : VersionedCell Preset :=
  match cause, c.cleanPreset? with
  | .answer _ (.ok ()), some preset => cell.set preset
  | _, _ => cell

/-- What one segment of a command does. -/
structure Effect (c : Command) (cause : Cause HttpRequest (Except AnyhowError Unit)) (d d' : Device)
    (ns : List Notification) (stop : Stop HttpRequest MatterError Reply) : Prop where
  capabilities : d'.capabilities = d.capabilities
  cleaningPresets : d'.cleaningPresets = d.cleaningPresets
  segments : d'.segments = d.segments
  currentState : d'.currentState = d.currentState
  currentPreset : d'.currentPreset = c.presetAfter cause d.currentPreset
  identifyTime : d'.identifyTime.inner = d.identifyTime.inner ∨ ⟨1, .identify⟩ ∈ ns
  selectedAreas : d'.selectedAreas = d.selectedAreas ∨
    ((∀ a ∈ d'.selectedAreas, a ∈ ServiceArea.validIds d) ∧ ⟨1, .serviceArea⟩ ∈ ns)
  cleanMode : ⟨1, .rvcCleanMode⟩ ∉ ns
  sends : ∀ r, stop = .await r ↔ cause = .call ∧ c.Sends d r

/-- A segment that leaves the device as it is and sends nothing has the effect of a command that sends nothing there. -/
theorem Effect.quiet {c : Command} {cause : Cause HttpRequest (Except AnyhowError Unit)} {d : Device}
    {x : Exit MatterError Reply} (hpreset : d.currentPreset = c.presetAfter cause d.currentPreset)
    (hsends : ∀ r, ¬ (cause = .call ∧ c.Sends d r)) : Effect c cause d d [] (.exit x) where
  capabilities := rfl
  cleaningPresets := rfl
  segments := rfl
  currentState := rfl
  currentPreset := hpreset
  identifyTime := .inl rfl
  selectedAreas := .inl rfl
  cleanMode := List.not_mem_nil
  sends := fun r => ⟨nofun, fun h => absurd h (hsends r)⟩

/-- A call that sends a request and leaves the device as it is. -/
theorem Effect.send {c : Command} {d : Device} {r : HttpRequest} (hsends : ∀ r', c.Sends d r' ↔ r' = r) :
    Effect c .call d d [] (.await r) where
  capabilities := rfl
  cleaningPresets := rfl
  segments := rfl
  currentState := rfl
  currentPreset := rfl
  identifyTime := .inl rfl
  selectedAreas := .inl rfl
  cleanMode := List.not_mem_nil
  sends := fun r' => by
    rw [hsends]
    constructor
    · intro h
      cases h
      exact ⟨rfl, rfl⟩
    · rintro ⟨-, rfl⟩
      rfl

/-- An answer that leaves the device as it is. -/
theorem Effect.answered {c : Command} {d : Device} {r : HttpRequest} {b : Except AnyhowError Unit}
    {x : Exit MatterError Reply} (hc : c.cleanPreset? = none) : Effect c (.answer r b) d d [] (.exit x) := by
  apply Effect.quiet
  · simp only [Command.presetAfter, hc]
  · rintro r' ⟨h, -⟩
    cases h

/-! ## Every command -/

/-- A start sends its request, and gives its result. -/
theorem startCleaning_eq (device : Device) :
    Device.startCleaning device = .await device [] (startRequest device) fun res d => .exit d [] (.done res) := by
  cases h : device.selectedAreas <;> simp [Device.startCleaning, startRequest, put, h]

/-- What is left of an identification after the sound: the time is reset, and the result of the PUT is that of the command. -/
def identifyFinish (res : Except AnyhowError Unit) (d : Device) :
    Outcome Device Notification HttpRequest (Except AnyhowError Unit) MatterError Unit :=
  .exit { d with identifyTime := (d.identifyTime.setNotify 0 (ctx .identify)).1 }
    (d.identifyTime.setNotify 0 (ctx .identify)).2
    (match res with
      | .ok () => .done ()
      | .error e => .fail (toMatterErr e))

/-- An identification: the time is written; if none was active the sound is played, or the time reset at once. -/
theorem identifyRobot_eq (dur : UInt16) (d : Device) :
    Device.identifyRobot (ctx .identify) dur d =
      let written := d.identifyTime.replaceNotify dur (ctx .identify)
      let d' := { d with identifyTime := written.2.1 }
      if dur = 0 ∨ d.identifyTime.inner ≠ 0 then .exit d' written.2.2 (.done ())
      else if .speakerTestCapability ∈ d.capabilities then .await d' written.2.2 testSoundRequest identifyFinish
      else (identifyFinish (.ok ()) d').emit written.2.2 := by
  have hfinish : (fun res (d : Device) => Outcome.emit (d.identifyTime.setNotify 0 (ctx .identify)).2
      ((Co.ofExcept (Except.mapError toMatterErr res) : Handler Unit)
        { d with identifyTime := (d.identifyTime.setNotify 0 (ctx .identify)).1 })) = identifyFinish := by
    funext res d
    cases res <;> simp [identifyFinish, Except.mapError]
  by_cases hactive : dur = 0 ∨ d.identifyTime.inner ≠ 0
  · simp only [Device.identifyRobot]
    simp [hactive]
  · by_cases hspeaker : Capability.speakerTestCapability ∈ d.capabilities
    · simp only [Device.identifyRobot]
      simp [hactive, hspeaker, put, testSoundRequest, hfinish]
    · simp only [Device.identifyRobot]
      simp [hactive, hspeaker, identifyFinish]

/-- How a command ends that has nothing left to do but to report the result of its PUT. -/
def report (reply : Reply) : Except AnyhowError Unit → Exit MatterError Reply
  | .ok () => .done reply
  | .error e => .fail (toMatterErr e)

/-- A command that waits for the result of a PUT and reports it. -/
def sendAndReport (d : Device) (r : HttpRequest) (reply : Reply) :
    Outcome Device Notification HttpRequest (Except AnyhowError Unit) MatterError Reply :=
  .await d [] r fun res d => .exit d [] (report reply res)

theorem report_eq {α : Type} (a : α) (reply : α → Reply) (res : Except AnyhowError Unit) (d : Device) :
    Outcome.bind (fun x => (pure (reply x) : Handler Reply))
      (Outcome.bind (fun _ => (pure a : Handler α)) ((Co.ofExcept (res.mapError toMatterErr) : Handler Unit) d)) =
      .exit d [] (report (reply a) res) := by
  cases res <;> simp [report, Except.mapError]

theorem pause_eq (d : Device) : dmHandler .pause d = sendAndReport d pauseRequest (.operational .ok) := by
  simp [dmHandler, RvcOperationalState.handlePause, Device.pause, put, sendAndReport, report_eq, pauseRequest]

theorem resume_eq (d : Device) : dmHandler .resume d = sendAndReport d (startRequest d) (.operational .ok) := by
  simp [dmHandler, RvcOperationalState.handleResume, startCleaning_eq, sendAndReport, report_eq]

theorem goHome_eq (d : Device) : dmHandler .goHome d = sendAndReport d homeRequest (.operational .ok) := by
  simp [dmHandler, RvcOperationalState.handleGoHome, Device.goHome, put, sendAndReport, report_eq, homeRequest]

/-- A run-mode command: a byte that is no mode is rejected, the mode the cached state is of is acknowledged, and another one
sends its request, or aborts. -/
theorem changeRunMode_eq (b : UInt8) (d : Device) :
    dmHandler (.changeRunMode (.ok b)) d =
      match RunMode.tryFrom b with
      | none => .exit d [] (.fail (.new .constraintError))
      | some m =>
        if m = RunMode.ofDeviceState d.currentState.inner then .exit d [] (.done (.changeToMode .success))
        else
          match m with
          | .idle => sendAndReport d stopRequest (.changeToMode .success)
          | .cleaning => sendAndReport d (startRequest d) (.changeToMode .success)
          | .mapping => .exit d [] .abort := by
  cases h : RunMode.tryFrom b with
  | none => simp [dmHandler, RvcRunMode.handleChangeToMode, h]
  | some m =>
    by_cases hm : m = RunMode.ofDeviceState d.currentState.inner
    · simp [dmHandler, RvcRunMode.handleChangeToMode, h, hm, VersionedCell.get]
    · cases m with
      | idle =>
        simp [dmHandler, RvcRunMode.handleChangeToMode, h, hm, VersionedCell.get, Device.stop, put, sendAndReport, report_eq,
          stopRequest]
      | cleaning =>
        simp [dmHandler, RvcRunMode.handleChangeToMode, h, hm, VersionedCell.get, startCleaning_eq, sendAndReport, report_eq]
      | mapping => simp [dmHandler, RvcRunMode.handleChangeToMode, h, hm, VersionedCell.get, Device.startMappingPass]

/-- How a clean-mode command ends: the cached preset is written if the PUT succeeded. -/
def cleanModeFinish (preset : Preset) (res : Except AnyhowError Unit) (d : Device) :
    Outcome Device Notification HttpRequest (Except AnyhowError Unit) MatterError Reply :=
  match res with
  | .ok () => .exit { d with currentPreset := d.currentPreset.set preset } [] (.done (.changeToMode .success))
  | .error e => .exit d [] (.fail (toMatterErr e))

/-- A clean-mode command: a byte that is no mode, or a mode whose preset the robot does not have, is rejected; another one
sends its preset. -/
theorem changeCleanMode_eq (b : UInt8) (d : Device) :
    dmHandler (.changeCleanMode (.ok b)) d =
      match CleanMode.tryFrom b with
      | none => .exit d [] (.fail (.new .constraintError))
      | some m =>
        if m.toPreset ∈ d.cleaningPresets then
          .await d [] (presetRequest m.toPreset) (cleanModeFinish m.toPreset)
        else .exit d [] (.fail (.new .constraintError)) := by
  cases h : CleanMode.tryFrom b with
  | none => simp [dmHandler, RvcCleanMode.handleChangeToMode, h]
  | some m =>
    by_cases hm : m.toPreset ∈ d.cleaningPresets
    · simp only [dmHandler, RvcCleanMode.handleChangeToMode]
      simp [h, hm, Device.setPreset, put, presetRequest]
      funext res d
      cases res <;> simp [cleanModeFinish, Except.mapError]
    · simp [dmHandler, RvcCleanMode.handleChangeToMode, h, hm]

/-- A selection: its outcome is that of the loop over the requested areas. -/
theorem selectAreas_eq (newAreas : List (Tlv UInt32)) (d : Device) :
    dmHandler (.selectAreas (.ok newAreas)) d =
      match ServiceArea.collectAreas (ServiceArea.validIds d) [] newAreas with
      | .undecodable e => .exit d [] (.fail e)
      | .unknown => .exit d [] (.done (.selectAreas ⟨.unsupportedArea, "Unknown area"⟩))
      | .areas areas => .exit { d with selectedAreas := areas } [⟨1, .serviceArea⟩] (.done (.selectAreas ⟨.success, ""⟩)) := by
  cases h : ServiceArea.collectAreas (ServiceArea.validIds d) [] newAreas with
  | areas areas =>
    simp [dmHandler, ServiceArea.handleSelectAreas, h, ctx, OperationContext.notifyOwnClusterChanged]
  | unknown => simp [dmHandler, ServiceArea.handleSelectAreas, h]
  | undecodable e => simp [dmHandler, ServiceArea.handleSelectAreas, h]

/-- The areas collected are valid. -/
theorem collectAreas_valid {validIds : List UInt32} {acc areas : List UInt32} {newAreas : List (Tlv UInt32)}
    (h : ServiceArea.collectAreas validIds acc newAreas = .areas areas) (hacc : ∀ a ∈ acc, a ∈ validIds) :
    ∀ a ∈ areas, a ∈ validIds := by
  induction newAreas generalizing acc with
  | nil =>
    cases h
    exact hacc
  | cons area rest ih =>
    cases area with
    | error e => cases h
    | ok a =>
      simp only [ServiceArea.collectAreas] at h
      split at h
      · rename_i ha
        apply ih h
        intro x hx
        rcases List.mem_append.mp hx with hx | hx
        · exact hacc x hx
        · rw [List.mem_singleton.mp hx]
          exact ha
      · cases h

/-! ## Every command has its effect -/

theorem sendAndReport_keeps {c : Command} {d : Device} {r : HttpRequest} (reply : Reply)
    (hsends : ∀ r', c.Sends d r' ↔ r' = r) (hc : c.cleanPreset? = none) :
    (sendAndReport d r reply).Keeps (Effect c) .call d :=
  ⟨Effect.send hsends, fun _ _ => Effect.answered hc⟩

/-- A call that ends at once, and sends nothing. -/
theorem exit_keeps {c : Command} {d : Device} (x : Exit MatterError Reply) (hsends : ∀ r, ¬ c.Sends d r) :
    (Outcome.exit d [] x).Keeps (Effect c) .call d :=
  Effect.quiet rfl fun r h => hsends r h.2

/-- A write of the identify time notifies no other cluster. -/
theorem replaceNotify_cleanMode (cell : VersionedCell UInt16) (dur : UInt16) :
    ⟨1, .rvcCleanMode⟩ ∉ (cell.replaceNotify dur (ctx .identify)).2.2 := by
  rw [VersionedCell.replaceNotify_notified]
  split <;> simp [ctx, OperationContext.notifyOwnClusterChanged]

theorem setNotify_cleanMode (cell : VersionedCell UInt16) (dur : UInt16) :
    ⟨1, .rvcCleanMode⟩ ∉ (cell.setNotify dur (ctx .identify)).2 := by
  rw [VersionedCell.setNotify_notified]
  split <;> simp [ctx, OperationContext.notifyOwnClusterChanged]

/-- The end of an identification after the sound. -/
theorem identifyFinish_keeps {c : Command} {r : HttpRequest} (hc : c.cleanPreset? = none) (res : Except AnyhowError Unit)
    (d : Device) :
    ((identifyFinish res d).bind fun _ => (pure .unit : Handler Reply)).Keeps (Effect c) (.answer r res) d := by
  have hpreset : d.currentPreset = c.presetAfter (.answer r res) d.currentPreset := by
    simp only [Command.presetAfter, hc]
  have hwritten : (d.identifyTime.setNotify 0 (ctx .identify)).1.inner = d.identifyTime.inner ∨
      ⟨1, .identify⟩ ∈ (d.identifyTime.setNotify 0 (ctx .identify)).2 := by
    by_cases h : 0 = d.identifyTime.inner
    · simp [h]
    · simp [VersionedCell.setNotify_notified, h, ctx, OperationContext.notifyOwnClusterChanged]
  have hclean := setNotify_cleanMode d.identifyTime 0
  cases res with
  | error e => exact ⟨rfl, rfl, rfl, rfl, hpreset, hwritten, .inl rfl, hclean, fun _ => ⟨nofun, fun h => nomatch h.1⟩⟩
  | ok _ =>
    simp only [identifyFinish, Outcome.bind_done, Co.pure_apply, Outcome.emit_exit, List.append_nil]
    exact ⟨rfl, rfl, rfl, rfl, hpreset, hwritten, .inl rfl, hclean, fun _ => ⟨nofun, fun h => nomatch h.1⟩⟩

/-- An identification, by a command or by a write. -/
theorem identify_keeps {c : Command} {dur : UInt16} (hsends : ∀ d r, c.Sends d r ↔ PlaysSound d dur ∧ r = testSoundRequest)
    (hc : c.cleanPreset? = none) (d : Device) :
    ((do Device.identifyRobot (ctx .identify) dur; return .unit : Handler Reply) d).Keeps (Effect c) .call d := by
  rw [Co.bind_apply, identifyRobot_eq]
  have hwritten : (d.identifyTime.replaceNotify dur (ctx .identify)).2.1.inner = d.identifyTime.inner ∨
      ⟨1, .identify⟩ ∈ (d.identifyTime.replaceNotify dur (ctx .identify)).2.2 := by
    by_cases h : d.identifyTime.inner = dur
    · simp [h]
    · simp [VersionedCell.replaceNotify_notified, h, ctx, OperationContext.notifyOwnClusterChanged]
  have hclean := replaceNotify_cleanMode d.identifyTime dur
  by_cases hactive : dur = 0 ∨ d.identifyTime.inner ≠ 0
  · -- the time is written and nothing is sent
    have hquiet : ∀ r, ¬ c.Sends d r := by
      intro r h
      obtain ⟨⟨hdur, htime, -⟩, -⟩ := (hsends d r).mp h
      exact hactive.elim hdur (fun h => h htime)
    simp only [hactive, if_true, Outcome.bind_done, Co.pure_apply, Outcome.emit_exit, List.append_nil, Outcome.Keeps]
    exact ⟨rfl, rfl, rfl, rfl, rfl, hwritten, .inl rfl, hclean, fun r => ⟨nofun, fun h => absurd h.2 (hquiet r)⟩⟩
  · obtain ⟨hdur, htime⟩ := not_or.mp hactive
    have htime : d.identifyTime.inner = 0 := not_not.mp htime
    by_cases hspeaker : Capability.speakerTestCapability ∈ d.capabilities
    · simp only [hactive, hspeaker, if_true, if_false, Outcome.bind_await]
      refine ⟨⟨rfl, rfl, rfl, rfl, rfl, hwritten, .inl rfl, hclean, fun r => ?_⟩, fun res d' => identifyFinish_keeps hc res d'⟩
      rw [hsends]
      constructor
      · intro h
        cases h
        exact ⟨rfl, ⟨hdur, htime, hspeaker⟩, rfl⟩
      · rintro ⟨-, -, rfl⟩
        rfl
    · have hquiet : ∀ r, ¬ c.Sends d r := fun r h => hspeaker ((hsends d r).mp h).1.2.2
      simp only [hactive, hspeaker, if_false, identifyFinish, Outcome.emit_exit, Outcome.bind_done, Co.pure_apply,
        List.append_nil, Outcome.Keeps]
      refine ⟨rfl, rfl, rfl, rfl, rfl, .inl (by simp [htime]), .inl rfl, ?_,
        fun r => ⟨nofun, fun h => absurd h.2 (hquiet r)⟩⟩
      intro hmem
      rcases List.mem_append.mp hmem with hmem | hmem
      · exact hclean hmem
      · exact setNotify_cleanMode _ _ hmem

/-- A run-mode command: what it sends asks for its mode, and nothing is written. -/
theorem changeRunMode_keeps (b : UInt8) (d : Device) :
    (dmHandler (.changeRunMode (.ok b)) d).Keeps (Effect (.changeRunMode (.ok b))) .call d := by
  rw [changeRunMode_eq]
  split
  · rename_i hb
    exact exit_keeps _ (by simp [Command.Sends, hb])
  · rename_i m hb
    split
    · rename_i hm
      apply exit_keeps
      cases m <;> simp [Command.Sends, hb, ← hm]
    · rename_i hm
      cases m with
      | idle => exact sendAndReport_keeps _ (by simp [Command.Sends, hb, Ne.symm hm]) rfl
      | cleaning => exact sendAndReport_keeps _ (by simp [Command.Sends, hb, Ne.symm hm]) rfl
      | mapping => exact exit_keeps _ (by simp [Command.Sends, hb])

/-- A clean-mode command: it sends its preset, and writes it when the robot has acknowledged it. -/
theorem changeCleanMode_keeps (b : UInt8) (d : Device) :
    (dmHandler (.changeCleanMode (.ok b)) d).Keeps (Effect (.changeCleanMode (.ok b))) .call d := by
  rw [changeCleanMode_eq]
  split
  · rename_i hb
    exact exit_keeps _ (by simp [Command.Sends, hb])
  · rename_i m hb
    split
    · rename_i hm
      refine ⟨Effect.send (by simp [Command.Sends, hb, hm]), ?_⟩
      intro res d'
      cases res with
      | error e => exact Effect.quiet rfl fun _ h => nomatch h.1
      | ok _ =>
        refine ⟨rfl, rfl, rfl, rfl, ?_, .inl rfl, .inl rfl, List.not_mem_nil, fun _ => ⟨nofun, fun h => nomatch h.1⟩⟩
        simp [Command.presetAfter, Command.cleanPreset?, hb]
    · rename_i hm
      exact exit_keeps _ (by simp [Command.Sends, hb, hm])

/-- A selection: it writes valid areas and notifies its cluster, or nothing. -/
theorem selectAreas_keeps (areas : List (Tlv UInt32)) (d : Device) :
    (dmHandler (.selectAreas (.ok areas)) d).Keeps (Effect (.selectAreas (.ok areas))) .call d := by
  rw [selectAreas_eq]
  split
  · exact exit_keeps _ (by simp [Command.Sends])
  · exact exit_keeps _ (by simp [Command.Sends])
  · rename_i new hnew
    have hvalid := collectAreas_valid hnew (by simp)
    exact ⟨rfl, rfl, rfl, rfl, rfl, .inl rfl, .inr ⟨hvalid, by simp⟩, by simp, fun _ => ⟨nofun, fun h => h.2.elim⟩⟩

/-- Every command has its effect. -/
theorem dmHandler_keeps (c : Command) (d : Device) : (dmHandler c d).Keeps (Effect c) .call d := by
  cases c with
  | identify time =>
    cases time with
    | error e => exact exit_keeps _ (by simp [Command.Sends])
    | ok dur =>
      have hident : dmHandler (.identify (.ok dur)) = do Device.identifyRobot (ctx .identify) dur; return .unit := by
        funext d
        simp [dmHandler, Identify.handleIdentify]
      rw [hident]
      exact identify_keeps (fun _ _ => Iff.rfl) rfl d
  | setIdentifyTime dur => exact identify_keeps (fun _ _ => Iff.rfl) rfl d
  | triggerEffect => exact exit_keeps _ (by simp [Command.Sends])
  | changeRunMode mode =>
    cases mode with
    | error e => exact exit_keeps _ (by simp [Command.Sends])
    | ok b => exact changeRunMode_keeps b d
  | changeCleanMode mode =>
    cases mode with
    | error e => exact exit_keeps _ (by simp [Command.Sends])
    | ok b => exact changeCleanMode_keeps b d
  | pause => rw [pause_eq]; exact sendAndReport_keeps _ (fun _ => Iff.rfl) rfl
  | resume => rw [resume_eq]; exact sendAndReport_keeps _ (fun _ => Iff.rfl) rfl
  | goHome => rw [goHome_eq]; exact sendAndReport_keeps _ (fun _ => Iff.rfl) rfl
  | selectAreas newAreas =>
    cases newAreas with
    | error e => exact exit_keeps _ (by simp [Command.Sends])
    | ok areas => exact selectAreas_keeps areas d
  | skipArea => exact exit_keeps _ (by simp [Command.Sends])

end ValetudoMatter
