import ValetudoMatter.Lemmas.Bridge

/-!
# What a command writes

The two cells of the device that commands write and nobody else: the selection, which an accepted `SelectAreas` replaces by
the areas it names, and the identify time. Every command keeps to it (`dmHandler_writes`).
-/

namespace ValetudoMatter

open Coroutine

/-- The duration that a command asks the robot to identify itself for. -/
def Command.identifies? : Command → Option UInt16
  | .identify (.ok dur) => some dur
  | .setIdentifyTime dur => some dur
  | .identify (.error _) | .triggerEffect | .changeRunMode _ | .changeCleanMode _ | .pause | .resume | .goHome
  | .selectAreas _ | .skipArea => none

/-- The identify time after a segment: an identification writes its duration when it is called, and zero once its sound is over,
or at once if none was active and the robot has no speaker. -/
def Command.timeAfter (c : Command) (cause : Cause HttpRequest (Except AnyhowError Unit)) (d : Device) : UInt16 :=
  match c.identifies?, cause with
  | none, _ => d.identifyTime.inner
  | some _, .answer _ _ => 0
  | some dur, .call =>
    if d.identifyTime.inner = 0 ∧ .speakerTestCapability ∉ d.capabilities then 0 else dur

/-- What one segment of a command writes. -/
structure Writes (c : Command) (cause : Cause HttpRequest (Except AnyhowError Unit)) (d d' : Device)
    (ns : List Notification) (stop : Stop HttpRequest MatterError Reply) : Prop where
  selectedAreas : d'.selectedAreas = d.selectedAreas ∨ (cause = .call ∧ c = .selectAreas (.ok (d'.selectedAreas.map .ok)))
  identifyTime : d'.identifyTime.inner = c.timeAfter cause d

/-- A segment that leaves the device as it is, of a command that is no identification. -/
theorem Writes.quiet {c : Command} {cause : Cause HttpRequest (Except AnyhowError Unit)} {d : Device}
    {ns : List Notification} {stop : Stop HttpRequest MatterError Reply} (hc : c.identifies? = none) :
    Writes c cause d d ns stop where
  selectedAreas := .inl rfl
  identifyTime := by simp only [Command.timeAfter, hc]

theorem sendAndReport_writes {c : Command} (hc : c.identifies? = none) (d : Device) (r : HttpRequest) (reply : Reply) :
    (sendAndReport d r reply).Keeps (Writes c) .call d :=
  ⟨.quiet hc, fun _ _ => .quiet hc⟩

/-- The end of an identification after the sound. -/
theorem identifyFinish_writes {c : Command} {dur : UInt16} (hc : c.identifies? = some dur) (r : HttpRequest)
    (res : Except AnyhowError Unit) (d : Device) :
    ((identifyFinish res d).bind fun _ => (pure .unit : Handler Reply)).Keeps (Writes c) (.answer r res) d := by
  have htime : (d.identifyTime.setNotify 0 (ctx .identify)).1.inner = c.timeAfter (.answer r res) d := by
    simp [Command.timeAfter, hc]
  cases res with
  | error e => exact ⟨.inl rfl, htime⟩
  | ok _ => exact ⟨.inl rfl, htime⟩

/-- An identification, by a command or by a write. -/
theorem identify_writes {c : Command} {dur : UInt16} (hc : c.identifies? = some dur) (d : Device) :
    ((do Device.identifyRobot (ctx .identify) dur; return .unit : Handler Reply) d).Keeps (Writes c) .call d := by
  rw [Co.bind_apply, identifyRobot_eq]
  by_cases hactive : dur = 0 ∨ d.identifyTime.inner ≠ 0
  · have htime : (d.identifyTime.replaceNotify dur (ctx .identify)).2.1.inner = c.timeAfter .call d := by
      rw [VersionedCell.replaceNotify_inner]
      rcases hactive with rfl | htime
      · simp [Command.timeAfter, hc]
      · simp [Command.timeAfter, hc, htime]
    simp only [hactive, if_true]
    exact ⟨.inl rfl, htime⟩
  · have hzero : d.identifyTime.inner = 0 := not_not.mp (not_or.mp hactive).2
    by_cases hspeaker : Capability.speakerTestCapability ∈ d.capabilities
    · simp only [hactive, hspeaker, if_true, if_false]
      refine ⟨⟨.inl rfl, ?_⟩, fun res d' => identifyFinish_writes hc _ res d'⟩
      simp [Command.timeAfter, hc, hspeaker]
    · simp only [hactive, hspeaker, if_false]
      refine ⟨.inl rfl, ?_⟩
      simp [Command.timeAfter, hc, hspeaker, hzero]

/-- Areas that are collected are those that are requested, and each of them decodes. -/
theorem collectAreas_areas {validIds acc areas : List UInt32} {newAreas : List (Tlv UInt32)}
    (h : ServiceArea.collectAreas validIds acc newAreas = .areas areas) : areas.map .ok = acc.map .ok ++ newAreas := by
  induction newAreas generalizing acc with
  | nil =>
    cases h
    simp
  | cons area rest ih =>
    cases area with
    | error e => cases h
    | ok a =>
      simp only [ServiceArea.collectAreas] at h
      split at h
      · rw [ih h]
        simp
      · cases h

/-- Every command keeps to what it writes. -/
theorem dmHandler_writes (c : Command) (d : Device) : (dmHandler c d).Keeps (Writes c) .call d := by
  cases c with
  | identify time =>
    cases time with
    | error e => exact .quiet rfl
    | ok dur =>
      have hident : dmHandler (.identify (.ok dur)) = do Device.identifyRobot (ctx .identify) dur; return .unit := by
        funext d
        simp [dmHandler, Identify.handleIdentify]
      rw [hident]
      exact identify_writes rfl d
  | setIdentifyTime dur => exact identify_writes rfl d
  | triggerEffect => exact .quiet rfl
  | changeRunMode mode =>
    cases mode with
    | error e => exact .quiet rfl
    | ok b =>
      rw [changeRunMode_eq]
      split
      · exact .quiet rfl
      · split
        · exact .quiet rfl
        · split
          · exact sendAndReport_writes rfl d _ _
          · exact sendAndReport_writes rfl d _ _
          · exact .quiet rfl
  | changeCleanMode mode =>
    cases mode with
    | error e => exact .quiet rfl
    | ok b =>
      rw [changeCleanMode_eq]
      split
      · exact .quiet rfl
      · split
        · refine ⟨.quiet rfl, ?_⟩
          intro res d'
          cases res with
          | error e => exact .quiet rfl
          | ok _ => exact ⟨.inl rfl, rfl⟩
        · exact .quiet rfl
  | pause => rw [pause_eq]; exact sendAndReport_writes rfl d _ _
  | resume => rw [resume_eq]; exact sendAndReport_writes rfl d _ _
  | goHome => rw [goHome_eq]; exact sendAndReport_writes rfl d _ _
  | selectAreas newAreas =>
    cases newAreas with
    | error e => exact .quiet rfl
    | ok areas =>
      rw [selectAreas_eq]
      split
      · exact .quiet rfl
      · exact .quiet rfl
      · rename_i new hnew
        have hareas : new.map .ok = areas := by
          simpa using collectAreas_areas hnew
        exact ⟨.inr ⟨rfl, by rw [hareas]⟩, rfl⟩
  | skipArea => exact .quiet rfl

/-! ## Steps -/

/-- A step leaves the selection as it is, or calls a selection of what it is afterwards. -/
theorem Bridge.SegmentMeets.selectedAreas {b b' : Bridge} {l : Label} {o : Out} (h : b.SegmentMeets Writes l b' o) :
    b'.device.selectedAreas = b.device.selectedAreas ∨
      l = .task (.call (.selectAreas (.ok (b'.device.selectedAreas.map .ok)))) := by
  cases l with
  | task e =>
    cases e with
    | call c =>
      obtain ⟨ns, stop, -, hw⟩ := h
      rcases hw.selectedAreas with hsame | ⟨-, hc⟩
      · exact .inl hsame
      · exact .inr (congrArg (fun c => Label.task (.call c)) hc)
    | answer i res => exact .inl (by rw [h.1])
    | resume i =>
      obtain ⟨t, res, ns, stop, -, -, -, hw⟩ := h
      rcases hw.selectedAreas with hsame | ⟨hcause, -⟩
      · exact .inl hsame
      · cases hcause
  | monitor ev =>
    rcases monitorStep_effect h with ⟨hd, -⟩ | ⟨attrs, -, hd, -⟩
    · exact .inl (by rw [hd])
    · exact .inl (by rw [hd, (apply_effect _ _).selectedAreas])

/-! ## Requests -/

/-- A command sends the test sound if it is an identification, and another request if it is none. -/
theorem Command.Sends.cases {c : Command} {d : Device} {r : HttpRequest} (h : c.Sends d r) :
    (∃ dur, c.identifies? = some dur ∧ PlaysSound d dur ∧ r = testSoundRequest) ∨
      (c.identifies? = none ∧
        (r = startRequest d ∨ r = stopRequest ∨ r = pauseRequest ∨ r = homeRequest ∨ ∃ p, r = presetRequest p)) := by
  cases c with
  | identify time =>
    cases time with
    | error e => exact h.elim
    | ok dur => exact .inl ⟨dur, rfl, h⟩
  | setIdentifyTime dur => exact .inl ⟨dur, rfl, h⟩
  | triggerEffect => exact h.elim
  | changeRunMode mode =>
    cases mode with
    | error e => exact h.elim
    | ok b =>
      simp only [Command.Sends] at h
      split at h
      · exact .inr ⟨rfl, .inr (.inl h.2)⟩
      · exact .inr ⟨rfl, .inl h.2⟩
      · exact h.elim
  | changeCleanMode mode =>
    cases mode with
    | error e => exact h.elim
    | ok b =>
      obtain ⟨m, -, -, hr⟩ := h
      exact .inr ⟨rfl, .inr (.inr (.inr (.inr ⟨_, hr⟩)))⟩
  | pause => exact .inr ⟨rfl, .inr (.inr (.inl h))⟩
  | resume => exact .inr ⟨rfl, .inl h⟩
  | goHome => exact .inr ⟨rfl, .inr (.inr (.inr (.inl h)))⟩
  | selectAreas newAreas => exact h.elim
  | skipArea => exact h.elim

/-- A request under the path of segments is a start. -/
theorem Command.Sends.eq_startRequest {c : Command} {d : Device} {body : String}
    (h : c.Sends d (.put mapSegmentationPath body)) : .put mapSegmentationPath body = startRequest d := by
  have hne : ∀ r : HttpRequest, r.path ≠ mapSegmentationPath → .put mapSegmentationPath body ≠ r := by
    rintro r hpath rfl
    exact hpath rfl
  rcases h.cases with ⟨dur, -, -, hr⟩ | ⟨-, hr | hr | hr | hr | ⟨p, hr⟩⟩
  · exact absurd hr (hne _ (by decide +kernel))
  · exact hr
  · exact absurd hr (hne _ (by decide +kernel))
  · exact absurd hr (hne _ (by decide +kernel))
  · exact absurd hr (hne _ (by decide +kernel))
  · exact absurd hr (hne _ (show presetPath ≠ mapSegmentationPath by decide +kernel))

end ValetudoMatter
