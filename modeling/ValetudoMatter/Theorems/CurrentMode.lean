import ValetudoMatter.Lemmas.Init

/-!
# The current mode among the supported modes

The preset of a robot that reports only presets it lists stays one of the list, through the fallbacks of `init`, the batches
of the monitor, which are not checked, and the commands, which are (`Bridge.StepDoes.presetListed`). A robot that lists no
preset has the clean mode `Vacuum` all the same, and no supported mode (`clean_mode_without_presets`).
-/

namespace ValetudoMatter

open Coroutine

/-- A mode is one of those that the attribute `supported_modes` lists. -/
def Supported (supportedModes : ArrayAttributeRead → Except MatterError (ArrayValue ModeOption)) (mode : UInt8) : Prop :=
  ∃ options, supportedModes .readAll = .ok (.list options) ∧ ∃ option ∈ options, option.mode = mode

/-- Every operation mode that a batch reports is no preset or one of a list. -/
def ReportsOnly (presets : Finset Preset) (attrs : List StateAttribute) : Prop :=
  ∀ a ∈ attrs, ∀ p ∈ a.preset?, p ∈ presets

instance (presets : Finset Preset) (attrs : List StateAttribute) : Decidable (ReportsOnly presets attrs) :=
  inferInstanceAs (Decidable (∀ a ∈ attrs, ∀ p ∈ a.preset?, p ∈ presets))

/-- The batch that a step of this label applies. -/
def Label.batch : Label → List StateAttribute
  | .monitor (.polled (.ok attrs)) => attrs
  | .monitor (.event attrs) => attrs
  | _ => []

/-- The preset of the device is one of its list, unless the list is empty. -/
def Device.PresetListed (d : Device) : Prop := d.cleaningPresets.Nonempty → d.currentPreset.inner ∈ d.cleaningPresets

/-- The first operation mode of a batch is that of one of its attributes. -/
theorem preset_of_findSome {attrs : List StateAttribute} {p : Preset}
    (h : (attrs.findSome? StateAttribute.operationMode?).bind presetFromStr = some p) :
    ∃ a ∈ attrs, a.preset? = some p := by
  obtain ⟨value, hvalue, hp⟩ := Option.bind_eq_some_iff.mp h
  obtain ⟨l₁, a, l₂, rfl, ha, -⟩ := List.findSome?_eq_some_iff.mp hvalue
  exact ⟨a, by simp, by simp [StateAttribute.preset?, ha, hp]⟩

/-- `init` falls back from an operation mode that names no preset to the first of the list. -/
theorem Initialised.presetListed {answers : Answers} {d : Device} (h : Initialised answers d)
    (hattrs : ∀ attrs, answers.attributes = .ok attrs → ReportsOnly d.cleaningPresets attrs) : d.PresetListed := by
  intro hne
  obtain ⟨attrs, hattributes, -, hpreset⟩ := h.attributes
  rw [hpreset]
  cases hreported : (attrs.findSome? StateAttribute.operationMode?).bind presetFromStr with
  | some p =>
    obtain ⟨a, ha, hap⟩ := preset_of_findSome hreported
    exact hattrs attrs hattributes a ha p hap
  | none =>
    obtain ⟨q, hq⟩ := hne
    obtain ⟨first, rest, hiter⟩ := List.exists_cons_of_ne_nil (List.ne_nil_of_mem (mem_presetIter.mpr hq))
    have hfirst : first ∈ presetIter d.cleaningPresets := by simp [hiter]
    simpa [hiter] using mem_presetIter.mp hfirst

/-- A clean-mode command that waits has asked for a preset of the list. -/
theorem CommandTask.Good.preset_mem {d : Device} {t : CommandTask} (h : t.Good d) {p : Preset}
    (hp : t.call.cleanPreset? = some p) : p ∈ d.cleaningPresets := by
  obtain ⟨d₀, hsame, hsends⟩ := h.sent
  rw [hsame.cleaningPresets]
  unfold Command.cleanPreset? at hp
  split at hp
  · rename_i b hcall
    rw [hcall] at hsends
    obtain ⟨m, hm, hmem, -⟩ := hsends
    rw [hm] at hp
    cases hp
    exact hmem
  · cases hp

/-- Every step whose batch reports only listed presets leaves the preset in the list. -/
theorem Bridge.StepDoes.presetListed {t : Step} (h : t.before.StepDoes t.label t.after t.out) (hgood : t.before.Good)
    (hbatch : ReportsOnly t.before.device.cleaningPresets t.label.batch) (hb : t.before.device.PresetListed) :
    t.after.device.PresetListed := by
  intro hne
  have hsame := h.sameRobot
  rw [hsame.cleaningPresets] at hne ⊢
  have hmem := hb hne
  cases hlabel : t.label with
  | monitor ev =>
    rw [hlabel] at h
    rcases monitorStep_effect h.1 with ⟨hd, -⟩ | ⟨attrs, hev, hd, -⟩
    · rw [hd]
      exact hmem
    · have hattrs : t.label.batch = attrs := by
        rcases hev with rfl | rfl <;> simp [Label.batch, hlabel]
      rw [hd, (apply_effect _ _).currentPreset]
      exact LastWrite.after_of_forall hmem (hattrs ▸ hbatch)
  | task e =>
    rw [hlabel] at h
    cases e with
    | call c =>
      obtain ⟨-, stop, heff, -⟩ := h
      rw [heff.currentPreset]
      exact hmem
    | answer i res =>
      obtain ⟨-, hd, -⟩ := h
      rw [hd]
      exact hmem
    | resume i =>
      obtain ⟨-, -, -, task, res, x, htask, -, heff⟩ := h
      rw [heff.currentPreset]
      cases hpreset : task.call.cleanPreset? with
      | none => simpa [Command.presetAfter, hpreset] using hmem
      | some p =>
        have hp := (hgood task (List.mem_of_getElem? htask)).preset_mem hpreset
        cases res with
        | error e => simpa [Command.presetAfter] using hmem
        | ok u => simpa [Command.presetAfter, hpreset] using hp

/-! ## The two clusters -/

/-- The run-mode cluster lists every mode. -/
theorem runMode_supported (d : Device) : Supported (RvcRunMode.supportedModes d) (RvcRunMode.currentMode d) :=
  ⟨_, rfl, _, List.mem_map_of_mem (RunMode.mem_all _), rfl⟩

/-- The clean-mode cluster lists the presets of the device. -/
theorem cleanMode_supported_iff (d : Device) :
    Supported (RvcCleanMode.supportedModes d) (RvcCleanMode.currentMode d) ↔ d.currentPreset.inner ∈ d.cleaningPresets := by
  constructor
  · rintro ⟨options, hoptions, option, hoption, hmode⟩
    cases hoptions
    obtain ⟨p, hp, rfl⟩ := List.mem_map.mp hoption
    have hsame : CleanMode.ofPreset p = CleanMode.ofPreset d.currentPreset.inner := by
      have := congrArg CleanMode.tryFrom hmode
      simpa [CleanMode.buildMode, RvcCleanMode.currentMode] using this
    have hpreset : p = d.currentPreset.inner := by
      have := congrArg CleanMode.toPreset hsame
      simpa using this
    exact hpreset ▸ mem_presetIter.mp hp
  · intro h
    exact ⟨_, rfl, _, List.mem_map_of_mem (mem_presetIter.mpr h), rfl⟩

/-- The current mode is a supported mode. For every robot that reports only presets of its list, in every state that a run from
`init` visits, the run mode is one of the modes listed, and so is the clean mode exactly when the robot lists a preset. -/
theorem current_mode_supported {answers : Answers} {versions : Versions} {sent : List HttpRequest} {d : Device}
    (hinit : Device.init answers versions () = .exit () sent (.done d))
    (hattrs : ∀ attrs, answers.attributes = .ok attrs → ReportsOnly d.cleaningPresets attrs)
    {ts : List Step} {b : Bridge} (hrun : Bridge.Run (.start d) ts b)
    (hbatches : ∀ t ∈ ts, ReportsOnly d.cleaningPresets t.label.batch) :
    ∀ s ∈ Lts.visited (.start d) ts,
      Supported (RvcRunMode.supportedModes s.device) (RvcRunMode.currentMode s.device) ∧
        (Supported (RvcCleanMode.supportedModes s.device) (RvcCleanMode.currentMode s.device) ↔
          d.cleaningPresets.Nonempty) := by
  have hd := Initialised.of_init hinit
  have hgood := (hrun.good (Bridge.good_start d)).2
  have hinv := hrun.invariant_visited (I := fun b => SameRobot d b.device ∧ b.device.PresetListed)
    ⟨.refl d, hd.presetListed hattrs⟩ (by
      rintro t ht ⟨hsame, hlisted⟩
      obtain ⟨hbefore, -, hdoes⟩ := hgood t ht
      refine ⟨hsame.trans hdoes.sameRobot, hdoes.presetListed hbefore ?_ hlisted⟩
      rw [hsame.cleaningPresets]
      exact hbatches t ht)
  intro s hs
  obtain ⟨hsame, hlisted⟩ := hinv s hs
  refine ⟨runMode_supported _, ?_⟩
  rw [cleanMode_supported_iff, ← hsame.cleaningPresets]
  exact ⟨fun h => ⟨_, h⟩, hlisted⟩

/-- A robot with a mop and a vacuum reports the mop, and the clean mode `Mop` is listed. -/
theorem current_mode_mop : ∃ sent d ts b,
    Device.init mopAndVacuumAnswers ⟨0, 0, 0⟩ () = .exit () sent (.done d) ∧ Bridge.Run (.start d) ts b ∧
      RvcCleanMode.currentMode b.device = 1 ∧ ∀ s ∈ Lts.visited (.start d) ts,
        Supported (RvcRunMode.supportedModes s.device) (RvcRunMode.currentMode s.device) ∧
          (Supported (RvcCleanMode.supportedModes s.device) (RvcCleanMode.currentMode s.device) ↔
            d.cleaningPresets.Nonempty) := by
  have hexec : (Lts.exec Bridge.step (.start mopAndVacuumDevice) [.monitor .begin,
      .monitor (.polled (.ok [.presetSelectionStateAttribute "operation_mode" "mop"]))]).any (fun r =>
        decide (RvcCleanMode.currentMode r.2.device = 1 ∧
          ∀ t ∈ r.1, ReportsOnly mopAndVacuumDevice.cleaningPresets t.label.batch)) = true := by decide +kernel
  obtain ⟨sent, hinit⟩ := init_mopAndVacuum
  obtain ⟨ts, b, hrun, hp⟩ := Lts.exists_run_of_exec hexec
  obtain ⟨hmode, hbatches⟩ := of_decide_eq_true hp
  refine ⟨sent, mopAndVacuumDevice, ts, b, hinit, hrun, hmode, ?_⟩
  exact current_mode_supported hinit (by rintro attrs ⟨⟩; decide +kernel) hrun hbatches

/-- A robot without presets: its clean mode is `Vacuum`, and no mode is supported. -/
theorem clean_mode_without_presets :
    (∃ sent, Device.init basicAnswers ⟨0, 0, 0⟩ () = .exit () sent (.done basicDevice)) ∧
      (∀ attrs, basicAnswers.attributes = .ok attrs → ReportsOnly basicDevice.cleaningPresets attrs) ∧
      RvcCleanMode.currentMode basicDevice = 0 ∧ RvcCleanMode.supportedModes basicDevice .readAll = .ok (.list []) ∧
      ¬ Supported (RvcCleanMode.supportedModes basicDevice) (RvcCleanMode.currentMode basicDevice) := by
  refine ⟨init_basic, ?_, by decide +kernel, by decide +kernel, ?_⟩
  · rintro attrs ⟨⟩
    decide +kernel
  · rw [cleanMode_supported_iff]
    decide +kernel

end ValetudoMatter
