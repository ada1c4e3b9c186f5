import ValetudoMatter.Lemmas.Init

/-!
# Listed, indexed and accepted modes

The modes that a mode cluster lists, those it gives at an index and those it accepts agree for the clean-mode cluster, always.
For the run-mode cluster they agree on a robot that can make a mapping pass, but for the command to map, which aborts
(`modesAgree_iff`).
-/

namespace ValetudoMatter

open Coroutine

/-- The two mode clusters. -/
inductive ModeCluster where
  | runMode | cleanMode
  deriving DecidableEq, Repr

namespace ModeCluster

/-- The attribute `supported_modes` of a cluster. -/
def supportedModes : ModeCluster → Device → ArrayAttributeRead → Except MatterError (ArrayValue ModeOption)
  | .runMode => RvcRunMode.supportedModes
  | .cleanMode => RvcCleanMode.supportedModes

/-- The command `ChangeToMode` of a cluster. -/
def changeToMode : ModeCluster → UInt8 → Command
  | .runMode, m => .changeRunMode (.ok m)
  | .cleanMode, m => .changeCleanMode (.ok m)

/-- The full list of modes. -/
def listed (c : ModeCluster) (d : Device) : List ModeOption :=
  match c.supportedModes d .readAll with
  | .ok (.list options) => options
  | _ => []

end ModeCluster

/-- A command ends in the reply `Success`, or in the error `Failure`. -/
def Settles (x : Exit MatterError Reply) : Prop :=
  x = .done (.changeToMode .success) ∨ ∃ e, x = .fail e ∧ e.code = .failure

/-- The modes of a cluster agree, for a device, an index and the byte of a request. -/
structure ModesAgree (c : ModeCluster) (d : Device) (i : UInt16) (m : UInt8) : Prop where
  readOne : c.supportedModes d (.readOne i) =
    match (c.listed d)[i.toNat]? with
    | some option => .ok (.entry option)
    | none => .error (.new .constraintError)
  mapping : ∀ option ∈ c.listed d, .mapping ∈ option.modeTags → .mappingPassCapability ∈ d.capabilities
  rejects : dmHandler (c.changeToMode m) d = .exit d [] (.fail (.new .constraintError)) ↔
    m ∉ (c.listed d).map (·.mode)
  settles : m ∈ (c.listed d).map (·.mode) → (dmHandler (c.changeToMode m) d).Always Settles

/-! ## Changing the mode -/

/-- Reporting the result of a PUT settles. -/
theorem report_settles (res : Except AnyhowError Unit) : Settles (report (.changeToMode .success) res) := by
  cases res with
  | ok u => exact .inl rfl
  | error e => exact .inr ⟨_, rfl, rfl⟩

theorem sendAndReport_settles (d : Device) (r : HttpRequest) :
    (sendAndReport d r (.changeToMode .success)).Always Settles :=
  fun res _ => report_settles res

/-- What settles is not a rejection. -/
theorem not_settles_constraint : ¬ Settles (.fail (.new .constraintError)) := by
  rintro (h | ⟨e, h, he⟩)
  · cases h
  · cases h
    cases he

/-- A command that settles is not rejected. -/
theorem ne_reject_of_settles {o : Outcome Device Notification HttpRequest (Except AnyhowError Unit) MatterError Reply}
    {d : Device} (h : o.Always Settles) : o ≠ .exit d [] (.fail (.new .constraintError)) := by
  rintro rfl
  exact not_settles_constraint h

/-! ## The clean-mode cluster -/

theorem listed_cleanMode (d : Device) :
    ModeCluster.cleanMode.listed d = (presetIter d.cleaningPresets).map fun p => (CleanMode.ofPreset p).buildMode := rfl

/-- A byte is listed exactly when it is that of a mode whose preset the robot has. -/
theorem mem_listed_cleanMode {d : Device} {m : UInt8} :
    m ∈ (ModeCluster.cleanMode.listed d).map (·.mode) ↔
      ∃ mode, CleanMode.tryFrom m = some mode ∧ mode.toPreset ∈ d.cleaningPresets := by
  simp only [listed_cleanMode, List.map_map, List.mem_map, mem_presetIter, Function.comp_apply, CleanMode.buildMode]
  constructor
  · rintro ⟨p, hp, rfl⟩
    exact ⟨CleanMode.ofPreset p, CleanMode.tryFrom_toU8 _, by simpa using hp⟩
  · rintro ⟨mode, hmode, hp⟩
    exact ⟨mode.toPreset, hp, by rw [CleanMode.ofPreset_toPreset, CleanMode.tryFrom_eq_some.mp hmode]⟩

/-- The modes of the clean-mode cluster agree. -/
theorem modesAgree_cleanMode (d : Device) (i : UInt16) (m : UInt8) : ModesAgree .cleanMode d i m := by
  have hchange := changeCleanMode_eq m d
  have hsettles : m ∈ (ModeCluster.cleanMode.listed d).map (·.mode) →
      (dmHandler (.changeCleanMode (.ok m)) d).Always Settles := by
    intro hm
    obtain ⟨mode, hmode, hp⟩ := mem_listed_cleanMode.mp hm
    rw [hchange, hmode]
    simp only [hp, if_true]
    intro res d'
    cases res with
    | ok u => exact .inl rfl
    | error e => exact .inr ⟨_, rfl, rfl⟩
  refine ⟨?_, ?_, ⟨?_, ?_⟩, hsettles⟩
  · rw [listed_cleanMode, List.getElem?_map]
    simp only [ModeCluster.supportedModes, RvcCleanMode.supportedModes]
    cases (presetIter d.cleaningPresets)[i.toNat]? <;> rfl
  · intro option hoption htag
    rw [listed_cleanMode] at hoption
    obtain ⟨p, -, rfl⟩ := List.mem_map.mp hoption
    cases p <;> simp [CleanMode.ofPreset, CleanMode.buildMode] at htag
  · exact fun h hm => ne_reject_of_settles (hsettles hm) h
  · intro hm
    rw [ModeCluster.changeToMode, hchange]
    split
    · rfl
    · rename_i mode hmode
      rw [if_neg fun hp => hm (mem_listed_cleanMode.mpr ⟨mode, hmode, hp⟩)]

/-! ## The run-mode cluster -/

theorem listed_runMode (d : Device) : ModeCluster.runMode.listed d = RunMode.all.map RunMode.buildMode := rfl

/-- A byte is listed exactly when it is that of a mode. -/
theorem mem_listed_runMode {d : Device} {m : UInt8} :
    m ∈ (ModeCluster.runMode.listed d).map (·.mode) ↔ ∃ mode, RunMode.tryFrom m = some mode := by
  simp only [listed_runMode, List.map_map, List.mem_map, RunMode.mem_all, true_and, Function.comp_apply]
  constructor
  · rintro ⟨mode, rfl⟩
    exact ⟨mode, by cases mode <;> decide⟩
  · rintro ⟨mode, hmode⟩
    exact ⟨mode, by rw [RunMode.tryFrom_eq_some.mp hmode]; cases mode <;> rfl⟩

/-- At an index, the run-mode cluster gives the modes of its list if the robot can make a mapping pass. -/
theorem readOne_runMode {d : Device} (hcap : .mappingPassCapability ∈ d.capabilities) (i : UInt16) :
    ModeCluster.runMode.supportedModes d (.readOne i) =
      match (ModeCluster.runMode.listed d)[i.toNat]? with
      | some option => .ok (.entry option)
      | none => .error (.new .constraintError) := by
  have hall : d.supportedModes = RunMode.all := by
    simp [Device.supportedModes, RunMode.all, hcap]
  rw [listed_runMode, List.getElem?_map]
  simp only [ModeCluster.supportedModes, RvcRunMode.supportedModes, hall]
  cases RunMode.all[i.toNat]? <;> rfl

/-- A listed mode settles unless it is to map while the robot does not. -/
theorem settles_runMode_iff {d : Device} {m : UInt8} {mode : RunMode} (hmode : RunMode.tryFrom m = some mode) :
    (dmHandler (.changeRunMode (.ok m)) d).Always Settles ↔
      (mode = .mapping → RunMode.ofDeviceState d.currentState.inner = .mapping) := by
  rw [changeRunMode_eq, hmode]
  simp only
  split
  · rename_i hsame
    exact iff_of_true (.inl rfl) fun h => by rw [← hsame, h]
  · rename_i hne
    cases mode with
    | idle => exact iff_of_true (sendAndReport_settles d _) nofun
    | cleaning => exact iff_of_true (sendAndReport_settles d _) nofun
    | mapping =>
      refine iff_of_false ?_ fun h => hne (h rfl).symm
      rintro (h | ⟨e, h, -⟩) <;> cases h

/-- The modes of the run-mode cluster agree exactly when the robot can make a mapping pass and the request is not to start
one. -/
theorem modesAgree_runMode_iff (d : Device) (i : UInt16) (m : UInt8) :
    ModesAgree .runMode d i m ↔ .mappingPassCapability ∈ d.capabilities ∧
      (m = RunMode.mapping.toU8 → RunMode.ofDeviceState d.currentState.inner = .mapping) := by
  constructor
  · intro h
    refine ⟨h.mapping RunMode.mapping.buildMode ?_ (by decide), ?_⟩
    · rw [listed_runMode]
      exact List.mem_map_of_mem (RunMode.mem_all _)
    · rintro rfl
      have hmode := RunMode.tryFrom_toU8 .mapping
      exact (settles_runMode_iff hmode).mp (h.settles (mem_listed_runMode.mpr ⟨_, hmode⟩)) rfl
  · rintro ⟨hcap, hmap⟩
    have hsettles : m ∈ (ModeCluster.runMode.listed d).map (·.mode) →
        (dmHandler (.changeRunMode (.ok m)) d).Always Settles := by
      intro hm
      obtain ⟨mode, hmode⟩ := mem_listed_runMode.mp hm
      rw [settles_runMode_iff hmode]
      rintro rfl
      exact hmap (RunMode.tryFrom_eq_some.mp hmode)
    refine ⟨readOne_runMode hcap i, fun _ _ _ => hcap, ⟨?_, ?_⟩, hsettles⟩
    · exact fun h hm => ne_reject_of_settles (hsettles hm) h
    · intro hm
      have hnone : RunMode.tryFrom m = none := by
        cases hmode : RunMode.tryFrom m with
        | none => rfl
        | some mode => exact absurd (mem_listed_runMode.mpr ⟨mode, hmode⟩) hm
      rw [ModeCluster.changeToMode, changeRunMode_eq, hnone]

/-- Listed, indexed and accepted modes are the same: for the clean-mode cluster always, and for the run-mode cluster exactly
when the robot can make a mapping pass and the request is not to start one while the robot does something else. -/
theorem modesAgree_iff (c : ModeCluster) (d : Device) (i : UInt16) (m : UInt8) :
    ModesAgree c d i m ↔ (c = .runMode → .mappingPassCapability ∈ d.capabilities ∧
      (m = RunMode.mapping.toU8 → RunMode.ofDeviceState d.currentState.inner = .mapping)) := by
  cases c with
  | runMode => simp [modesAgree_runMode_iff]
  | cleanMode => simp [modesAgree_cleanMode]

/-- A robot that cannot make a mapping pass: the list has `Mapping`, the index of `Mapping` is past the end, and the command to
map aborts. -/
theorem mapping_listed_and_aborts :
    (∃ sent, Device.init basicAnswers ⟨0, 0, 0⟩ () = .exit () sent (.done basicDevice)) ∧
      .mappingPassCapability ∉ basicDevice.capabilities ∧
      RunMode.mapping.buildMode ∈ ModeCluster.runMode.listed basicDevice ∧
      RvcRunMode.supportedModes basicDevice (.readOne 2) = .error (.new .constraintError) ∧
      dmHandler (.changeRunMode (.ok 2)) basicDevice = .exit basicDevice [] .abort ∧
      ¬ ModesAgree .runMode basicDevice 2 2 := by
  refine ⟨init_basic, by decide +kernel, by decide +kernel, by decide +kernel, ?_, ?_⟩
  · rw [changeRunMode_eq]
    rfl
  · rw [modesAgree_runMode_iff]
    decide +kernel

end ValetudoMatter
