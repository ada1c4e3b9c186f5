import ValetudoMatter.Handlers.Attributes

/-!
# The clean-mode cluster

`handlers/rvc_clean_mode.rs`: the cleaning presets of the robot, as modes.
-/

namespace ValetudoMatter

open Coroutine

inductive CleanMode where
  | vacuum | mop | vacuumAndMop | vacuumThenMop
  deriving DecidableEq, Repr

namespace CleanMode

/-- The byte of a mode. -/
def toU8 : CleanMode → UInt8
  | .vacuum => 0
  | .mop => 1
  | .vacuumAndMop => 2
  | .vacuumThenMop => 3

/-- The mode of a byte. -/
def tryFrom (b : UInt8) : Option CleanMode :=
  if b = 0 then some .vacuum
  else if b = 1 then some .mop
  else if b = 2 then some .vacuumAndMop
  else if b = 3 then some .vacuumThenMop
  else none

def ofPreset : Preset → CleanMode
  | .vacuum => .vacuum
  | .mop => .mop
  | .vacuumAndMop => .vacuumAndMop
  | .vacuumThenMop => .vacuumThenMop

def toPreset : CleanMode → Preset
  | .vacuum => .vacuum
  | .mop => .mop
  | .vacuumAndMop => .vacuumAndMop
  | .vacuumThenMop => .vacuumThenMop

@[simp] theorem toPreset_ofPreset (p : Preset) : (ofPreset p).toPreset = p := by cases p <;> rfl

@[simp] theorem ofPreset_toPreset (m : CleanMode) : ofPreset m.toPreset = m := by cases m <;> rfl

@[simp] theorem tryFrom_toU8 (m : CleanMode) : tryFrom m.toU8 = some m := by cases m <;> decide

/-- A byte is read as a mode exactly when it is the mode's byte. -/
theorem tryFrom_eq_some {b : UInt8} {m : CleanMode} : tryFrom b = some m ↔ b = m.toU8 := by
  constructor
  · intro h
    unfold tryFrom at h
    repeat' split at h
    all_goals cases h
    all_goals assumption
  · rintro rfl
    exact tryFrom_toU8 m

/-- `build_mode`. -/
def buildMode (mode : CleanMode) : ModeOption :=
  let label := match mode with
    | .vacuum => "Vacuum"
    | .mop => "Mop"
    | .vacuumAndMop => "Vacuum and Mop"
    | .vacuumThenMop => "Vacuum then Mop"
  let modeTags := match mode with
    | .vacuum => [.vacuum]
    | .mop => [.mop]
    | .vacuumAndMop => [.vacuum, .mop]
    | .vacuumThenMop => [.vacuumThenMop]
  { label := label, mode := mode.toU8, modeTags := modeTags }

end CleanMode

namespace RvcCleanMode

/-- The data version of the cluster. -/
def dataver (device : Device) : UInt32 := device.currentPreset.dataver

def supportedModes (device : Device) : ArrayAttributeRead → Except MatterError (ArrayValue ModeOption)
  | .readAll => .ok (.list ((presetIter device.cleaningPresets).map fun preset => (CleanMode.ofPreset preset).buildMode))
  | .readOne index =>
    match (presetIter device.cleaningPresets)[index.toNat]? with
    | some preset => .ok (.entry (CleanMode.ofPreset preset).buildMode)
    | none => .error (.new .constraintError)
  | .readNone => .ok (.list [])

def currentMode (device : Device) : UInt8 := (CleanMode.ofPreset device.currentPreset.get).toU8

/-- The cached preset is written once the robot has acknowledged the new one, and nobody is notified. -/
def handleChangeToMode (newMode : Tlv UInt8) : Handler ChangeToModeResponse := do
  let newMode ← Co.ofExcept newMode
  let some newMode := CleanMode.tryFrom newMode
    | Co.fail (.new .constraintError)
  let preset := newMode.toPreset
  let device ← Co.get
  if preset ∉ device.cleaningPresets then
    Co.fail (.new .constraintError)
  let res ← Device.setPreset preset
  Co.ofExcept (res.mapError toMatterErr)
  let device ← Co.get
  Co.set { device with currentPreset := device.currentPreset.set preset }
  return .success

end RvcCleanMode

end ValetudoMatter
