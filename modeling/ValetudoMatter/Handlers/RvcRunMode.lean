import ValetudoMatter.Handlers.Attributes

/-!
# The run-mode cluster

`handlers/rvc_run_mode.rs`: whether the robot is idle, cleaning or mapping, and the commands that start and stop it.
-/

namespace ValetudoMatter

open Coroutine

inductive RunMode where
  | idle | cleaning | mapping
  deriving DecidableEq, Repr

namespace RunMode

/-- The byte of a mode. -/
def toU8 : RunMode → UInt8
  | .idle => 0
  | .cleaning => 1
  | .mapping => 2

/-- The mode of a byte. -/
def tryFrom (b : UInt8) : Option RunMode :=
  if b = 0 then some .idle
  else if b = 1 then some .cleaning
  else if b = 2 then some .mapping
  else none

/-- `enum_iterator::all::<RunMode>()`. -/
def all : List RunMode := [.idle, .cleaning, .mapping]

def ofDeviceState (status : DeviceState) : RunMode :=
  match status.value, status.flag with
  | .error, _ => .idle
  | .docked, _ => .idle
  | .idle, _ => .idle
  | .returning, _ => .idle
  | .cleaning, _ => .cleaning
  | .paused, _ => .idle
  | .manualControl, _ => .cleaning
  | .moving, .mapping => .mapping
  | .moving, _ => .cleaning

theorem mem_all (m : RunMode) : m ∈ all := by cases m <;> decide

@[simp] theorem tryFrom_toU8 (m : RunMode) : tryFrom m.toU8 = some m := by cases m <;> decide

/-- A byte is read as a mode exactly when it is the mode's byte. -/
theorem tryFrom_eq_some {b : UInt8} {m : RunMode} : tryFrom b = some m ↔ b = m.toU8 := by
  constructor
  · intro h
    unfold tryFrom at h
    repeat' split at h
    all_goals cases h
    all_goals assumption
  · rintro rfl
    exact tryFrom_toU8 m

/-- `build_mode`. -/
def buildMode (mode : RunMode) : ModeOption :=
  let (label, tag) := match mode with
    | .idle => ("Idle", ModeTag.idle)
    | .cleaning => ("Cleaning", ModeTag.cleaning)
    | .mapping => ("Mapping", ModeTag.mapping)
  { label := label, mode := mode.toU8, modeTags := [tag] }

end RunMode

/-- `Device::supported_modes`. -/
def Device.supportedModes (device : Device) : List RunMode :=
  RunMode.all.takeWhile fun mode => mode ≠ .mapping ∨ .mappingPassCapability ∈ device.capabilities

namespace RvcRunMode

/-- The data version of the cluster. -/
def dataver (device : Device) : UInt32 := device.currentState.dataver

/-- Read whole, the attribute lists every mode; read at an index, only those of `Device::supported_modes`. -/
def supportedModes (device : Device) : ArrayAttributeRead → Except MatterError (ArrayValue ModeOption)
  | .readAll => .ok (.list (RunMode.all.map RunMode.buildMode))
  | .readOne index =>
    match device.supportedModes[index.toNat]? with
    | some mode => .ok (.entry mode.buildMode)
    | none => .error (.new .constraintError)
  | .readNone => .ok (.list [])

def currentMode (device : Device) : UInt8 := (RunMode.ofDeviceState device.currentState.get).toU8

/-- A request is sent only if the cached state is of another mode. -/
def handleChangeToMode (newMode : Tlv UInt8) : Handler ChangeToModeResponse := do
  let newMode ← Co.ofExcept newMode
  let some newMode := RunMode.tryFrom newMode
    | Co.fail (.new .constraintError)
  let device ← Co.get
  let currentMode := RunMode.ofDeviceState device.currentState.get
  if newMode ≠ currentMode then
    let res ← match newMode with
      | .idle => Device.stop
      | .cleaning => Device.startCleaning
      | .mapping => Device.startMappingPass
    Co.ofExcept (res.mapError toMatterErr)
  return .success

end RvcRunMode

end ValetudoMatter
