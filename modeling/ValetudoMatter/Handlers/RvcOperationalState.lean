import ValetudoMatter.Handlers.Attributes

/-!
# The operational-state cluster

`handlers/rvc_operational_state.rs`: what the robot is doing, and the commands that pause it, resume it and send it home.
-/

namespace ValetudoMatter

open Coroutine

inductive OperationalState where
  | stopped | running | paused | error | seekingCharger | docked
  deriving DecidableEq, Repr

namespace OperationalState

/-- `enum_iterator::all::<OperationalState>()`. -/
def all : List OperationalState := [.stopped, .running, .paused, .error, .seekingCharger, .docked]

/-- The byte of a state: the ids of the Matter enumeration. -/
def toU8 : OperationalState → UInt8
  | .stopped => 0x00
  | .running => 0x01
  | .paused => 0x02
  | .error => 0x03
  | .seekingCharger => 0x40
  | .docked => 0x42

def ofDeviceState (status : DeviceState) : OperationalState :=
  match status.value with
  | .error => .error
  | .docked => .docked
  | .idle => .stopped
  | .returning => .seekingCharger
  | .cleaning => .running
  | .paused => .paused
  | .manualControl => .running
  | .moving => .running

/-- `build_state`. -/
def buildState (state : OperationalState) : UInt8 × String :=
  let label := match state with
    | .stopped => "Stopped"
    | .running => "Running"
    | .paused => "Paused"
    | .error => "Error"
    | .seekingCharger => "Returning to Dock"
    | .docked => "Docked"
  (state.toU8, label)

end OperationalState

/-- An error state: its id, label and details. -/
structure ErrorState where
  id : UInt8
  label : Option String
  details : Option String
  deriving DecidableEq, Repr

/-- `build_ok`. -/
def ErrorState.ok : ErrorState := { id := 0, label := none, details := none }

namespace RvcOperationalState

/-- The data version of the cluster. -/
def dataver (device : Device) : UInt32 := device.currentState.dataver

def operationalStateList : ArrayAttributeRead → Except MatterError (ArrayValue (UInt8 × String))
  | .readAll => .ok (.list (OperationalState.all.map OperationalState.buildState))
  | .readOne index =>
    match OperationalState.all[index.toNat]? with
    | some state => .ok (.entry state.buildState)
    | none => .error (.new .constraintError)
  | .readNone => .ok (.list [])

def operationalState (device : Device) : UInt8 := (OperationalState.ofDeviceState device.currentState.get).toU8

def handlePause : Handler ErrorState := do
  let res ← Device.pause
  Co.ofExcept (res.mapError toMatterErr)
  return .ok

def handleResume : Handler ErrorState := do
  let res ← Device.startCleaning
  Co.ofExcept (res.mapError toMatterErr)
  return .ok

def handleGoHome : Handler ErrorState := do
  let res ← Device.goHome
  Co.ofExcept (res.mapError toMatterErr)
  return .ok

end RvcOperationalState

end ValetudoMatter
