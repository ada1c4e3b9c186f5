import ValetudoMatter.Lib.Coroutine
import ValetudoMatter.Device.Capabilities
import ValetudoMatter.Device.State
import ValetudoMatter.Handlers

/-!
# The device

`device.rs`: what the bridge knows of the robot, how it is fetched, how attributes change it, and the requests that control
the robot. The operations that send a request are coroutines over the device; the answer to a request is the result of
`ValetudoClient::put`.
-/

namespace ValetudoMatter

open Coroutine

structure DeviceState where
  value : StatusValue
  flag : StatusFlag
  deriving DecidableEq, Repr

structure MapSegment where
  id : String
  name : Option String
  deriving DecidableEq, Repr

structure Device where
  capabilities : Finset Capability
  cleaningPresets : Finset Preset
  currentPreset : VersionedCell Preset
  currentState : VersionedCell DeviceState
  identifyTime : VersionedCell UInt16
  segments : List MapSegment
  selectedAreas : List UInt32

/-- An operation on the device that may send requests. -/
abbrev Handler (α : Type) : Type := Co Device Notification HttpRequest (Except AnyhowError Unit) MatterError α

/-! ## Initialisation -/

/-- What the robot answers to the requests of `init`. -/
structure Answers where
  capabilities : Except AnyhowError (Finset Capability)
  presets : Except AnyhowError (Finset Preset)
  attributes : Except AnyhowError (List StateAttribute)
  segments : Except AnyhowError (List MapSegment)

/-- The random data versions that the three cells start with. -/
structure Versions where
  currentState : UInt32
  currentPreset : UInt32
  identifyTime : UInt32

/-- Initialisation: it sends requests, one after the other, and may fail. -/
abbrev Init (α : Type) : Type := Co Unit HttpRequest Empty Empty AnyhowError α

/-- `client.get(path).await?`, with the answer that the robot gives. -/
def Init.get {α : Type} (path : String) (answer : Except AnyhowError α) : Init α := do
  Co.emit [HttpRequest.get path]
  Co.ofExcept answer

/-- The value of a status attribute. -/
def StateAttribute.status? : StateAttribute → Option DeviceState
  | .statusStateAttribute value flag => some { value := value, flag := flag }
  | _ => none

/-- The value of an operation mode attribute. -/
def StateAttribute.operationMode? : StateAttribute → Option String
  | .presetSelectionStateAttribute type value => if type = "operation_mode" then some value else none
  | _ => none

/-- `Device::init`. -/
def Device.init (answers : Answers) (versions : Versions) : Init Device := do
  let capabilities ← Init.get "/api/v2/robot/capabilities"
    (context "Failed to fetch capabilities" answers.capabilities)
  if .basicControlCapability ∉ capabilities then
    Co.fail (.msg "Device requires at least BasicControlCapability")
  else
    let cleaningPresets ←
      (if .operationModeControlCapability ∈ capabilities then
        Init.get "/api/v2/robot/capabilities/OperationModeControlCapability/presets"
          (context "Failed to fetch cleaning mode presets" answers.presets)
      else pure ∅)
    let attributes ← Init.get "/api/v2/robot/state/attributes"
      (context "Failed to fetch initial status" answers.attributes)
    let some currentState := attributes.findSome? StateAttribute.status?
      | Co.fail (.msg "No status attribute in api response")
    let currentPresetValue := attributes.findSome? StateAttribute.operationMode?
    let segments ←
      (if .mapSegmentationCapability ∈ capabilities then
        Init.get "/api/v2/robot/capabilities/MapSegmentationCapability"
          (context "Failed to fetch map segments" answers.segments)
      else pure [])
    let defaultPreset :=
      ((currentPresetValue.bind presetFromStr).or (presetIter cleaningPresets).head?).getD .vacuum
    return {
      capabilities := capabilities
      cleaningPresets := cleaningPresets
      currentPreset := .new defaultPreset versions.currentPreset
      currentState := .new currentState versions.currentState
      identifyTime := .new 0 versions.identifyTime
      segments := segments
      selectedAreas := [] }

/-! ## Attributes -/

/-- One pass of the loop of `apply_attributes`. -/
def Device.applyAttribute (runModeCluster cleanModeCluster operationalStateCluster : Cluster) (device : Device) :
    StateAttribute → Device × List Notification
  | .statusStateAttribute value flag =>
    let newState : DeviceState := { value := value, flag := flag }
    let old := device.currentState.get
    let device := { device with currentState := device.currentState.set newState }
    if newState ≠ old then
      (device, notifyClusterChanged 1 runModeCluster ++ notifyClusterChanged 1 operationalStateCluster)
    else (device, [])
  | .presetSelectionStateAttribute type value =>
    if type = "operation_mode" then
      match presetFromStr value with
      | some preset =>
        let old := device.currentPreset.get
        let device := { device with currentPreset := device.currentPreset.set preset }
        if preset ≠ old then (device, notifyClusterChanged 1 cleanModeCluster) else (device, [])
      | none => (device, [])
    else (device, [])
  | _ => (device, [])

/-- `apply_attributes`. -/
def Device.applyAttributes (runModeCluster cleanModeCluster operationalStateCluster : Cluster) (device : Device) :
    List StateAttribute → Device × List Notification
  | [] => (device, [])
  | attr :: attrs =>
    let (device, ns) := device.applyAttribute runModeCluster cleanModeCluster operationalStateCluster attr
    let (device, ms) := device.applyAttributes runModeCluster cleanModeCluster operationalStateCluster attrs
    (device, ns ++ ms)

/-! ## Requests -/

/-- `client.put(path, body).await`. -/
def put (path body : String) : Handler (Except AnyhowError Unit) := Co.await (HttpRequest.put path body)

/-- `str::parse::<u32>`: an optional plus sign, then at least one digit, in range. -/
def parseU32 (s : String) : Option UInt32 :=
  let digits := match s.toList with
    | '+' :: cs => cs
    | cs => cs
  if digits ≠ [] ∧ digits.all Char.isDigit then
    let n := digits.foldl (fun n c => 10 * n + (c.toNat - '0'.toNat)) 0
    if n < UInt32.size then some (UInt32.ofNat n) else none
  else none

/-- The area id of a segment: its id, read as a number. -/
def segmentAreaId (segment : MapSegment) : Option UInt32 := parseU32 segment.id

def basicControlPath : String := "/api/v2/robot/capabilities/BasicControlCapability"

def mapSegmentationPath : String := "/api/v2/robot/capabilities/MapSegmentationCapability"

def presetPath : String := "/api/v2/robot/capabilities/OperationModeControlCapability/preset"

def speakerTestPath : String := "/api/v2/robot/capabilities/SpeakerTestCapability"

/-- The segment ids of a selection, each in quotes: an area that no segment has is dropped. -/
def segmentIds (segments : List MapSegment) (selected : List UInt32) : List String :=
  selected.filterMap fun areaId =>
    (segments.find? fun s => segmentAreaId s = some areaId).map fun s => "\"" ++ s.id ++ "\""

/-- The body of a segment clean. -/
def segmentActionBody (segmentIds : List String) : String :=
  "\x7b\"action\": \"start_segment_action\", \"segment_ids\": [" ++ ", ".intercalate segmentIds ++
    "], \"iterations\": 1\x7d"

namespace Device

def startCleaning : Handler (Except AnyhowError Unit) := do
  let device ← Co.get
  let selected := device.selectedAreas
  if selected.isEmpty then
    put basicControlPath "\x7b\"action\": \"start\"\x7d"
  else
    put mapSegmentationPath (segmentActionBody (segmentIds device.segments selected))

/-- `todo!()`. -/
def startMappingPass : Handler (Except AnyhowError Unit) := Co.abort

def pause : Handler (Except AnyhowError Unit) := put basicControlPath "\x7b\"action\": \"pause\"\x7d"

def goHome : Handler (Except AnyhowError Unit) := put basicControlPath "\x7b\"action\": \"home\"\x7d"

def setPreset (preset : Preset) : Handler (Except AnyhowError Unit) :=
  put presetPath ("\x7b\"name\": \"" ++ preset.name ++ "\"\x7d")

def stop : Handler (Except AnyhowError Unit) := put basicControlPath "\x7b\"action\": \"stop\"\x7d"

end Device

end ValetudoMatter
