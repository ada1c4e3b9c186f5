import ValetudoMatter.Bridge

/-!
# What a command asks of the robot

The requests by name, and when a command sends which (`Command.Sends`): a reading of the handlers from the outside, which they
are proved to meet.
-/

namespace ValetudoMatter

/-! ## Requests -/

def testSoundRequest : HttpRequest := .put speakerTestPath "\x7b\"action\": \"play_test_sound\"\x7d"

def stopRequest : HttpRequest := .put basicControlPath "\x7b\"action\": \"stop\"\x7d"

def pauseRequest : HttpRequest := .put basicControlPath "\x7b\"action\": \"pause\"\x7d"

def homeRequest : HttpRequest := .put basicControlPath "\x7b\"action\": \"home\"\x7d"

def presetRequest (preset : Preset) : HttpRequest := .put presetPath ("\x7b\"name\": \"" ++ preset.name ++ "\"\x7d")

/-- The request that starts a clean: of everything, or of the selected areas. -/
def startRequest (device : Device) : HttpRequest :=
  if device.selectedAreas.isEmpty then .put basicControlPath "\x7b\"action\": \"start\"\x7d"
  else .put mapSegmentationPath (segmentActionBody (segmentIds device.segments device.selectedAreas))

/-! ## Commands -/

/-- The preset that a clean-mode command asks for. -/
def Command.cleanPreset? : Command → Option Preset
  | .changeCleanMode (.ok b) => (CleanMode.tryFrom b).map CleanMode.toPreset
  | _ => none

/-- An identification of some duration plays the sound: none is active, and the robot has a speaker. -/
def PlaysSound (device : Device) (dur : UInt16) : Prop :=
  dur ≠ 0 ∧ device.identifyTime.inner = 0 ∧ .speakerTestCapability ∈ device.capabilities

/-- The request that a command sends when it is called, if it sends one. -/
def Command.Sends (c : Command) (device : Device) (r : HttpRequest) : Prop :=
  match c with
  | .identify (.ok dur) => PlaysSound device dur ∧ r = testSoundRequest
  | .setIdentifyTime dur => PlaysSound device dur ∧ r = testSoundRequest
  | .changeRunMode (.ok b) =>
    match RunMode.tryFrom b with
    | some .idle => RunMode.ofDeviceState device.currentState.inner ≠ .idle ∧ r = stopRequest
    | some .cleaning => RunMode.ofDeviceState device.currentState.inner ≠ .cleaning ∧ r = startRequest device
    | _ => False
  | .changeCleanMode (.ok b) => ∃ m, CleanMode.tryFrom b = some m ∧ m.toPreset ∈ device.cleaningPresets ∧
      r = presetRequest m.toPreset
  | .pause => r = pauseRequest
  | .resume => r = startRequest device
  | .goHome => r = homeRequest
  | .identify (.error _) | .changeRunMode (.error _) | .changeCleanMode (.error _) => False
  | .triggerEffect | .selectAreas _ | .skipArea => False

end ValetudoMatter
