import ValetudoMatter.Device

/-!
# The identify cluster

`handlers/identify.rs`: the robot plays a sound while `identify_time` is not zero, if it has a speaker.
-/

namespace ValetudoMatter

open Coroutine

/-- `identify_robot`: the previous time is the guard against a second sound, and the time is reset after the sound. -/
def Device.identifyRobot (ctx : OperationContext) (dur : UInt16) : Handler Unit := do
  let device ← Co.get
  let (oldValue, cell, ns) := device.identifyTime.replaceNotify dur ctx
  Co.set { device with identifyTime := cell }
  Co.emit ns
  if dur = 0 ∨ oldValue ≠ 0 then
    return ()
  let res ←
    if .speakerTestCapability ∈ device.capabilities then do
      let res ← put speakerTestPath "\x7b\"action\": \"play_test_sound\"\x7d"
      pure (res.mapError toMatterErr)
    else pure (.ok ())
  let device ← Co.get
  let (cell, ns) := device.identifyTime.setNotify 0 ctx
  Co.set { device with identifyTime := cell }
  Co.emit ns
  Co.ofExcept res

namespace Identify

/-- The data version of the cluster. -/
def dataver (device : Device) : UInt32 := device.identifyTime.dataver

/-- The attribute `identify_time`. -/
def identifyTime (device : Device) : UInt16 := device.identifyTime.get

/-- A write of the attribute `identify_time`. -/
def setIdentifyTime (ctx : OperationContext) (value : UInt16) : Handler Unit := Device.identifyRobot ctx value

def handleIdentify (ctx : OperationContext) (identifyTime : Tlv UInt16) : Handler Unit := do
  let identifyTime ← Co.ofExcept identifyTime
  Device.identifyRobot ctx identifyTime

def handleTriggerEffect : Handler Unit := Co.fail (.new .invalidCommand)

end Identify

end ValetudoMatter
