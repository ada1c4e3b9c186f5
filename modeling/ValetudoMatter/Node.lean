import ValetudoMatter.Handlers.Identify
import ValetudoMatter.Handlers.RvcCleanMode
import ValetudoMatter.Handlers.RvcRunMode
import ValetudoMatter.Handlers.RvcOperationalState
import ValetudoMatter.Handlers.ServiceArea

/-!
# The node

`node.rs`: the commands and writes of endpoint 1, each handled by the device in the context of its cluster.
-/

namespace ValetudoMatter

open Coroutine

/-- A command or a write, with its arguments as they decode. -/
inductive Command where
  | identify (identifyTime : Tlv UInt16)
  | setIdentifyTime (value : UInt16)
  | triggerEffect
  | changeRunMode (newMode : Tlv UInt8)
  | changeCleanMode (newMode : Tlv UInt8)
  | pause
  | resume
  | goHome
  | selectAreas (newAreas : Tlv (List (Tlv UInt32)))
  | skipArea
  deriving DecidableEq, Repr

inductive Reply where
  | unit
  | changeToMode (r : ChangeToModeResponse)
  | operational (r : ErrorState)
  | selectAreas (r : SelectAreasResponse)
  | skipArea (r : SkipAreaResponse)
  deriving DecidableEq, Repr

/-- The context of the operations on a cluster of endpoint 1. -/
def ctx (cluster : Cluster) : OperationContext := { endpoint := 1, cluster := cluster }

/-- `dm_handler`. -/
def dmHandler : Command → Handler Reply
  | .identify identifyTime => do
    Identify.handleIdentify (ctx .identify) identifyTime
    return .unit
  | .setIdentifyTime value => do
    Identify.setIdentifyTime (ctx .identify) value
    return .unit
  | .triggerEffect => do
    Identify.handleTriggerEffect
    return .unit
  | .changeRunMode newMode => return .changeToMode (← RvcRunMode.handleChangeToMode newMode)
  | .changeCleanMode newMode => return .changeToMode (← RvcCleanMode.handleChangeToMode newMode)
  | .pause => return .operational (← RvcOperationalState.handlePause)
  | .resume => return .operational (← RvcOperationalState.handleResume)
  | .goHome => return .operational (← RvcOperationalState.handleGoHome)
  | .selectAreas newAreas => return .selectAreas (← ServiceArea.handleSelectAreas (ctx .serviceArea) newAreas)
  | .skipArea => return .skipArea (← ServiceArea.handleSkipArea)

end ValetudoMatter
