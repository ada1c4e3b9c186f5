import Mathlib.Data.Finset.Basic

/-!
# Capabilities

The capabilities of Valetudo, under the names it uses for them in its API.
-/

namespace ValetudoMatter

inductive Capability where
  | autoEmptyDockAutoEmptyIntervalControlCapability
  | autoEmptyDockManualTriggerCapability
  | basicControlCapability
  | cameraLightControlCapability
  | carpetModeControlCapability
  | carpetSensorModeControlCapability
  | collisionAvoidantNavigationControlCapability
  | combinedVirtualRestrictionsCapability
  | consumableMonitoringCapability
  | currentStatisticsCapability
  | doNotDisturbCapability
  | fanSpeedControlCapability
  | goToLocationCapability
  | highResolutionManualControlCapability
  | keyLockCapability
  | locateCapability
  | manualControlCapability
  | mapResetCapability
  | mapSegmentEditCapability
  | mapSegmentRenameCapability
  | mapSegmentationCapability
  | mapSnapshotCapability
  | mappingPassCapability
  | mopDockCleanManualTriggerCapability
  | mopDockDryManualTriggerCapability
  | mopDockMopAutoDryingControlCapability
  | mopDockMopWashTemperatureControlCapability
  | mopExtensionControlCapability
  | mopExtensionFurnitureLegHandlingControlCapability
  | mopTwistControlCapability
  | obstacleAvoidanceControlCapability
  | obstacleImagesCapability
  | operationModeControlCapability
  | pendingMapChangeHandlingCapability
  | persistentMapControlCapability
  | petObstacleAvoidanceControlCapability
  | quirksCapability
  | speakerTestCapability
  | speakerVolumeControlCapability
  | totalStatisticsCapability
  | voicePackManagementCapability
  | waterUsageControlCapability
  | wifiConfigurationCapability
  | wifiScanCapability
  | zoneCleaningCapability
  deriving DecidableEq, Repr

/-- The name of a capability in the API. -/
def Capability.name : Capability → String
  | .autoEmptyDockAutoEmptyIntervalControlCapability => "AutoEmptyDockAutoEmptyIntervalControlCapability"
  | .autoEmptyDockManualTriggerCapability => "AutoEmptyDockManualTriggerCapability"
  | .basicControlCapability => "BasicControlCapability"
  | .cameraLightControlCapability => "CameraLightControlCapability"
  | .carpetModeControlCapability => "CarpetModeControlCapability"
  | .carpetSensorModeControlCapability => "CarpetSensorModeControlCapability"
  | .collisionAvoidantNavigationControlCapability => "CollisionAvoidantNavigationControlCapability"
  | .combinedVirtualRestrictionsCapability => "CombinedVirtualRestrictionsCapability"
  | .consumableMonitoringCapability => "ConsumableMonitoringCapability"
  | .currentStatisticsCapability => "CurrentStatisticsCapability"
  | .doNotDisturbCapability => "DoNotDisturbCapability"
  | .fanSpeedControlCapability => "FanSpeedControlCapability"
  | .goToLocationCapability => "GoToLocationCapability"
  | .highResolutionManualControlCapability => "HighResolutionManualControlCapability"
  | .keyLockCapability => "KeyLockCapability"
  | .locateCapability => "LocateCapability"
  | .manualControlCapability => "ManualControlCapability"
  | .mapResetCapability => "MapResetCapability"
  | .mapSegmentEditCapability => "MapSegmentEditCapability"
  | .mapSegmentRenameCapability => "MapSegmentRenameCapability"
  | .mapSegmentationCapability => "MapSegmentationCapability"
  | .mapSnapshotCapability => "MapSnapshotCapability"
  | .mappingPassCapability => "MappingPassCapability"
  | .mopDockCleanManualTriggerCapability => "MopDockCleanManualTriggerCapability"
  | .mopDockDryManualTriggerCapability => "MopDockDryManualTriggerCapability"
  | .mopDockMopAutoDryingControlCapability => "MopDockMopAutoDryingControlCapability"
  | .mopDockMopWashTemperatureControlCapability => "MopDockMopWashTemperatureControlCapability"
  | .mopExtensionControlCapability => "MopExtensionControlCapability"
  | .mopExtensionFurnitureLegHandlingControlCapability => "MopExtensionFurnitureLegHandlingControlCapability"
  | .mopTwistControlCapability => "MopTwistControlCapability"
  | .obstacleAvoidanceControlCapability => "ObstacleAvoidanceControlCapability"
  | .obstacleImagesCapability => "ObstacleImagesCapability"
  | .operationModeControlCapability => "OperationModeControlCapability"
  | .pendingMapChangeHandlingCapability => "PendingMapChangeHandlingCapability"
  | .persistentMapControlCapability => "PersistentMapControlCapability"
  | .petObstacleAvoidanceControlCapability => "PetObstacleAvoidanceControlCapability"
  | .quirksCapability => "QuirksCapability"
  | .speakerTestCapability => "SpeakerTestCapability"
  | .speakerVolumeControlCapability => "SpeakerVolumeControlCapability"
  | .totalStatisticsCapability => "TotalStatisticsCapability"
  | .voicePackManagementCapability => "VoicePackManagementCapability"
  | .waterUsageControlCapability => "WaterUsageControlCapability"
  | .wifiConfigurationCapability => "WifiConfigurationCapability"
  | .wifiScanCapability => "WifiScanCapability"
  | .zoneCleaningCapability => "ZoneCleaningCapability"

/-- No two capabilities have one name. -/
theorem Capability.name_injective {c c' : Capability} (h : c.name = c'.name) : c = c' := by
  have key : ∀ i < 45, ∀ j < 45, (Capability.ofNat i).name = (Capability.ofNat j).name → i = j := by decide +kernel
  have hlt : ∀ c : Capability, c.ctorIdx < 45 := by
    intro c
    cases c <;> decide
  have hidx := key _ (hlt c) _ (hlt c')
  rw [Capability.ofNat_ctorIdx, Capability.ofNat_ctorIdx] at hidx
  rw [← Capability.ofNat_ctorIdx c, hidx h, Capability.ofNat_ctorIdx]

end ValetudoMatter
