import ValetudoMatter.Handlers.Attributes

/-!
# The service-area cluster

`handlers/service_area.rs`: the segments of the map as areas, and the selection of those to clean.
-/

namespace ValetudoMatter

open Coroutine

/-- An area; it has no map, no floor, no type and no landmark. -/
structure AreaStruct where
  areaId : UInt32
  locationName : String
  deriving DecidableEq, Repr

inductive SelectAreasStatus where
  | success | unsupportedArea
  deriving DecidableEq, Repr

structure SelectAreasResponse where
  status : SelectAreasStatus
  statusText : String
  deriving DecidableEq, Repr

inductive SkipAreaStatus where
  | invalidInMode
  deriving DecidableEq, Repr

structure SkipAreaResponse where
  status : SkipAreaStatus
  statusText : String
  deriving DecidableEq, Repr

/-- `build_area`. -/
def buildArea (areaId : UInt32) (name : Option String) : AreaStruct :=
  { areaId := areaId, locationName := name.getD "" }

namespace ServiceArea

/-- The data version of the cluster: it is that of the state, which has no part in the areas. -/
def dataver (device : Device) : UInt32 := device.currentState.dataver

/-- Reading may abort: the area id of an indexed segment is unwrapped. -/
def supportedAreas (device : Device) : ArrayAttributeRead → Exit MatterError (ArrayValue AreaStruct)
  | .readAll => .done (.list (device.segments.filterMap fun segment =>
      (segmentAreaId segment).map fun areaId => buildArea areaId segment.name))
  | .readOne index =>
    match (device.segments.filter fun s => (segmentAreaId s).isSome)[index.toNat]? with
    | some segment =>
      match segmentAreaId segment with
      | some areaId => .done (.entry (buildArea areaId segment.name))
      | none => .abort
    | none => .fail (.new .constraintError)
  | .readNone => .done (.list [])

def selectedAreas (device : Device) : ArrayAttributeRead → Except MatterError (ArrayValue UInt32)
  | .readAll => .ok (.list device.selectedAreas)
  | .readOne index =>
    match device.selectedAreas[index.toNat]? with
    | some areaId => .ok (.entry areaId)
    | none => .error (.new .constraintError)
  | .readNone => .ok (.list [])

/-- The area ids that a selection may contain. -/
def validIds (device : Device) : List UInt32 := device.segments.filterMap segmentAreaId

/-- How the loop over the requested areas ends: it has collected them all, or left at an unknown or undecodable one. -/
inductive Collected where
  | areas (newAreas : List UInt32)
  | unknown
  | undecodable (e : MatterError)
  deriving DecidableEq, Repr

/-- The loop over the requested areas. -/
def collectAreas (validIds : List UInt32) (newAreas : List UInt32) : List (Tlv UInt32) → Collected
  | [] => .areas newAreas
  | .error e :: _ => .undecodable e
  | .ok areaId :: rest =>
    if areaId ∈ validIds then collectAreas validIds (newAreas ++ [areaId]) rest else .unknown

def handleSelectAreas (ctx : OperationContext) (newAreas : Tlv (List (Tlv UInt32))) : Handler SelectAreasResponse := do
  let device ← Co.get
  let newAreas ← Co.ofExcept newAreas
  match collectAreas (validIds device) [] newAreas with
  | .undecodable e => Co.fail e
  | .unknown => return { status := .unsupportedArea, statusText := "Unknown area" }
  | .areas newAreas =>
    Co.set { device with selectedAreas := newAreas }
    Co.emit ctx.notifyOwnClusterChanged
    return { status := .success, statusText := "" }

def handleSkipArea : Handler SkipAreaResponse :=
  return { status := .invalidInMode, statusText := "Not supported" }

end ServiceArea

end ValetudoMatter
