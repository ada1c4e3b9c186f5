import Mathlib.Data.Finset.Basic

/-!
# The state attributes of the robot

What `GET /state/attributes` and every SSE event carry, and the cleaning presets.
-/

namespace ValetudoMatter

inductive StatusValue where
  | error | docked | idle | returning | cleaning | paused | manualControl | moving
  deriving DecidableEq, Repr

inductive StatusFlag where
  | none | zone | segment | spot | target | resumable | mapping
  deriving DecidableEq, Repr

inductive StateAttribute where
  | attachmentStateAttribute
  | dockStatusStateAttribute
  | presetSelectionStateAttribute (type value : String)
  | batteryStateAttribute
  | statusStateAttribute (value : StatusValue) (flag : StatusFlag)
  deriving DecidableEq, Repr

/-- The cleaning presets, in the order of the enum. -/
inductive Preset where
  | mop | vacuum | vacuumAndMop | vacuumThenMop
  deriving DecidableEq, Repr

/-- All presets, in the order in which an `EnumSet` iterates. -/
def Preset.all : List Preset := [.mop, .vacuum, .vacuumAndMop, .vacuumThenMop]

theorem Preset.mem_all (p : Preset) : p ∈ Preset.all := by cases p <;> decide

/-- `EnumSet::iter`. -/
def presetIter (ps : Finset Preset) : List Preset := Preset.all.filter (· ∈ ps)

@[simp] theorem mem_presetIter {ps : Finset Preset} {p : Preset} : p ∈ presetIter ps ↔ p ∈ ps := by
  simp [presetIter, Preset.mem_all]

/-- The name of a preset in the API. -/
def Preset.name : Preset → String
  | .vacuum => "vacuum"
  | .mop => "mop"
  | .vacuumAndMop => "vacuum_and_mop"
  | .vacuumThenMop => "vacuum_then_mop"

/-- `preset_from_str`. -/
def presetFromStr (s : String) : Option Preset :=
  if s = "vacuum" then some .vacuum
  else if s = "mop" then some .mop
  else if s = "vacuum_and_mop" then some .vacuumAndMop
  else if s = "vacuum_then_mop" then some .vacuumThenMop
  else none

/-- The name of a preset is read back as the preset. -/
@[simp] theorem presetFromStr_name (p : Preset) : presetFromStr p.name = some p := by
  cases p <;> decide

end ValetudoMatter
