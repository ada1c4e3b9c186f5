import ValetudoMatter.Device

/-!
# Attributes that are arrays

How an array attribute is read, whole or at an index, and the mode options that the two mode clusters list.
-/

namespace ValetudoMatter

/-- `ArrayAttributeRead`: the whole array, the entry at an index, or none of it. -/
inductive ArrayAttributeRead where
  | readAll
  | readOne (index : UInt16)
  | readNone
  deriving DecidableEq, Repr

/-- What reading an array attribute gives. -/
inductive ArrayValue (α : Type) where
  | list (xs : List α)
  | entry (x : α)
  deriving DecidableEq, Repr

/-- The tags of the modes. -/
inductive ModeTag where
  | idle | cleaning | mapping | vacuum | mop | vacuumThenMop
  deriving DecidableEq, Repr

/-- An entry of `supported_modes`. -/
structure ModeOption where
  label : String
  mode : UInt8
  modeTags : List ModeTag
  deriving DecidableEq, Repr

/-- The response of `ChangeToMode`. -/
structure ChangeToModeResponse where
  status : UInt8
  statusText : Option String
  deriving DecidableEq, Repr

/-- The response that says success. -/
def ChangeToModeResponse.success : ChangeToModeResponse := { status := 0, statusText := none }

end ValetudoMatter
