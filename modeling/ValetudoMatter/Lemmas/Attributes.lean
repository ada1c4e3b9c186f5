import ValetudoMatter.Bridge
import ValetudoMatter.Lib.LastWrite

/-!
# What a batch of attributes does

Applying a batch leaves the two cells with the last value of their kind in it, or as they were, notifies the clusters of a cell
that it changed, and touches nothing else of the device (`apply_effect`).
-/

namespace ValetudoMatter

/-- The preset that an attribute carries: an operation mode that names one. -/
def StateAttribute.preset? (a : StateAttribute) : Option Preset := a.operationMode?.bind presetFromStr

/-- The status after a batch: the last one in it, or the one before. -/
abbrev statusAfter (status : DeviceState) (attrs : List StateAttribute) : DeviceState :=
  LastWrite.after StateAttribute.status? status attrs

/-- The preset after a batch: the last one in it, or the one before. -/
abbrev presetAfter (preset : Preset) (attrs : List StateAttribute) : Preset :=
  LastWrite.after StateAttribute.preset? preset attrs

/-- What is fetched once, by `init`. -/
structure SameRobot (d d' : Device) : Prop where
  capabilities : d'.capabilities = d.capabilities
  cleaningPresets : d'.cleaningPresets = d.cleaningPresets
  segments : d'.segments = d.segments

theorem SameRobot.refl (d : Device) : SameRobot d d := ⟨rfl, rfl, rfl⟩

theorem SameRobot.trans {d d' d'' : Device} (h : SameRobot d d') (h' : SameRobot d' d'') : SameRobot d d'' :=
  ⟨h'.capabilities.trans h.capabilities, h'.cleaningPresets.trans h.cleaningPresets, h'.segments.trans h.segments⟩

/-- What a batch, or one attribute of it, does to the device. -/
structure AttributesEffect (status : DeviceState) (preset : Preset) (d d' : Device) (ns : List Notification) : Prop where
  sameRobot : SameRobot d d'
  identifyTime : d'.identifyTime = d.identifyTime
  selectedAreas : d'.selectedAreas = d.selectedAreas
  currentState : d'.currentState.inner = status
  currentPreset : d'.currentPreset.inner = preset
  notifiesState : d'.currentState.inner = d.currentState.inner ∨
    (⟨1, .rvcRunMode⟩ ∈ ns ∧ ⟨1, .rvcOperationalState⟩ ∈ ns)
  notifiesPreset : d'.currentPreset.inner = d.currentPreset.inner ∨ ⟨1, .rvcCleanMode⟩ ∈ ns

/-- One attribute. -/
theorem applyAttribute_effect (d : Device) (a : StateAttribute) :
    AttributesEffect (a.status?.getD d.currentState.inner) (a.preset?.getD d.currentPreset.inner) d
      (d.applyAttribute .rvcRunMode .rvcCleanMode .rvcOperationalState a).1
      (d.applyAttribute .rvcRunMode .rvcCleanMode .rvcOperationalState a).2 := by
  cases a with
  | statusStateAttribute value flag =>
    simp only [Device.applyAttribute, VersionedCell.get]
    by_cases h : { value := value, flag := flag } = d.currentState.inner
    · rw [if_neg (not_not.mpr h)]
      exact ⟨⟨rfl, rfl, rfl⟩, rfl, rfl, by simp [StateAttribute.status?], rfl, .inl (by simpa using h), .inl rfl⟩
    · rw [if_pos h]
      exact ⟨⟨rfl, rfl, rfl⟩, rfl, rfl, by simp [StateAttribute.status?], rfl,
        .inr (by simp [notifyClusterChanged]), .inl rfl⟩
  | presetSelectionStateAttribute type value =>
    simp only [Device.applyAttribute, VersionedCell.get]
    split
    · rename_i htype
      split
      · rename_i preset hpreset
        have hcarried : (StateAttribute.presetSelectionStateAttribute type value).preset? = some preset := by
          simp [StateAttribute.preset?, StateAttribute.operationMode?, htype, hpreset]
        rw [hcarried]
        by_cases h : preset = d.currentPreset.inner
        · rw [if_neg (not_not.mpr h)]
          exact ⟨⟨rfl, rfl, rfl⟩, rfl, rfl, rfl, by simp, .inl rfl, .inl (by simpa using h)⟩
        · rw [if_pos h]
          exact ⟨⟨rfl, rfl, rfl⟩, rfl, rfl, rfl, by simp, .inl rfl, .inr (by simp [notifyClusterChanged])⟩
      · rename_i hpreset
        have hcarried : (StateAttribute.presetSelectionStateAttribute type value).preset? = none := by
          simp [StateAttribute.preset?, StateAttribute.operationMode?, htype, hpreset]
        rw [hcarried]
        exact ⟨⟨rfl, rfl, rfl⟩, rfl, rfl, rfl, rfl, .inl rfl, .inl rfl⟩
    · rename_i htype
      have hcarried : (StateAttribute.presetSelectionStateAttribute type value).preset? = none := by
        simp [StateAttribute.preset?, StateAttribute.operationMode?, htype]
      rw [hcarried]
      exact ⟨⟨rfl, rfl, rfl⟩, rfl, rfl, rfl, rfl, .inl rfl, .inl rfl⟩
  | attachmentStateAttribute => exact ⟨⟨rfl, rfl, rfl⟩, rfl, rfl, rfl, rfl, .inl rfl, .inl rfl⟩
  | dockStatusStateAttribute => exact ⟨⟨rfl, rfl, rfl⟩, rfl, rfl, rfl, rfl, .inl rfl, .inl rfl⟩
  | batteryStateAttribute => exact ⟨⟨rfl, rfl, rfl⟩, rfl, rfl, rfl, rfl, .inl rfl, .inl rfl⟩

/-- One effect after another: what the first has notified stays notified. -/
theorem AttributesEffect.trans {s s' : DeviceState} {p p' : Preset} {d d' d'' : Device} {ns ms : List Notification}
    (h : AttributesEffect s p d d' ns) (h' : AttributesEffect s' p' d' d'' ms) :
    AttributesEffect s' p' d d'' (ns ++ ms) where
  sameRobot := h.sameRobot.trans h'.sameRobot
  identifyTime := h'.identifyTime.trans h.identifyTime
  selectedAreas := h'.selectedAreas.trans h.selectedAreas
  currentState := h'.currentState
  currentPreset := h'.currentPreset
  notifiesState := by
    rcases h'.notifiesState with hsame' | ⟨hrun, hop⟩
    · rcases h.notifiesState with hsame | ⟨hrun, hop⟩
      · exact .inl (hsame'.trans hsame)
      · exact .inr ⟨List.mem_append_left _ hrun, List.mem_append_left _ hop⟩
    · exact .inr ⟨List.mem_append_right _ hrun, List.mem_append_right _ hop⟩
  notifiesPreset := by
    rcases h'.notifiesPreset with hsame' | hclean
    · rcases h.notifiesPreset with hsame | hclean
      · exact .inl (hsame'.trans hsame)
      · exact .inr (List.mem_append_left _ hclean)
    · exact .inr (List.mem_append_right _ hclean)

/-- A batch. -/
theorem apply_effect (d : Device) (attrs : List StateAttribute) :
    AttributesEffect (statusAfter d.currentState.inner attrs) (presetAfter d.currentPreset.inner attrs) d
      (d.apply attrs).1 (d.apply attrs).2 := by
  induction attrs generalizing d with
  | nil => exact ⟨.refl d, rfl, rfl, rfl, rfl, .inl rfl, .inl rfl⟩
  | cons a attrs ih =>
    have hfirst := applyAttribute_effect d a
    have hrest := ih (d.applyAttribute .rvcRunMode .rvcCleanMode .rvcOperationalState a).1
    rw [hfirst.currentState, hfirst.currentPreset] at hrest
    exact hfirst.trans hrest

/-- One batch after another. -/
theorem apply_append (d : Device) (attrs more : List StateAttribute) :
    d.apply (attrs ++ more) = (((d.apply attrs).1.apply more).1, (d.apply attrs).2 ++ ((d.apply attrs).1.apply more).2) := by
  induction attrs generalizing d with
  | nil => rfl
  | cons a attrs ih =>
    have hrest := ih (d.applyAttribute .rvcRunMode .rvcCleanMode .rvcOperationalState a).1
    simp only [Device.apply, List.cons_append, Device.applyAttributes] at hrest ⊢
    rw [hrest, List.append_assoc]

end ValetudoMatter
