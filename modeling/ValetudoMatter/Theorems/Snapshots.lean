import Mathlib.Data.List.Perm.Basic
import ValetudoMatter.Lemmas.Init

/-!
# Snapshots

A batch acts on the device through the statuses and the presets that it carries, each on a cell of its own (`apply_values`). A
snapshot carries at most one of each, so it does not matter in which order it lists them, and a device that has the values it
carries is left as it is: after `init` on the snapshot, and after it has been applied.
-/

namespace ValetudoMatter

open Coroutine

/-- A snapshot of the attributes: at most one status, and at most one operation mode. -/
structure IsSnapshot (attrs : List StateAttribute) : Prop where
  status : (attrs.filterMap StateAttribute.status?).length ≤ 1
  operationMode : (attrs.filterMap StateAttribute.operationMode?).length ≤ 1

/-! ## Writing values to a cell -/

namespace VersionedCell

variable {α : Type} [DecidableEq α]

/-- Write values to a cell, one after the other, with a notification for each that is another than the one before it. -/
def setAll (note : List Notification) (cell : VersionedCell α) : List α → VersionedCell α × List Notification
  | [] => (cell, [])
  | v :: vs => (((cell.set v).setAll note vs).1, (if v ≠ cell.inner then note else []) ++ ((cell.set v).setAll note vs).2)

theorem set_self (cell : VersionedCell α) : cell.set cell.inner = cell := by
  simp [set]

/-- Values that the cell holds leave it as it is. -/
theorem setAll_held {note : List Notification} {cell : VersionedCell α} {vs : List α} (h : ∀ v ∈ vs, v = cell.inner) :
    cell.setAll note vs = (cell, []) := by
  induction vs with
  | nil => rfl
  | cons v vs ih =>
    have hv : v = cell.inner := h v (by simp)
    rw [setAll, hv, set_self, ih fun w hw => h w (List.mem_cons_of_mem _ hw)]
    simp

/-- The only value that is written is then held. -/
theorem setAll_inner {note : List Notification} {cell : VersionedCell α} {vs : List α} (h : vs.length ≤ 1) :
    ∀ v ∈ vs, v = (cell.setAll note vs).1.inner := by
  match vs, h with
  | [], _ => simp
  | [v], _ => simp [setAll]

end VersionedCell

/-! ## The values of a batch -/

/-- The statuses of a batch. -/
abbrev statuses (attrs : List StateAttribute) : List DeviceState := attrs.filterMap StateAttribute.status?

/-- The presets of a batch: its operation modes that name one. -/
abbrev presets (attrs : List StateAttribute) : List Preset := attrs.filterMap StateAttribute.preset?

/-- The status cell after a batch, and what it notifies. -/
abbrev statusWritten (d : Device) (attrs : List StateAttribute) : VersionedCell DeviceState × List Notification :=
  d.currentState.setAll [⟨1, .rvcRunMode⟩, ⟨1, .rvcOperationalState⟩] (statuses attrs)

/-- The preset cell after a batch, and what it notifies. -/
abbrev presetWritten (d : Device) (attrs : List StateAttribute) : VersionedCell Preset × List Notification :=
  d.currentPreset.setAll [⟨1, .rvcCleanMode⟩] (presets attrs)

/-- Applying an attribute first. -/
theorem apply_cons (d : Device) (a : StateAttribute) (attrs : List StateAttribute) :
    d.apply (a :: attrs) =
      let r := d.applyAttribute .rvcRunMode .rvcCleanMode .rvcOperationalState a
      ((r.1.apply attrs).1, r.2 ++ (r.1.apply attrs).2) := rfl

/-- An attribute that carries no value is ignored. -/
theorem applyAttribute_none {d : Device} {a : StateAttribute} (hstatus : a.status? = none) (hpreset : a.preset? = none) :
    d.applyAttribute .rvcRunMode .rvcCleanMode .rvcOperationalState a = (d, []) := by
  cases a with
  | statusStateAttribute value flag => cases hstatus
  | presetSelectionStateAttribute type value =>
    simp only [Device.applyAttribute]
    split
    · rename_i htype
      have hnone : presetFromStr value = none := by
        simpa [StateAttribute.preset?, StateAttribute.operationMode?, htype] using hpreset
      rw [hnone]
    · rfl
  | attachmentStateAttribute => rfl
  | dockStatusStateAttribute => rfl
  | batteryStateAttribute => rfl

/-- A status is written to its cell. -/
theorem applyAttribute_status {d : Device} {a : StateAttribute} {status : DeviceState} (h : a.status? = some status) :
    a.preset? = none ∧ d.applyAttribute .rvcRunMode .rvcCleanMode .rvcOperationalState a =
      ({ d with currentState := d.currentState.set status },
        if status ≠ d.currentState.inner then [⟨1, .rvcRunMode⟩, ⟨1, .rvcOperationalState⟩] else []) := by
  cases a with
  | statusStateAttribute value flag =>
    cases h
    refine ⟨rfl, ?_⟩
    simp only [Device.applyAttribute, VersionedCell.get, notifyClusterChanged]
    split <;> rfl
  | presetSelectionStateAttribute type value => cases h
  | attachmentStateAttribute => cases h
  | dockStatusStateAttribute => cases h
  | batteryStateAttribute => cases h

/-- An operation mode that names a preset is written to its cell. -/
theorem applyAttribute_preset {d : Device} {a : StateAttribute} {preset : Preset} (h : a.preset? = some preset) :
    a.status? = none ∧ d.applyAttribute .rvcRunMode .rvcCleanMode .rvcOperationalState a =
      ({ d with currentPreset := d.currentPreset.set preset },
        if preset ≠ d.currentPreset.inner then [⟨1, .rvcCleanMode⟩] else []) := by
  cases a with
  | presetSelectionStateAttribute type value =>
    refine ⟨rfl, ?_⟩
    by_cases htype : type = "operation_mode"
    · have hpreset : presetFromStr value = some preset := by
        simpa [StateAttribute.preset?, StateAttribute.operationMode?, htype] using h
      simp only [Device.applyAttribute, htype, if_true, hpreset, VersionedCell.get, notifyClusterChanged]
      split <;> rfl
    · simp [StateAttribute.preset?, StateAttribute.operationMode?, htype] at h
  | statusStateAttribute value flag => cases h
  | attachmentStateAttribute => cases h
  | dockStatusStateAttribute => cases h
  | batteryStateAttribute => cases h

/-- A batch writes its values to the two cells, in their order, and notifies what they change. -/
theorem apply_values (d : Device) (attrs : List StateAttribute) :
    (d.apply attrs).1 =
        { d with currentState := (statusWritten d attrs).1, currentPreset := (presetWritten d attrs).1 } ∧
      (d.apply attrs).2.Perm ((statusWritten d attrs).2 ++ (presetWritten d attrs).2) := by
  induction attrs generalizing d with
  | nil => exact ⟨rfl, .nil⟩
  | cons a attrs ih =>
    rw [apply_cons]
    cases hstatus : a.status? with
    | some status =>
      obtain ⟨hpreset, happly⟩ := applyAttribute_status (d := d) hstatus
      obtain ⟨hdevice, hnotes⟩ := ih { d with currentState := d.currentState.set status }
      simp only [statusWritten, presetWritten, statuses, presets] at hdevice hnotes ⊢
      simp only [happly, hdevice, List.filterMap_cons, hstatus, hpreset, VersionedCell.setAll, List.append_assoc]
      exact ⟨trivial, hnotes.append_left _⟩
    | none =>
      cases hpreset : a.preset? with
      | none =>
        have happly := applyAttribute_none (d := d) hstatus hpreset
        obtain ⟨hdevice, hnotes⟩ := ih d
        simp only [statusWritten, presetWritten, statuses, presets] at hdevice hnotes ⊢
        simp only [happly, List.filterMap_cons, hstatus, hpreset, List.nil_append]
        exact ⟨hdevice, hnotes⟩
      | some preset =>
        obtain ⟨-, happly⟩ := applyAttribute_preset (d := d) hpreset
        obtain ⟨hdevice, hnotes⟩ := ih { d with currentPreset := d.currentPreset.set preset }
        simp only [statusWritten, presetWritten, statuses, presets] at hdevice hnotes ⊢
        simp only [happly, hdevice, List.filterMap_cons, hstatus, hpreset, VersionedCell.setAll]
        refine ⟨trivial, (hnotes.append_left _).trans ?_⟩
        rw [← List.append_assoc, ← List.append_assoc]
        exact List.perm_append_comm.append_right _

/-- A device that holds the values of a batch is left as it is. -/
theorem apply_held {d : Device} {attrs : List StateAttribute} (hstatus : ∀ s ∈ statuses attrs, s = d.currentState.inner)
    (hpreset : ∀ p ∈ presets attrs, p = d.currentPreset.inner) : d.apply attrs = (d, []) := by
  obtain ⟨hdevice, hnotes⟩ := apply_values d attrs
  rw [statusWritten, VersionedCell.setAll_held hstatus, presetWritten, VersionedCell.setAll_held hpreset] at hdevice hnotes
  exact Prod.ext hdevice hnotes.eq_nil

/-! ## Snapshots -/

/-- Lists of at most one entry that are permutations of each other are the same. -/
theorem eq_of_perm_of_length_le_one {α : Type} {xs ys : List α} (h : xs.Perm ys) (hxs : xs.length ≤ 1) : xs = ys := by
  match xs, hxs with
  | [], _ => exact h.nil_eq
  | [x], _ => exact List.singleton_perm.mp h

/-- A snapshot carries at most one preset. -/
theorem IsSnapshot.presets_le {attrs : List StateAttribute} (h : IsSnapshot attrs) : (presets attrs).length ≤ 1 := by
  have hmodes : presets attrs = (attrs.filterMap StateAttribute.operationMode?).filterMap presetFromStr := by
    rw [List.filterMap_filterMap]
    rfl
  rw [hmodes]
  exact (List.length_filterMap_le _ _).trans h.operationMode

/-- Of a list of which at most one entry has a value, the first value is that of any entry. -/
theorem findSome_eq_of_mem {α β : Type} {f : α → Option β} {xs : List α} (hxs : (xs.filterMap f).length ≤ 1) {v : β}
    (hv : v ∈ xs.filterMap f) : xs.findSome? f = some v := by
  rw [← List.head?_filterMap]
  match hvs : xs.filterMap f, hxs with
  | [], _ => simp [hvs] at hv
  | [w], _ =>
    rw [hvs, List.mem_singleton] at hv
    simp [hv]

/-- A device that `init` has made of a snapshot holds its values. -/
theorem Initialised.apply_snapshot {answers : Answers} {d : Device} (hd : Initialised answers d)
    {attrs : List StateAttribute} (hattrs : IsSnapshot attrs) (hanswer : answers.attributes = .ok attrs) :
    d.apply attrs = (d, []) := by
  obtain ⟨attrs', hanswer', hstatus, hpreset⟩ := hd.attributes
  rw [hanswer] at hanswer'
  cases hanswer'
  apply apply_held
  · intro s hs
    rw [findSome_eq_of_mem hattrs.status hs] at hstatus
    exact Option.some.inj hstatus
  · intro p hp
    obtain ⟨a, ha, hap⟩ := List.mem_filterMap.mp hp
    obtain ⟨value, hvalue, hp⟩ := Option.bind_eq_some_iff.mp hap
    have hfirst := findSome_eq_of_mem hattrs.operationMode (List.mem_filterMap.mpr ⟨a, ha, hvalue⟩)
    rw [hpreset, hfirst]
    simp [hp]

/-- A snapshot that has been applied is held. -/
theorem IsSnapshot.apply_apply {attrs : List StateAttribute} (h : IsSnapshot attrs) (d : Device) :
    (d.apply attrs).1.apply attrs = ((d.apply attrs).1, []) := by
  have hdevice := (apply_values d attrs).1
  apply apply_held
  · rw [hdevice]
    exact VersionedCell.setAll_inner h.status
  · rw [hdevice]
    exact VersionedCell.setAll_inner h.presets_le

/-- The order of a snapshot does not matter. -/
theorem IsSnapshot.apply_perm {attrs attrs' : List StateAttribute} (h : IsSnapshot attrs) (hperm : attrs.Perm attrs')
    (d : Device) : (d.apply attrs').1 = (d.apply attrs).1 ∧ (d.apply attrs').2.Perm (d.apply attrs).2 := by
  obtain ⟨hdevice, hnotes⟩ := apply_values d attrs
  obtain ⟨hdevice', hnotes'⟩ := apply_values d attrs'
  have hstatuses : statuses attrs = statuses attrs' := eq_of_perm_of_length_le_one (hperm.filterMap _) h.status
  have hpresets : presets attrs = presets attrs' := eq_of_perm_of_length_le_one (hperm.filterMap _) h.presets_le
  rw [statusWritten, presetWritten, ← hstatuses, ← hpresets] at hdevice' hnotes'
  exact ⟨hdevice'.trans hdevice.symm, hnotes'.trans hnotes.symm⟩

/-- Snapshots are idempotent, consistent with `init`, and free of order. For every list of attributes with at most one status
and at most one operation mode: the device that `init` makes of it is left as it is, versions included, and nobody is notified
when it is applied; so is every device that it has been applied to; and every permutation of it has the same effect on every
device, and issues the same notifications in some order. -/
theorem snapshot_idempotent {attrs : List StateAttribute} (hattrs : IsSnapshot attrs) :
    (∀ answers versions sent d, answers.attributes = .ok attrs →
      Device.init answers versions () = .exit () sent (.done d) → d.apply attrs = (d, [])) ∧
      (∀ d : Device, (d.apply attrs).1.apply attrs = ((d.apply attrs).1, [])) ∧
      ∀ (d : Device) (attrs' : List StateAttribute), attrs.Perm attrs' →
        (d.apply attrs').1 = (d.apply attrs).1 ∧ (d.apply attrs').2.Perm (d.apply attrs).2 := by
  refine ⟨?_, hattrs.apply_apply, fun d attrs' hperm => hattrs.apply_perm hperm d⟩
  intro answers versions sent d hanswer hinit
  exact (Initialised.of_init hinit).apply_snapshot hattrs hanswer

/-- What a robot reports that vacuums. -/
def vacuumSnapshot : List StateAttribute :=
  [.statusStateAttribute .docked .none, .presetSelectionStateAttribute "operation_mode" "vacuum"]

/-- A robot that mops comes to vacuum: the first snapshot that says so is notified, the second is not, and the order of the two
attributes does not matter; nor is a robot notified that has been vacuuming since `init`. -/
theorem snapshot_vacuum :
    mopAndVacuumDevice.apply vacuumSnapshot = (mopAndVacuumDevice, []) ∧
      ∀ d, d = { mopAndVacuumDevice with currentPreset := .new .mop 4 } →
        (d.apply vacuumSnapshot).2 = [⟨1, .rvcCleanMode⟩] ∧
        (d.apply vacuumSnapshot).1.apply vacuumSnapshot = ((d.apply vacuumSnapshot).1, []) ∧
        (d.apply vacuumSnapshot.reverse).1 = (d.apply vacuumSnapshot).1 := by
  obtain ⟨sent, hinit⟩ := init_mopAndVacuum
  have hsnapshot : IsSnapshot vacuumSnapshot := ⟨by decide, by decide⟩
  obtain ⟨hinitial, hagain, hperm⟩ := snapshot_idempotent hsnapshot
  refine ⟨hinitial _ _ _ _ rfl hinit, ?_⟩
  rintro d rfl
  exact ⟨by decide +kernel, hagain _, (hperm _ _ (List.reverse_perm _).symm).1⟩

end ValetudoMatter
