import ValetudoMatter.Lemmas.Init

/-!
# Changes and their notifications

Every step that changes an attribute notifies its cluster in the same step, but for one: a clean-mode command that the robot
has acknowledged writes the cached preset and notifies nobody (`notifies_iff`).
-/

namespace ValetudoMatter

open Coroutine

/-- If a step changes what reading an attribute gives, it notifies the attribute's cluster on endpoint 1. -/
structure Notifies (t : Step) : Prop where
  runMode : RvcRunMode.currentMode t.after.device ≠ RvcRunMode.currentMode t.before.device →
    ⟨1, .rvcRunMode⟩ ∈ t.out.notified
  operationalState :
    RvcOperationalState.operationalState t.after.device ≠ RvcOperationalState.operationalState t.before.device →
    ⟨1, .rvcOperationalState⟩ ∈ t.out.notified
  cleanMode : RvcCleanMode.currentMode t.after.device ≠ RvcCleanMode.currentMode t.before.device →
    ⟨1, .rvcCleanMode⟩ ∈ t.out.notified
  selectedAreas : ∀ r, ServiceArea.selectedAreas t.after.device r ≠ ServiceArea.selectedAreas t.before.device r →
    ⟨1, .serviceArea⟩ ∈ t.out.notified
  identifyTime : Identify.identifyTime t.after.device ≠ Identify.identifyTime t.before.device →
    ⟨1, .identify⟩ ∈ t.out.notified

/-- A step that resumes a clean-mode command which the robot has acknowledged, while another preset is cached. -/
def ResumesCleanMode (t : Step) : Prop :=
  ∃ i task preset, t.label = .task (.resume i) ∧ t.before.tasks.tasks[i]? = some task ∧ task.answer = some (.ok ()) ∧
    task.call.cleanPreset? = some preset ∧ preset ≠ t.before.device.currentPreset.inner

/-- The modes of different presets are different bytes. -/
theorem currentMode_clean_inj {d d' : Device} :
    RvcCleanMode.currentMode d = RvcCleanMode.currentMode d' ↔ d.currentPreset.inner = d'.currentPreset.inner := by
  have key : ∀ p q : Preset, (CleanMode.ofPreset p).toU8 = (CleanMode.ofPreset q).toU8 → p = q := by
    intro p q h
    cases p <;> cases q <;> first | rfl | exact absurd h (by decide)
  constructor
  · exact key _ _
  · intro h
    simp only [RvcCleanMode.currentMode, VersionedCell.get, h]

/-- The cells and the selection decide what is read: a step that changes none of them, or notifies those it changes. -/
theorem Notifies.of_cells {t : Step}
    (hstate : t.after.device.currentState.inner = t.before.device.currentState.inner ∨
      (⟨1, .rvcRunMode⟩ ∈ t.out.notified ∧ ⟨1, .rvcOperationalState⟩ ∈ t.out.notified))
    (hpreset : t.after.device.currentPreset.inner = t.before.device.currentPreset.inner ∨
      ⟨1, .rvcCleanMode⟩ ∈ t.out.notified)
    (hselected : t.after.device.selectedAreas = t.before.device.selectedAreas ∨ ⟨1, .serviceArea⟩ ∈ t.out.notified)
    (htime : t.after.device.identifyTime.inner = t.before.device.identifyTime.inner ∨
      ⟨1, .identify⟩ ∈ t.out.notified) : Notifies t where
  runMode h := by
    rcases hstate with hstate | hstate
    · exact absurd (by simp only [RvcRunMode.currentMode, VersionedCell.get, hstate]) h
    · exact hstate.1
  operationalState h := by
    rcases hstate with hstate | hstate
    · exact absurd (by simp only [RvcOperationalState.operationalState, VersionedCell.get, hstate]) h
    · exact hstate.2
  cleanMode h := by
    rcases hpreset with hpreset | hpreset
    · exact absurd (currentMode_clean_inj.mpr hpreset) h
    · exact hpreset
  selectedAreas r h := by
    rcases hselected with hselected | hselected
    · exact absurd (by cases r <;> simp only [ServiceArea.selectedAreas, hselected]) h
    · exact hselected
  identifyTime h := by
    rcases htime with htime | htime
    · exact absurd htime h
    · exact htime

/-- An effect that leaves the preset as it is has all its changes notified. -/
theorem Effect.notifies {t : Step} {c : Command} {cause : Cause HttpRequest (Except AnyhowError Unit)}
    {stop : Stop HttpRequest MatterError Reply}
    (h : Effect c cause t.before.device t.after.device t.out.notified stop)
    (hpreset : t.after.device.currentPreset.inner = t.before.device.currentPreset.inner) : Notifies t :=
  .of_cells (.inl (by rw [h.currentState])) (.inl hpreset) (h.selectedAreas.imp id And.right) h.identifyTime

/-- A resumed command notifies all it changes exactly when it does not write another preset. -/
theorem notifies_resume_iff {t : Step} {i : Nat} {task : CommandTask} {res : Except AnyhowError Unit}
    {x : Exit MatterError Reply} (hlabel : t.label = .task (.resume i)) (htask : t.before.tasks.tasks[i]? = some task)
    (hres : task.answer = some res)
    (h : Effect task.call (.answer task.request res) t.before.device t.after.device t.out.notified (.exit x)) :
    Notifies t ↔ ¬ ResumesCleanMode t := by
  constructor
  · rintro hnotifies ⟨j, task', preset, hlabel', htask', hres', hpreset, hne⟩
    rw [hlabel] at hlabel'
    cases hlabel'
    rw [htask] at htask'
    cases htask'
    rw [hres] at hres'
    cases hres'
    have hafter : t.after.device.currentPreset.inner = preset := by
      simp [h.currentPreset, Command.presetAfter, hpreset]
    exact h.cleanMode (hnotifies.cleanMode fun hsame => hne (by rw [← hafter, currentMode_clean_inj.mp hsame]))
  · intro hnot
    apply h.notifies
    rw [h.currentPreset]
    cases hpreset : task.call.cleanPreset? with
    | none => simp [Command.presetAfter, hpreset]
    | some preset =>
      cases res with
      | error e => simp [Command.presetAfter]
      | ok u =>
        have hsame : preset = t.before.device.currentPreset.inner := by
          by_contra hne
          exact hnot ⟨i, task, preset, hlabel, htask, hres, hpreset, hne⟩
        simp [Command.presetAfter, hpreset, hsame]

/-- No attribute change goes unnotified but that of a clean-mode command. In every run of the program, of commands that
succeed or fail and attribute batches in any order, a step notifies the clusters of all the attributes it changes exactly when
it does not resume a clean-mode command that the robot has acknowledged while another preset is cached. -/
theorem notifies_iff {d : Device} {ts : List Step} {b : Bridge} (hrun : Bridge.Run (.start d) ts b) :
    ∀ t ∈ ts, (Notifies t ↔ ¬ ResumesCleanMode t) := by
  intro t ht
  obtain ⟨-, -, hdoes⟩ := (hrun.good (Bridge.good_start d)).2 t ht
  have hother : (∀ i, t.label ≠ .task (.resume i)) → ¬ ResumesCleanMode t := by
    rintro hlabel ⟨i, task, preset, hlabel', -⟩
    exact hlabel i hlabel'
  have hunchanged : t.after.device = t.before.device → Notifies t := fun hd =>
    .of_cells (.inl (by rw [hd])) (.inl (by rw [hd])) (.inl (by rw [hd])) (.inl (by rw [hd]))
  cases hlabel : t.label with
  | monitor ev =>
    rw [hlabel] at hdoes
    refine iff_of_true ?_ (hother (by simp [hlabel]))
    rcases monitorStep_effect hdoes.1 with ⟨hd, -⟩ | ⟨attrs, -, hd, hns⟩
    · exact hunchanged hd
    · have heff := apply_effect t.before.device attrs
      rw [← hd, ← hns] at heff
      exact .of_cells heff.notifiesState heff.notifiesPreset (.inl heff.selectedAreas) (.inl (by rw [heff.identifyTime]))
  | task e =>
    rw [hlabel] at hdoes
    cases e with
    | call c =>
      obtain ⟨-, stop, heff, -⟩ := hdoes
      exact iff_of_true (heff.notifies (by rw [heff.currentPreset]; rfl)) (hother (by simp [hlabel]))
    | answer i res =>
      obtain ⟨-, hd, -⟩ := hdoes
      exact iff_of_true (hunchanged hd) (hother (by simp [hlabel]))
    | resume i =>
      obtain ⟨-, -, -, task, res, x, htask, hres, heff⟩ := hdoes
      exact notifies_resume_iff hlabel htask hres heff

/-! ## A change that nobody is told of -/

/-- The command for the mop, its acknowledgement, and the event that the robot then sends. -/
def mopLabels : List Label :=
  [.monitor .begin, .monitor (.polled (.ok [.statusStateAttribute .docked .none])), .monitor (.subscribed (.ok ())),
    .task (.call (.changeCleanMode (.ok 1))), .task (.answer 0 (.ok ())), .task (.resume 0),
    .monitor (.event [.presetSelectionStateAttribute "operation_mode" "mop"])]

/-- The current mode goes from `Vacuum` to `Mop`, and no step of the run notifies anybody: the event that follows finds the
cached preset already written. -/
theorem clean_mode_unnotified :
    (∃ sent, Device.init mopAndVacuumAnswers ⟨0, 0, 0⟩ () = .exit () sent (.done mopAndVacuumDevice)) ∧
      ∃ ts b, Bridge.Run (.start mopAndVacuumDevice) ts b ∧ (∀ t ∈ ts, t.out.notified = []) ∧
        RvcCleanMode.currentMode mopAndVacuumDevice = 0 ∧ RvcCleanMode.currentMode b.device = 1 ∧ ∃ t ∈ ts, ¬ Notifies t := by
  refine ⟨init_mopAndVacuum, ?_⟩
  have hexec : (Lts.exec Bridge.step (.start mopAndVacuumDevice) mopLabels).any (fun r =>
      r.1.all (fun t => t.out.notified.isEmpty) && (RvcCleanMode.currentMode r.2.device == 1) && r.1.any (fun t =>
        RvcCleanMode.currentMode t.after.device != RvcCleanMode.currentMode t.before.device)) = true := by decide +kernel
  obtain ⟨ts, b, hrun, hp⟩ := Lts.exists_run_of_exec hexec
  simp only [Bool.and_eq_true, List.all_eq_true, List.any_eq_true, List.isEmpty_iff, beq_iff_eq, bne_iff_ne] at hp
  obtain ⟨⟨hnone, hmode⟩, t, ht, hne⟩ := hp
  refine ⟨ts, b, hrun, hnone, by decide, hmode, t, ht, ?_⟩
  intro h
  have hmem := h.cleanMode hne
  rw [hnone t ht] at hmem
  simp at hmem

/-- A preset that the stream brings is notified. -/
theorem notifies_event : ∃ ts b, Bridge.Run (.start mopAndVacuumDevice) ts b ∧ ∃ t ∈ ts,
    RvcCleanMode.currentMode t.after.device ≠ RvcCleanMode.currentMode t.before.device ∧
      (Notifies t ↔ ¬ ResumesCleanMode t) := by
  have hexec : (Lts.exec Bridge.step (.start mopAndVacuumDevice) [.monitor .begin,
      .monitor (.polled (.ok [.presetSelectionStateAttribute "operation_mode" "mop"]))]).any (fun r => r.1.any (fun t =>
        RvcCleanMode.currentMode t.after.device != RvcCleanMode.currentMode t.before.device)) = true := by decide +kernel
  obtain ⟨ts, b, hrun, hp⟩ := Lts.exists_run_of_exec hexec
  simp only [List.any_eq_true, bne_iff_ne] at hp
  obtain ⟨t, ht, hne⟩ := hp
  exact ⟨ts, b, hrun, t, ht, hne, notifies_iff hrun t ht⟩

end ValetudoMatter
