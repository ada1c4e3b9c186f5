import ValetudoMatter.Lemmas.Versions
import ValetudoMatter.Theorems.Capabilities

/-!
# Data versions

A controller that holds the version of a cluster skips its attributes. How far the versions move in a run is what it has notified,
and more where a change is not notified or counts twice (`versions_count`); so a version that is back where it was means that
nothing has changed, unless it has gone round (`versions_fresh`). The service area has the version of the state.
-/

namespace ValetudoMatter

open Coroutine

/-! ## How far the versions move -/

/-- A run moves a version by the sum of what its steps move it by. -/
theorem Bridge.Run.version {b b' : Bridge} {ts : List Step} (h : Bridge.Run b ts b') (version : Device → UInt32)
    (moves : Step → Nat)
    (hsteps : ∀ t ∈ ts, version t.after.device = version t.before.device + UInt32.ofNat (moves t)) :
    version b'.device = version b.device + UInt32.ofNat (ts.map moves).sum := by
  have hbalance := h.balance (fun b => version b.device) (fun t => UInt32.ofNat (moves t)) (fun _ => 0)
    fun t ht => by rw [hsteps t ht, add_zero]
  have hgain : (ts.map fun t => UInt32.ofNat (moves t)).sum = UInt32.ofNat (ts.map moves).sum := by
    clear hbalance hsteps h
    induction ts with
    | nil => rfl
    | cons t ts ih => rw [List.map_cons, List.sum_cons, ih, List.map_cons, List.sum_cons, UInt32.ofNat_add]
  have hloss : (ts.map fun _ => (0 : UInt32)).sum = 0 := by
    clear hbalance hsteps hgain h
    induction ts with
    | nil => rfl
    | cons t ts ih => rw [List.map_cons, List.sum_cons, ih, add_zero]
  rw [hgain, hloss, add_zero] at hbalance
  exact hbalance.symm

/-- The notifications of a run for a cluster, and the steps of a kind, add up over its steps. -/
theorem sum_moves (n : Notification) (p : Step → Bool) (ts : List Step) :
    (ts.map fun t => t.out.notified.count n + if p t then 1 else 0).sum =
      (ts.flatMap (·.out.notified)).count n + ts.countP p := by
  induction ts with
  | nil => rfl
  | cons t ts ih =>
    rw [List.map_cons, List.sum_cons, ih, List.flatMap_cons, List.count_append, List.countP_cons]
    omega

theorem sum_notified (n : Notification) (ts : List Step) :
    (ts.map fun t => t.out.notified.count n).sum = (ts.flatMap (·.out.notified)).count n := by
  have h := sum_moves n (fun _ => false) ts
  simpa using h

/-- How far a run from a reachable state moves the versions. -/
theorem Bridge.Run.versions {b b' : Bridge} {ts : List Step} (h : Bridge.Run b ts b') (hcounts : ∀ t ∈ ts, t.Counts) :
    let notified := ts.flatMap (·.out.notified)
    b'.device.currentState.dataver =
        b.device.currentState.dataver + UInt32.ofNat (notified.count ⟨1, .rvcRunMode⟩) ∧
      notified.count ⟨1, .rvcOperationalState⟩ = notified.count ⟨1, .rvcRunMode⟩ ∧
      b'.device.currentPreset.dataver = b.device.currentPreset.dataver +
        UInt32.ofNat (notified.count ⟨1, .rvcCleanMode⟩ + ts.countP (·.unannounced)) ∧
      b'.device.identifyTime.dataver = b.device.identifyTime.dataver +
        UInt32.ofNat (notified.count ⟨1, .identify⟩ + ts.countP (·.restarts)) := by
  intro notified
  refine ⟨?_, ?_, ?_, ?_⟩
  · rw [h.version (·.currentState.dataver) _ fun t ht => (hcounts t ht).currentState, sum_notified]
  · rw [← sum_notified, ← sum_notified]
    exact congrArg List.sum (List.map_congr_left fun t ht => (hcounts t ht).operational)
  · rw [h.version (·.currentPreset.dataver) _ fun t ht => (hcounts t ht).currentPreset, sum_moves]
  · rw [h.version (·.identifyTime.dataver) _ fun t ht => (hcounts t ht).identifyTime, sum_moves]

/-- What the versions count. In every run from the start, with everything that it notifies taken together: the versions of the run
mode and of the operational state move by exactly the number of notifications for their cluster; that of the clean mode by those
for it and one for each clean-mode command whose success changes the preset, which notifies nobody; that of identify by those
for it and one for each call that changes the time, as these count twice; and that of the service area by the notifications for
the run mode, however often the selection is notified. -/
theorem versions_count {d : Device} {ts : List Step} {b : Bridge} (h : Bridge.Run (.start d) ts b) :
    let notified := ts.flatMap (·.out.notified)
    RvcRunMode.dataver b.device = RvcRunMode.dataver d + UInt32.ofNat (notified.count ⟨1, .rvcRunMode⟩) ∧
      RvcOperationalState.dataver b.device =
        RvcOperationalState.dataver d + UInt32.ofNat (notified.count ⟨1, .rvcOperationalState⟩) ∧
      RvcCleanMode.dataver b.device = RvcCleanMode.dataver d +
        UInt32.ofNat (notified.count ⟨1, .rvcCleanMode⟩ + ts.countP (·.unannounced)) ∧
      Identify.dataver b.device = Identify.dataver d +
        UInt32.ofNat (notified.count ⟨1, .identify⟩ + ts.countP (·.restarts)) ∧
      ServiceArea.dataver b.device = ServiceArea.dataver d + UInt32.ofNat (notified.count ⟨1, .rvcRunMode⟩) := by
  obtain ⟨hstate, hop, hpreset, hident⟩ := h.versions h.counts
  refine ⟨hstate, ?_, hpreset, hident, hstate⟩
  rw [hop]
  exact hstate

/-- A selection of an area is notified, and leaves the version of the service area as it is. -/
def selectLabels : List Label := [.task (.call (.selectAreas (.ok [.ok 16])))]

theorem versions_count_selection : ∃ ts b, Bridge.Run (.start roomDevice) ts b ∧ b.device.selectedAreas = [16] ∧
    (ts.flatMap (·.out.notified)).count ⟨1, .serviceArea⟩ = 1 ∧
    ServiceArea.dataver b.device = ServiceArea.dataver roomDevice := by
  have hexec : (Lts.exec Bridge.step (.start roomDevice) selectLabels).any (fun r : List Step × Bridge =>
      decide (r.2.device.selectedAreas = [16] ∧ (r.1.flatMap (·.out.notified)).count ⟨1, .serviceArea⟩ = 1 ∧
        (r.1.flatMap (·.out.notified)).count ⟨1, .rvcRunMode⟩ = 0)) = true := by decide +kernel
  obtain ⟨ts, b, hrun, hp⟩ := Lts.exists_run_of_exec hexec
  obtain ⟨hselected, hnotified, hcount⟩ : b.device.selectedAreas = [16] ∧
      (ts.flatMap (·.out.notified)).count ⟨1, .serviceArea⟩ = 1 ∧
      (ts.flatMap (·.out.notified)).count ⟨1, .rvcRunMode⟩ = 0 := of_decide_eq_true hp
  refine ⟨ts, b, hrun, hselected, hnotified, ?_⟩
  rw [(versions_count hrun).2.2.2.2, hcount]
  simp

/-! ## Versions that are back -/

/-- A number that is less than the size of a version moves it unless it is zero. -/
theorem eq_zero_of_version {v : UInt32} {k : Nat} (hk : k < UInt32.size) (h : v + UInt32.ofNat k = v) : k = 0 := by
  rw [UInt32.add_eq_left, ← UInt32.toNat_inj, UInt32.toNat_ofNat', Nat.mod_eq_of_lt hk] at h
  exact h

/-- A step that does not notify the run mode leaves the status; one that neither notifies the clean mode nor takes up an
unannounced preset leaves the preset; one that does not notify identify leaves its time. -/
theorem Step.leaves {t : Step} (h : t.before.StepDoes t.label t.after t.out) :
    (⟨1, .rvcRunMode⟩ ∉ t.out.notified → t.after.device.currentState.inner = t.before.device.currentState.inner) ∧
      (⟨1, .rvcCleanMode⟩ ∉ t.out.notified → t.unannounced = false →
        t.after.device.currentPreset.inner = t.before.device.currentPreset.inner) ∧
      (⟨1, .identify⟩ ∉ t.out.notified → t.after.device.identifyTime.inner = t.before.device.identifyTime.inner) := by
  obtain ⟨b, l, o, b'⟩ := t
  cases l with
  | monitor ev =>
    rcases monitorStep_effect h.1 with ⟨hdevice, -⟩ | ⟨attrs, -, hdevice, hnotes⟩
    · exact ⟨fun _ => by rw [hdevice], fun _ _ => by rw [hdevice], fun _ => by rw [hdevice]⟩
    · have heff := apply_effect b.device attrs
      rw [← hdevice, ← hnotes] at heff
      exact ⟨fun hn => heff.notifiesState.resolve_right fun hmem => hn hmem.1,
        fun hn _ => heff.notifiesPreset.resolve_right hn, fun _ => by rw [heff.identifyTime]⟩
  | task e =>
    cases e with
    | answer i res =>
      obtain ⟨-, hdevice, -⟩ := h
      exact ⟨fun _ => by rw [hdevice], fun _ _ => by rw [hdevice], fun _ => by rw [hdevice]⟩
    | call c =>
      obtain ⟨-, stop, heff, -⟩ := h
      exact ⟨fun _ => by rw [heff.currentState], fun _ _ => by rw [heff.currentPreset]; rfl,
        fun hn => heff.identifyTime.resolve_right hn⟩
    | resume i =>
      obtain ⟨-, -, -, w, res, x, hw, hres, heff⟩ := h
      refine ⟨fun _ => by rw [heff.currentState], ?_, fun hn => heff.identifyTime.resolve_right hn⟩
      intro _ hunannounced
      rw [heff.currentPreset]
      cases res with
      | error e => rfl
      | ok _ =>
        cases hc : w.call.cleanPreset? with
        | none => simp [Command.presetAfter, hc]
        | some preset =>
          have hsame : preset = b.device.currentPreset.inner := by
            simpa [Step.unannounced, hw, hres, hc] using hunannounced
          simp [Command.presetAfter, hc, hsame]

/-- What every step of a run leaves, the run leaves. -/
theorem Bridge.Run.leaves {α : Type} {b b' : Bridge} {ts : List Step} (h : Bridge.Run b ts b') (read : Device → α)
    (hsteps : ∀ t ∈ ts, read t.after.device = read t.before.device) : read b'.device = read b.device := by
  refine (h.invariant_mem (I := fun s => read s.device = read b.device) rfl ?_).1
  intro t ht hbefore
  rw [hsteps t ht, hbefore]

/-- A version that is back stands for values that have not changed. From any reachable state, let a run follow that changes a
cell fewer than 2^32 times, as its notifications and the unannounced and double counts tell: if a controller finds the version
that it holds, then the attributes of that cluster read as before. -/
theorem versions_fresh {d : Device} {ts us : List Step} {b b' : Bridge} (h : Bridge.Run (.start d) ts b)
    (h' : Bridge.Run b us b') :
    let notified := us.flatMap (·.out.notified)
    (notified.count ⟨1, .rvcRunMode⟩ < UInt32.size → RvcRunMode.dataver b'.device = RvcRunMode.dataver b.device →
        RvcRunMode.currentMode b'.device = RvcRunMode.currentMode b.device) ∧
      (notified.count ⟨1, .rvcOperationalState⟩ < UInt32.size →
        RvcOperationalState.dataver b'.device = RvcOperationalState.dataver b.device →
        RvcOperationalState.operationalState b'.device = RvcOperationalState.operationalState b.device) ∧
      (notified.count ⟨1, .rvcCleanMode⟩ + us.countP (·.unannounced) < UInt32.size →
        RvcCleanMode.dataver b'.device = RvcCleanMode.dataver b.device →
        RvcCleanMode.currentMode b'.device = RvcCleanMode.currentMode b.device) ∧
      (notified.count ⟨1, .identify⟩ + us.countP (·.restarts) < UInt32.size →
        Identify.dataver b'.device = Identify.dataver b.device →
        Identify.identifyTime b'.device = Identify.identifyTime b.device) := by
  intro notified
  have hall : Bridge.Run (.start d) (ts ++ us) b' := Lts.Run.append h h'
  have hcounts : ∀ t ∈ us, t.Counts := fun t ht => hall.counts t (List.mem_append_right ts ht)
  have hdoes : ∀ t ∈ us, t.before.StepDoes t.label t.after t.out :=
    fun t ht => ((hall.good (Bridge.good_start d)).2 t (List.mem_append_right ts ht)).2.2
  obtain ⟨hstate, hop, hpreset, hident⟩ := h'.versions hcounts
  have hnone : ∀ n, notified.count n = 0 → ∀ t ∈ us, n ∉ t.out.notified :=
    fun n hn t ht hmem => List.count_eq_zero.mp hn (List.mem_flatMap.mpr ⟨t, ht, hmem⟩)
  have hstatus : notified.count ⟨1, .rvcRunMode⟩ < UInt32.size →
      b'.device.currentState.dataver = b.device.currentState.dataver →
      b'.device.currentState.inner = b.device.currentState.inner := by
    intro hsize hver
    have hzero := eq_zero_of_version hsize (hstate.symm.trans hver)
    exact h'.leaves (·.currentState.inner) fun t ht => (Step.leaves (hdoes t ht)).1 (hnone _ hzero t ht)
  refine ⟨?_, ?_, ?_, ?_⟩
  · intro hsize hver
    exact congrArg (fun s => (RunMode.ofDeviceState s).toU8) (hstatus hsize hver)
  · intro hsize hver
    rw [show notified.count ⟨1, .rvcOperationalState⟩ = notified.count ⟨1, .rvcRunMode⟩ from hop] at hsize
    exact congrArg (fun s => (OperationalState.ofDeviceState s).toU8) (hstatus hsize hver)
  · intro hsize hver
    obtain ⟨hzero, hunannounced⟩ := Nat.add_eq_zero_iff.mp (eq_zero_of_version hsize (hpreset.symm.trans hver))
    have hleaves := h'.leaves (·.currentPreset.inner) fun t ht => (Step.leaves (hdoes t ht)).2.1 (hnone _ hzero t ht)
      (by simpa using List.countP_eq_zero.mp hunannounced t ht)
    exact congrArg (fun p => (CleanMode.ofPreset p).toU8) hleaves
  · intro hsize hver
    obtain ⟨hzero, -⟩ := Nat.add_eq_zero_iff.mp (eq_zero_of_version hsize (hident.symm.trans hver))
    exact h'.leaves (·.identifyTime.inner) fun t ht => (Step.leaves (hdoes t ht)).2.2 (hnone _ hzero t ht)

/-- A selection, a poll that finds nothing new and a pause leave the version of the clean mode, and so the mode. -/
def steadyLabels : List Label :=
  [.monitor (.polled (.ok [.presetSelectionStateAttribute "operation_mode" "mop"])), .task (.call .pause)]

theorem versions_fresh_steady : ∃ ts us b b', Bridge.Run (.start roomDevice) ts b ∧ Bridge.Run b us b' ∧ us ≠ [] ∧
    RvcCleanMode.currentMode b'.device = RvcCleanMode.currentMode b.device := by
  have hexec : (Lts.exec Bridge.step (.start roomDevice) (selectLabels ++ .monitor .begin :: steadyLabels)).any
      (fun r : List Step × Bridge => decide ((∀ t ∈ r.1, RvcCleanMode.dataver t.before.device = 0 ∧
        ⟨1, .rvcCleanMode⟩ ∉ t.out.notified ∧ t.unannounced = false) ∧ RvcCleanMode.dataver r.2.device = 0)) = true := by
    decide +kernel
  obtain ⟨ts, t, us, b', hrun, -, -, hp⟩ := Lts.exists_run_cut_of_exec hexec
  obtain ⟨hall, hlast⟩ : (∀ x ∈ ts ++ t :: us, RvcCleanMode.dataver x.before.device = 0 ∧
      ⟨1, .rvcCleanMode⟩ ∉ x.out.notified ∧ Step.unannounced x = false) ∧ RvcCleanMode.dataver b'.device = 0 :=
    of_decide_eq_true hp
  obtain ⟨b, hts, hus⟩ := hrun.cut
  obtain rfl : t.before = b := by cases hus; rfl
  have hcount : ((t :: us).flatMap (·.out.notified)).count ⟨1, .rvcCleanMode⟩ = 0 := by
    rw [List.count_eq_zero]
    intro hmem
    obtain ⟨x, hx, hmem⟩ := List.mem_flatMap.mp hmem
    exact (hall x (List.mem_append_right ts hx)).2.1 hmem
  have hunannounced : (t :: us).countP Step.unannounced = 0 := by
    rw [List.countP_eq_zero]
    intro x hx
    simp [(hall x (List.mem_append_right ts hx)).2.2]
  have hbefore := (hall t (by simp)).1
  refine ⟨ts, t :: us, t.before, b', hts, hus, List.cons_ne_nil t us, ?_⟩
  exact (versions_fresh hts hus).2.2.1 (by rw [hcount, hunannounced]; decide) (hlast.trans hbefore.symm)

end ValetudoMatter
