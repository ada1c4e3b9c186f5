import Mathlib.Data.UInt
import ValetudoMatter.Lib.Balance
import ValetudoMatter.Lemmas.Writes
import ValetudoMatter.Theorems.Snapshots

/-!
# What a step does to the versions

Each step moves the version of a cell as often as it writes another value to it. `Step.Counts` says by how much, in terms
of what the step notifies and, where a change is not notified or counts twice, of what it calls or takes up.
-/

namespace ValetudoMatter

open Coroutine

/-! ## A batch -/

namespace VersionedCell

variable {α : Type} [DecidableEq α]

/-- Writing values moves the version by the number of changes, each of which is notified. -/
theorem setAll_changes (note : List Notification) (cell : VersionedCell α) (vs : List α) :
    ∃ k, (cell.setAll note vs).1.dataver = cell.dataver + UInt32.ofNat k ∧
      (cell.setAll note vs).2 = (List.replicate k note).flatten := by
  induction vs generalizing cell with
  | nil => exact ⟨0, by simp [setAll], rfl⟩
  | cons v vs ih =>
    obtain ⟨k, hver, hnotes⟩ := ih (cell.set v)
    refine ⟨(if v ≠ cell.inner then 1 else 0) + k, ?_, ?_⟩
    · rw [setAll, hver, set_dataver, UInt32.ofNat_add, UInt32.add_assoc]
    · rw [setAll, hnotes]
      split
      · rw [List.replicate_add, List.flatten_append, List.replicate_one, List.flatten_singleton]
      · rw [Nat.zero_add, List.nil_append]

end VersionedCell

/-- A batch moves the versions of the two cells by the numbers of notifications that it issues for their clusters. -/
theorem apply_versions (d : Device) (attrs : List StateAttribute) :
    (d.apply attrs).1.currentState.dataver =
        d.currentState.dataver + UInt32.ofNat ((d.apply attrs).2.count ⟨1, .rvcRunMode⟩) ∧
      (d.apply attrs).1.currentPreset.dataver =
        d.currentPreset.dataver + UInt32.ofNat ((d.apply attrs).2.count ⟨1, .rvcCleanMode⟩) ∧
      (d.apply attrs).2.count ⟨1, .rvcOperationalState⟩ = (d.apply attrs).2.count ⟨1, .rvcRunMode⟩ ∧
      (d.apply attrs).2.count ⟨1, .identify⟩ = 0 := by
  obtain ⟨hdevice, hnotes⟩ := apply_values d attrs
  obtain ⟨k, hstate, hstateNotes⟩ := d.currentState.setAll_changes [⟨1, .rvcRunMode⟩, ⟨1, .rvcOperationalState⟩] (statuses attrs)
  obtain ⟨m, hpreset, hpresetNotes⟩ := d.currentPreset.setAll_changes [⟨1, .rvcCleanMode⟩] (presets attrs)
  have hcount : ∀ n, (d.apply attrs).2.count n =
      k * List.count n [⟨1, .rvcRunMode⟩, ⟨1, .rvcOperationalState⟩] + m * List.count n [⟨1, .rvcCleanMode⟩] := by
    intro n
    rw [hnotes.count_eq, statusWritten, presetWritten, hstateNotes, hpresetNotes, List.count_append, List.count_flatten,
      List.count_flatten, List.map_replicate, List.map_replicate, List.sum_replicate, List.sum_replicate]
    simp
  rw [hcount, hcount, hcount, hcount, hdevice]
  refine ⟨?_, ?_, ?_, ?_⟩
  · simpa using hstate
  · simpa using hpreset
  · simp
  · simp

/-! ## A command -/

/-- A call writes another identify time than there is. -/
def Command.Restarts (c : Command) (cause : Cause HttpRequest (Except AnyhowError Unit)) (d : Device) : Bool :=
  match cause, c.identifies? with
  | .call, some dur => dur ≠ d.identifyTime.inner
  | .call, none => false
  | .answer _ _, _ => false

/-- How one segment of a command moves the version of the identify time, and which clusters it notifies. -/
structure Counted (c : Command) (cause : Cause HttpRequest (Except AnyhowError Unit)) (d d' : Device)
    (ns : List Notification) (stop : Stop HttpRequest MatterError Reply) : Prop where
  identifyTime : d'.identifyTime.dataver =
    d.identifyTime.dataver + UInt32.ofNat (ns.count ⟨1, .identify⟩) + UInt32.ofNat (if c.Restarts cause d then 1 else 0)
  clusters : ∀ n ∈ ns, n = ⟨1, .identify⟩ ∨ n = ⟨1, .serviceArea⟩

/-- A segment that leaves the device as it is, of a command that is no identification. -/
theorem Counted.quiet {c : Command} {cause : Cause HttpRequest (Except AnyhowError Unit)} {d d' : Device}
    {stop : Stop HttpRequest MatterError Reply} (hc : c.identifies? = none) (hd : d'.identifyTime = d.identifyTime) :
    Counted c cause d d' [] stop where
  identifyTime := by
    have hfalse : c.Restarts cause d = false := by cases cause <;> simp [Command.Restarts, hc]
    rw [hd, hfalse]
    simp
  clusters := by simp

theorem sendAndReport_counted {c : Command} (hc : c.identifies? = none) (d : Device) (r : HttpRequest) (reply : Reply) :
    (sendAndReport d r reply).Keeps (Counted c) .call d :=
  ⟨.quiet hc rfl, fun _ _ => .quiet hc rfl⟩

/-- A write that counts a change once notifies it once. -/
theorem setNotify_counted (cell : VersionedCell UInt16) (v : UInt16) :
    (cell.setNotify v (ctx .identify)).1.dataver =
        cell.dataver + UInt32.ofNat ((cell.setNotify v (ctx .identify)).2.count ⟨1, .identify⟩) ∧
      ∀ n ∈ (cell.setNotify v (ctx .identify)).2, n = ⟨1, .identify⟩ := by
  rw [VersionedCell.setNotify_dataver, VersionedCell.setNotify_notified]
  split <;> simp [ctx, OperationContext.notifyOwnClusterChanged]

/-- A write that counts a change twice notifies it once. -/
theorem replaceNotify_counted (cell : VersionedCell UInt16) (v : UInt16) :
    (cell.replaceNotify v (ctx .identify)).2.1.dataver =
        cell.dataver + UInt32.ofNat ((cell.replaceNotify v (ctx .identify)).2.2.count ⟨1, .identify⟩) +
          UInt32.ofNat (if v ≠ cell.inner then 1 else 0) ∧
      ∀ n ∈ (cell.replaceNotify v (ctx .identify)).2.2, n = ⟨1, .identify⟩ := by
  rw [VersionedCell.replaceNotify_dataver, VersionedCell.replaceNotify_notified]
  by_cases h : v = cell.inner
  · simp [h]
  · simp [h, Ne.symm h, ctx, OperationContext.notifyOwnClusterChanged]

/-- The end of an identification. -/
theorem identifyFinish_counted {c : Command} (r : HttpRequest) (res : Except AnyhowError Unit) (d : Device) :
    ((identifyFinish res d).bind fun _ => (pure .unit : Handler Reply)).Keeps (Counted c) (.answer r res) d := by
  obtain ⟨hver, hnotes⟩ := setNotify_counted d.identifyTime 0
  have hcounted : ∀ stop, Counted c (.answer r res) d
      { d with identifyTime := (d.identifyTime.setNotify 0 (ctx .identify)).1 }
      (d.identifyTime.setNotify 0 (ctx .identify)).2 stop :=
    fun stop => ⟨by rw [hver]; simp [Command.Restarts], fun n hn => .inl (hnotes n hn)⟩
  cases res with
  | error e => exact hcounted _
  | ok _ =>
    simp only [identifyFinish, Outcome.bind_done, Co.pure_apply, Outcome.emit_exit, List.append_nil]
    exact hcounted _

/-- An identification, by a command or by a write. -/
theorem identify_counted {c : Command} {dur : UInt16} (hc : c.identifies? = some dur) (d : Device) :
    ((do Device.identifyRobot (ctx .identify) dur; return .unit : Handler Reply) d).Keeps (Counted c) .call d := by
  rw [Co.bind_apply, identifyRobot_eq]
  obtain ⟨hver, hnotes⟩ := replaceNotify_counted d.identifyTime dur
  have hrestarts : (if c.Restarts .call d then 1 else 0) = if dur ≠ d.identifyTime.inner then 1 else 0 := by
    simp [Command.Restarts, hc]
  have hwritten : ∀ stop, Counted c .call d
      { d with identifyTime := (d.identifyTime.replaceNotify dur (ctx .identify)).2.1 }
      (d.identifyTime.replaceNotify dur (ctx .identify)).2.2 stop :=
    fun stop => ⟨by rw [hver, hrestarts], fun n hn => .inl (hnotes n hn)⟩
  by_cases hactive : dur = 0 ∨ d.identifyTime.inner ≠ 0
  · simp only [hactive, if_true, Outcome.bind_done, Co.pure_apply, Outcome.emit_exit, List.append_nil]
    exact hwritten _
  · by_cases hspeaker : Capability.speakerTestCapability ∈ d.capabilities
    · simp only [hactive, hspeaker, if_true, if_false]
      exact ⟨hwritten _, fun res d' => identifyFinish_counted _ res d'⟩
    · simp only [hactive, hspeaker, if_false, identifyFinish, Outcome.emit_exit, Outcome.bind_done, Co.pure_apply,
        List.append_nil]
      -- the time is written and reset in one segment
      obtain ⟨hreset, hresetNotes⟩ := setNotify_counted (d.identifyTime.replaceNotify dur (ctx .identify)).2.1 0
      refine ⟨?_, ?_⟩
      · rw [hreset, hver, hrestarts, List.count_append, UInt32.ofNat_add]
        ac_rfl
      · intro n hn
        rcases List.mem_append.mp hn with hn | hn
        · exact .inl (hnotes n hn)
        · exact .inl (hresetNotes n hn)

/-- Every command counts. -/
theorem dmHandler_counted (c : Command) (d : Device) : (dmHandler c d).Keeps (Counted c) .call d := by
  cases c with
  | identify time =>
    cases time with
    | error e => exact .quiet rfl rfl
    | ok dur =>
      have hident : dmHandler (.identify (.ok dur)) = do Device.identifyRobot (ctx .identify) dur; return .unit := by
        funext d
        simp [dmHandler, Identify.handleIdentify]
      rw [hident]
      exact identify_counted rfl d
  | setIdentifyTime dur => exact identify_counted rfl d
  | triggerEffect => exact .quiet rfl rfl
  | changeRunMode mode =>
    cases mode with
    | error e => exact .quiet rfl rfl
    | ok b =>
      rw [changeRunMode_eq]
      split
      · exact .quiet rfl rfl
      · split
        · exact .quiet rfl rfl
        · split
          · exact sendAndReport_counted rfl d _ _
          · exact sendAndReport_counted rfl d _ _
          · exact .quiet rfl rfl
  | changeCleanMode mode =>
    cases mode with
    | error e => exact .quiet rfl rfl
    | ok b =>
      rw [changeCleanMode_eq]
      split
      · exact .quiet rfl rfl
      · split
        · refine ⟨.quiet rfl rfl, ?_⟩
          intro res d'
          cases res with
          | error e => exact .quiet rfl rfl
          | ok _ => exact .quiet rfl rfl
        · exact .quiet rfl rfl
  | pause => rw [pause_eq]; exact sendAndReport_counted rfl d _ _
  | resume => rw [resume_eq]; exact sendAndReport_counted rfl d _ _
  | goHome => rw [goHome_eq]; exact sendAndReport_counted rfl d _ _
  | selectAreas newAreas =>
    cases newAreas with
    | error e => exact .quiet rfl rfl
    | ok areas =>
      rw [selectAreas_eq]
      split
      · exact .quiet rfl rfl
      · exact .quiet rfl rfl
      · exact ⟨by simp [Command.Restarts, Command.identifies?], by simp⟩
  | skipArea => exact .quiet rfl rfl

/-! ## A step -/

/-- A step calls an identification with another duration than there is. -/
def Step.restarts (t : Step) : Bool :=
  match t.label with
  | .task (.call c) => c.Restarts .call t.before.device
  | .task (.answer _ _) | .task (.resume _) | .monitor _ => false

/-- A step takes up the success of a clean-mode command whose preset is another than there is. -/
def Step.unannounced (t : Step) : Bool :=
  match t.label with
  | .task (.resume i) =>
    t.before.tasks.tasks[i]?.any fun w =>
      w.answer = some (.ok ()) ∧ ∃ preset ∈ w.call.cleanPreset?, preset ≠ t.before.device.currentPreset.inner
  | .task (.call _) | .task (.answer _ _) | .monitor _ => false

/-- How a step moves the versions of the three cells. -/
structure Step.Counts (t : Step) : Prop where
  currentState : t.after.device.currentState.dataver =
    t.before.device.currentState.dataver + UInt32.ofNat (t.out.notified.count ⟨1, .rvcRunMode⟩)
  operational : t.out.notified.count ⟨1, .rvcOperationalState⟩ = t.out.notified.count ⟨1, .rvcRunMode⟩
  currentPreset : t.after.device.currentPreset.dataver = t.before.device.currentPreset.dataver +
    UInt32.ofNat (t.out.notified.count ⟨1, .rvcCleanMode⟩ + if t.unannounced then 1 else 0)
  identifyTime : t.after.device.identifyTime.dataver = t.before.device.identifyTime.dataver +
    UInt32.ofNat (t.out.notified.count ⟨1, .identify⟩ + if t.restarts then 1 else 0)

/-- A segment of a command notifies none of the clusters that the monitor does. -/
theorem Counted.count_eq_zero {c : Command} {cause : Cause HttpRequest (Except AnyhowError Unit)} {d d' : Device}
    {ns : List Notification} {stop : Stop HttpRequest MatterError Reply} (h : Counted c cause d d' ns stop)
    (cluster : Cluster) (hne : cluster ≠ .identify) (hne' : cluster ≠ .serviceArea) : ns.count ⟨1, cluster⟩ = 0 := by
  rw [List.count_eq_zero]
  intro hmem
  rcases h.clusters _ hmem with hn | hn
  · exact hne (congrArg Notification.cluster hn)
  · exact hne' (congrArg Notification.cluster hn)

/-- A batch of the monitor counts. -/
theorem Step.counts_apply {t : Step} {attrs : List StateAttribute}
    (hdevice : t.after.device = (t.before.device.apply attrs).1) (hnotes : t.out.notified = (t.before.device.apply attrs).2)
    (hunannounced : t.unannounced = false) (hrestarts : t.restarts = false) : t.Counts := by
  obtain ⟨hstate, hpreset, hop, hident⟩ := apply_versions t.before.device attrs
  refine ⟨?_, ?_, ?_, ?_⟩
  · rw [hdevice, hnotes, hstate]
  · rw [hnotes, hop]
  · rw [hdevice, hnotes, hpreset, hunannounced]
    rfl
  · rw [hdevice, hnotes, hident, hrestarts, (apply_effect _ _).identifyTime]
    simp

/-- The version of the preset after a segment of a command. -/
theorem Command.presetAfter_dataver (c : Command) (cause : Cause HttpRequest (Except AnyhowError Unit))
    (cell : VersionedCell Preset) :
    (c.presetAfter cause cell).dataver = cell.dataver +
      UInt32.ofNat (match cause with
        | .call => 0
        | .answer _ res => if res = .ok () ∧ ∃ preset ∈ c.cleanPreset?, preset ≠ cell.inner then 1 else 0) := by
  cases cause with
  | call => simp [presetAfter]
  | answer r res =>
    cases res with
    | error e => simp [presetAfter]
    | ok _ => cases hc : c.cleanPreset? <;> simp [presetAfter, hc, VersionedCell.set_dataver]

/-- A segment of a command counts. -/
theorem Step.counts_segment {t : Step} {c : Command} {cause : Cause HttpRequest (Except AnyhowError Unit)}
    {stop stop' : Stop HttpRequest MatterError Reply}
    (heff : Effect c cause t.before.device t.after.device t.out.notified stop)
    (hcounted : Counted c cause t.before.device t.after.device t.out.notified stop')
    (hunannounced : (t.after.device.currentPreset).dataver =
      t.before.device.currentPreset.dataver + UInt32.ofNat (if t.unannounced then 1 else 0))
    (hrestarts : t.restarts = c.Restarts cause t.before.device) : t.Counts where
  currentState := by
    rw [heff.currentState, hcounted.count_eq_zero .rvcRunMode nofun nofun]
    simp
  operational := by
    rw [hcounted.count_eq_zero .rvcOperationalState nofun nofun, hcounted.count_eq_zero .rvcRunMode nofun nofun]
  currentPreset := by
    rw [hunannounced, hcounted.count_eq_zero .rvcCleanMode nofun nofun, Nat.zero_add]
  identifyTime := by rw [hcounted.identifyTime, hrestarts, UInt32.ofNat_add, UInt32.add_assoc]

/-- Every step of a run from the start counts. -/
theorem Bridge.Run.counts {d : Device} {ts : List Step} {b : Bridge} (h : Bridge.Run (.start d) ts b) :
    ∀ t ∈ ts, t.Counts := by
  intro t ht
  have hsegment := h.segments dmHandler_counted t ht
  have hdoes := ((h.good (Bridge.good_start d)).2 t ht).2.2
  obtain ⟨b, l, o, b'⟩ := t
  cases l with
  | monitor ev =>
    rcases monitorStep_effect hsegment with ⟨hdevice, hnotes⟩ | ⟨attrs, -, hdevice, hnotes⟩
    · exact @Step.counts_apply _ [] hdevice hnotes rfl rfl
    · exact Step.counts_apply hdevice hnotes rfl rfl
  | task e =>
    cases e with
    | answer i res =>
      obtain ⟨hdevice, rfl⟩ := hsegment
      exact @Step.counts_apply _ [] hdevice rfl rfl rfl
    | call c =>
      obtain ⟨ns, stop, rfl, hcounted⟩ := hsegment
      obtain ⟨-, stop', heff, -⟩ := hdoes
      rw [← ofSegment_notified c ns stop] at hcounted
      refine Step.counts_segment heff hcounted ?_ rfl
      rw [heff.currentPreset, Command.presetAfter_dataver]
      rfl
    | resume i =>
      obtain ⟨w, res, ns, stop, hw, hres, rfl, hcounted⟩ := hsegment
      obtain ⟨-, -, -, w', res', x, hw', hres', heff⟩ := hdoes
      obtain rfl : w = w' := Option.some.inj (hw.symm.trans hw')
      obtain rfl : res = res' := Option.some.inj (hres.symm.trans hres')
      rw [← ofSegment_notified w.call ns stop] at hcounted
      refine Step.counts_segment heff hcounted ?_ rfl
      rw [heff.currentPreset, Command.presetAfter_dataver]
      simp [Step.unannounced, hw, hres]

end ValetudoMatter
