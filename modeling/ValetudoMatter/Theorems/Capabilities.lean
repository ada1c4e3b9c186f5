import ValetudoMatter.Lemmas.Init

/-!
# Only advertised capabilities are used

Most commands do not look at the capabilities. That they use only those of the robot rests on what `init` leaves empty without
a capability, the presets and the segments, and on the selection being one of the segments (`Device.Capable`), which every
step keeps.
-/

namespace ValetudoMatter

open Coroutine

/-- What a device has of a capability it has only with the capability. -/
structure Device.Capable (d : Device) : Prop where
  basicControl : .basicControlCapability ∈ d.capabilities
  cleaningPresets : ∀ p ∈ d.cleaningPresets, .operationModeControlCapability ∈ d.capabilities
  segments : ∀ s ∈ d.segments, .mapSegmentationCapability ∈ d.capabilities
  selectedAreas : ∀ a ∈ d.selectedAreas, a ∈ ServiceArea.validIds d

/-- `init` gives such a device. -/
theorem Initialised.capable {answers : Answers} {d : Device} (h : Initialised answers d) : d.Capable where
  basicControl := h.basicControl
  cleaningPresets := by
    intro p hp
    by_contra hcap
    have hpresets := h.cleaningPresets
    rw [if_neg hcap] at hpresets
    simp [hpresets] at hp
  segments := by
    intro s hs
    by_contra hcap
    have hsegments := h.segments
    rw [if_neg hcap] at hsegments
    simp [hsegments] at hs
  selectedAreas := by simp [h.selectedAreas]

/-- The selection is all that a step changes of it, and a selection is of valid areas. -/
theorem Device.Capable.step {d d' : Device} (h : d.Capable) (hsame : SameRobot d d')
    (hselected : d'.selectedAreas = d.selectedAreas ∨ ∀ a ∈ d'.selectedAreas, a ∈ ServiceArea.validIds d) : d'.Capable where
  basicControl := by
    rw [hsame.capabilities]
    exact h.basicControl
  cleaningPresets := by
    rw [hsame.capabilities, hsame.cleaningPresets]
    exact h.cleaningPresets
  segments := by
    rw [hsame.capabilities, hsame.segments]
    exact h.segments
  selectedAreas := by
    have hvalid : ServiceArea.validIds d' = ServiceArea.validIds d := by
      simp only [ServiceArea.validIds, hsame.segments]
    rw [hvalid]
    rcases hselected with hselected | hselected
    · rw [hselected]
      exact h.selectedAreas
    · exact hselected

/-- Every step keeps a device capable. -/
theorem Bridge.StepDoes.capable {b b' : Bridge} {l : Label} {o : Out} (h : b.StepDoes l b' o) (hb : b.device.Capable) :
    b'.device.Capable := by
  refine hb.step h.sameRobot ?_
  cases l with
  | task e =>
    cases e with
    | call c =>
      obtain ⟨-, stop, heff, -⟩ := h
      exact heff.selectedAreas.imp id And.left
    | answer i res =>
      obtain ⟨-, hd, -⟩ := h
      exact .inl (by rw [hd])
    | resume i =>
      obtain ⟨-, -, -, t, res, x, -, -, heff⟩ := h
      exact heff.selectedAreas.imp id And.left
  | monitor ev =>
    rcases monitorStep_effect h.1 with ⟨hd, -⟩ | ⟨attrs, -, hd, -⟩
    · exact .inl (by rw [hd])
    · exact .inl (by rw [hd, (apply_effect _ _).selectedAreas])

/-! ## What is sent -/

/-- A request of basic control. -/
theorem Device.Capable.control {d : Device} (h : d.Capable) (body : String) :
    Advertised d.capabilities (.put basicControlPath body) := by
  refine .of_mem (c := .basicControlCapability) ?_ h.basicControl
  rw [capability?_put]
  decide +kernel

/-- A start: a selected area is a segment, so the robot has segments. -/
theorem Device.Capable.start {d : Device} (h : d.Capable) : Advertised d.capabilities (startRequest d) := by
  rw [startRequest]
  split
  · exact h.control _
  · rename_i hselected
    obtain ⟨a, ha⟩ := List.exists_mem_of_ne_nil d.selectedAreas (by simpa using hselected)
    obtain ⟨s, hs, -⟩ := List.mem_filterMap.mp (h.selectedAreas a ha)
    refine .of_mem (c := .mapSegmentationCapability) ?_ (h.segments s hs)
    rw [capability?_put]
    decide +kernel

/-- A command sends only what the robot has the capability for. -/
theorem Device.Capable.sends {d : Device} (h : d.Capable) {c : Command} {r : HttpRequest} (hr : c.Sends d r) :
    Advertised d.capabilities r := by
  have hsound : ∀ dur, PlaysSound d dur → Advertised d.capabilities testSoundRequest := by
    intro dur hplays
    exact .of_mem (c := .speakerTestCapability) (by decide +kernel) hplays.2.2
  cases c with
  | identify time =>
    cases time with
    | error e => exact hr.elim
    | ok dur =>
      obtain ⟨hplays, rfl⟩ := hr
      exact hsound dur hplays
  | setIdentifyTime dur =>
    obtain ⟨hplays, rfl⟩ := hr
    exact hsound dur hplays
  | triggerEffect => exact hr.elim
  | changeRunMode mode =>
    cases mode with
    | error e => exact hr.elim
    | ok b =>
      simp only [Command.Sends] at hr
      split at hr
      · rw [hr.2]
        exact h.control _
      · rw [hr.2]
        exact h.start
      · exact hr.elim
  | changeCleanMode mode =>
    cases mode with
    | error e => exact hr.elim
    | ok b =>
      obtain ⟨m, -, hpreset, rfl⟩ := hr
      refine .of_mem (c := .operationModeControlCapability) ?_ (h.cleaningPresets _ hpreset)
      rw [presetRequest, capability?_put]
      decide +kernel
  | pause =>
    rw [show r = pauseRequest from hr]
    exact h.control _
  | resume =>
    rw [show r = startRequest d from hr]
    exact h.start
  | goHome =>
    rw [show r = homeRequest from hr]
    exact h.control _
  | selectAreas newAreas => exact hr.elim
  | skipArea => exact hr.elim

/-- A step sends only what the robot has the capability for. -/
theorem Bridge.StepDoes.advertised {b b' : Bridge} {l : Label} {o : Out} (h : b.StepDoes l b' o)
    (hb : b.device.Capable) : ∀ r ∈ o.sent, Advertised b.device.capabilities r := by
  intro r hr
  rcases h.sent_cases hr with ⟨c, -, hsends⟩ | rfl | rfl
  · exact hb.sends hsends
  · exact .of_none (by decide +kernel)
  · exact .of_none (by decide +kernel)

/-! ## Sessions -/

/-- The requests that a session of the program sends: those of `init`, and after it those of a run. -/
inductive Session (answers : Answers) (versions : Versions) : List HttpRequest → Prop where
  | init {sent : List HttpRequest} {x : Exit AnyhowError Device} :
      Device.init answers versions () = .exit () sent x → Session answers versions sent
  | run {sent : List HttpRequest} {d : Device} {ts : List Step} {b : Bridge} :
      Device.init answers versions () = .exit () sent (.done d) → Bridge.Run (.start d) ts b →
      Session answers versions (sent ++ ts.flatMap (·.out.sent))

/-- In a run from a device that `init` gives, the device is of that robot and capable before every step. -/
theorem Initialised.run {answers : Answers} {d : Device} (hd : Initialised answers d) {ts : List Step} {b : Bridge}
    (h : Bridge.Run (.start d) ts b) :
    ∀ t ∈ ts, t.before.StepDoes t.label t.after t.out ∧ SameRobot d t.before.device ∧ t.before.device.Capable := by
  have hgood := (h.good (Bridge.good_start d)).2
  have hinv := h.invariant_mem (I := fun b => SameRobot d b.device ∧ b.device.Capable) ⟨.refl d, hd.capable⟩ (by
    rintro t ht ⟨hsame, hcapable⟩
    have hdoes := (hgood t ht).2.2
    exact ⟨hsame.trans hdoes.sameRobot, hdoes.capable hcapable⟩)
  exact fun t ht => ⟨(hgood t ht).2.2, (hinv.2 t ht).1⟩

/-- Only advertised capabilities are ever used. Whatever the robot answers to the requests of `init`, and whatever commands
and attribute batches follow in whatever order, every request that is sent under the path of a capability names one that
`init` has fetched. -/
theorem session_advertised {answers : Answers} {versions : Versions} {sent : List HttpRequest}
    (h : Session answers versions sent) : ∀ r ∈ sent, Advertised answers.fetched r := by
  obtain ⟨s, ns, e, hinit, hsent, hdevice⟩ := init_ends answers versions
  cases h with
  | init h =>
    rw [h] at hinit
    cases hinit
    exact hsent
  | @run _ d _ _ h hrun =>
    rw [h] at hinit
    cases hinit
    have hd : Initialised answers d := hdevice d rfl
    have hfetched : answers.fetched = d.capabilities := by
      simp only [Answers.fetched, hd.capabilities]
    intro r hr
    rcases List.mem_append.mp hr with hr | hr
    · exact hsent r hr
    · obtain ⟨t, ht, hrt⟩ := List.mem_flatMap.mp hr
      obtain ⟨hdoes, hsame, hcapable⟩ := hd.run hrun t ht
      rw [hfetched, ← hsame.capabilities]
      exact hdoes.advertised hcapable r hrt

/-- A robot with a speaker, one room and one preset. -/
def roomAnswers : Answers where
  capabilities := .ok {.basicControlCapability, .mapSegmentationCapability, .operationModeControlCapability,
    .speakerTestCapability}
  presets := .ok {.mop}
  attributes := .ok [.batteryStateAttribute, .statusStateAttribute .docked .none]
  segments := .ok [{ id := "16", name := some "Kitchen" }]

def zeroVersions : Versions := { currentState := 0, currentPreset := 0, identifyTime := 0 }

/-- The device that is made of these answers. -/
def roomDevice : Device where
  capabilities := {.basicControlCapability, .mapSegmentationCapability, .operationModeControlCapability,
    .speakerTestCapability}
  cleaningPresets := {.mop}
  currentPreset := .new .mop 0
  currentState := .new { value := .docked, flag := .none } 0
  identifyTime := .new 0 0
  segments := [{ id := "16", name := some "Kitchen" }]
  selectedAreas := []

theorem init_room : ∃ sent, Device.init roomAnswers zeroVersions () = .exit () sent (.done roomDevice) :=
  ⟨_, rfl⟩

/-- A selection, a clean of it, a preset and an identification: each control is used, and each is advertised. -/
theorem session_room : ∃ sent, Session roomAnswers zeroVersions sent ∧
    [mapSegmentationPath, presetPath, speakerTestPath] ⊆ sent.map (·.path) ∧
    ∀ r ∈ sent, Advertised roomAnswers.fetched r := by
  obtain ⟨sent, hinit⟩ := init_room
  have hexec : (Lts.exec Bridge.step (.start roomDevice) [.task (.call (.selectAreas (.ok [.ok 16]))),
      .task (.call (.changeRunMode (.ok 1))), .task (.call (.changeCleanMode (.ok 1))),
      .task (.call (.identify (.ok 5)))]).any (fun r => decide ([mapSegmentationPath, presetPath, speakerTestPath] ⊆
        (r.1.flatMap (·.out.sent)).map (·.path))) = true := by decide +kernel
  obtain ⟨ts, b, hrun, hsent⟩ := Lts.exists_run_of_exec hexec
  have hsession : Session roomAnswers zeroVersions _ := .run hinit hrun
  refine ⟨_, hsession, ?_, session_advertised hsession⟩
  rw [List.map_append]
  exact List.Subset.trans (of_decide_eq_true hsent) (List.subset_append_right _ _)

end ValetudoMatter
