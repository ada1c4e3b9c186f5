import ValetudoMatter.Lemmas.Bridge

/-!
# What initialisation does

`Device.init` sends the requests that its answers call for, one after the other, and stops at the first that fails. What it
has sent names only capabilities it has fetched (`init_ends`), and a device it gives is what the answers say (`Initialised`).
-/

namespace ValetudoMatter

open Coroutine

/-- The capabilities that `init` fetches. -/
def Answers.fetched (answers : Answers) : Finset Capability :=
  match answers.capabilities with
  | .ok capabilities => capabilities
  | .error _ => ∅

/-- A request names only a capability of a set; in particular each control is used only if the robot has it. -/
structure Advertised (capabilities : Finset Capability) (r : HttpRequest) : Prop where
  named : ∀ name, r.capability? = some name → ∃ c ∈ capabilities, c.name = name
  segmentation : r.path = mapSegmentationPath → .mapSegmentationCapability ∈ capabilities
  preset : r.path = presetPath → .operationModeControlCapability ∈ capabilities
  speaker : r.path = speakerTestPath → .speakerTestCapability ∈ capabilities
  control : r.path = basicControlPath → .basicControlCapability ∈ capabilities

/-- A request whose path names a capability of the set. -/
theorem Advertised.of_mem {capabilities : Finset Capability} {r : HttpRequest} {c : Capability}
    (hr : r.capability? = some c.name) (hc : c ∈ capabilities) : Advertised capabilities r := by
  have key : ∀ (path : String) (c' : Capability), (HttpRequest.get path).capability? = some c'.name → r.path = path →
      c' ∈ capabilities := by
    intro path c' hpath heq
    have hr' : (HttpRequest.get path).capability? = r.capability? := by
      simp [HttpRequest.capability?, HttpRequest.get, heq]
    rw [hr', hr] at hpath
    rw [← Capability.name_injective (Option.some.inj hpath)]
    exact hc
  refine ⟨?_, ?_, ?_, ?_, ?_⟩
  · intro name hname
    rw [hr] at hname
    exact ⟨c, hc, Option.some.inj hname⟩
  · exact key _ .mapSegmentationCapability (by decide +kernel)
  · exact key _ .operationModeControlCapability (by decide +kernel)
  · exact key _ .speakerTestCapability (by decide +kernel)
  · exact key _ .basicControlCapability (by decide +kernel)

/-- A request whose path names no capability. -/
theorem Advertised.of_none {capabilities : Finset Capability} {r : HttpRequest} (hr : r.capability? = none) :
    Advertised capabilities r := by
  have key : ∀ path : String, (HttpRequest.get path).capability? ≠ none → r.path ≠ path := by
    intro path hpath heq
    apply hpath
    rw [← hr]
    simp [HttpRequest.capability?, HttpRequest.get, heq]
  refine ⟨?_, ?_, ?_, ?_, ?_⟩
  · intro name hname
    rw [hr] at hname
    cases hname
  · exact fun h => absurd h (key _ (by decide +kernel))
  · exact fun h => absurd h (key _ (by decide +kernel))
  · exact fun h => absurd h (key _ (by decide +kernel))
  · exact fun h => absurd h (key _ (by decide +kernel))

/-- A device that `init` gives. -/
structure Initialised (answers : Answers) (d : Device) : Prop where
  capabilities : answers.capabilities = .ok d.capabilities
  basicControl : .basicControlCapability ∈ d.capabilities
  cleaningPresets : if .operationModeControlCapability ∈ d.capabilities then answers.presets = .ok d.cleaningPresets
    else d.cleaningPresets = ∅
  segments : if .mapSegmentationCapability ∈ d.capabilities then answers.segments = .ok d.segments else d.segments = []
  attributes : ∃ attributes, answers.attributes = .ok attributes ∧
    attributes.findSome? StateAttribute.status? = some d.currentState.inner ∧
    d.currentPreset.inner = (((attributes.findSome? StateAttribute.operationMode?).bind presetFromStr).or
      (presetIter d.cleaningPresets).head?).getD .vacuum
  identifyTime : d.identifyTime.inner = 0
  selectedAreas : d.selectedAreas = []

/-- One request of `init`. -/
theorem Init.get_ends {α : Type} {P : HttpRequest → Prop} {path : String} (hP : P (.get path)) (s : String)
    (answer : Except AnyhowError α) :
    (Init.get path (context s answer)).Ends P (fun a _ => answer = .ok a) () := by
  cases answer with
  | ok a =>
    refine ⟨(), [.get path], .done a, by simp [Init.get, context], by simpa using hP, ?_⟩
    intro a' ha'
    cases ha'
    rfl
  | error e => exact ⟨(), [.get path], .fail ⟨s :: e.chain⟩, by simp [Init.get, context], by simpa using hP, nofun⟩

/-- Whatever the answers, `init` ends; it has then sent only requests that it has the capability for, and a device it gives is
what the answers say. -/
theorem init_ends (answers : Answers) (versions : Versions) :
    (Device.init answers versions).Ends (Advertised answers.fetched) (fun d _ => Initialised answers d) () := by
  apply Co.Ends.bind (Init.get_ends (.of_none (by decide +kernel)) _ _)
  intro capabilities _ hcapabilities
  have hfetched : answers.fetched = capabilities := by
    simp [Answers.fetched, hcapabilities]
  split
  · exact .fail _ _
  · rename_i hbasic
    apply Co.Ends.bind (Q := fun presets _ => if .operationModeControlCapability ∈ capabilities then
      answers.presets = .ok presets else presets = ∅)
    · split
      · rename_i hmode
        exact Init.get_ends (.of_mem (c := .operationModeControlCapability) (by decide +kernel) (by rwa [hfetched])) _ _
      · exact .pure rfl
    · intro presets _ hpresets
      apply Co.Ends.bind (Init.get_ends (.of_none (by decide +kernel)) _ _)
      intro attributes _ hattributes
      split
      · rename_i status hstatus
        apply Co.Ends.bind (Q := fun segments _ => if .mapSegmentationCapability ∈ capabilities then
          answers.segments = .ok segments else segments = [])
        · split
          · rename_i hsegmentation
            exact Init.get_ends (.of_mem (c := .mapSegmentationCapability) (by decide +kernel) (by rwa [hfetched])) _ _
          · exact .pure rfl
        · intro segments _ hsegments
          apply Co.Ends.pure
          exact ⟨hcapabilities, not_not.mp hbasic, hpresets, hsegments, ⟨attributes, hattributes, hstatus, rfl⟩, rfl, rfl⟩
      · exact .fail _ _

/-- A device that `init` gives is what the answers say. -/
theorem Initialised.of_init {answers : Answers} {versions : Versions} {sent : List HttpRequest} {d : Device}
    (hinit : Device.init answers versions () = .exit () sent (.done d)) : Initialised answers d := by
  obtain ⟨u, ns, e, hends, -, hdevice⟩ := init_ends answers versions
  rw [hinit] at hends
  cases hends
  exact hdevice d rfl

/-! ## Two robots -/

/-- Attributes that report a status and nothing else. -/
def statusAttributes (value : StatusValue) : List StateAttribute := [.statusStateAttribute value .none]

/-- A robot with a mop and a vacuum. -/
def mopAndVacuumAnswers : Answers where
  capabilities := .ok {.basicControlCapability, .operationModeControlCapability}
  presets := .ok {.mop, .vacuum}
  attributes := .ok [.statusStateAttribute .docked .none, .presetSelectionStateAttribute "operation_mode" "vacuum"]
  segments := .ok []

/-- The device that is made of these answers. -/
def mopAndVacuumDevice : Device where
  capabilities := {.basicControlCapability, .operationModeControlCapability}
  cleaningPresets := {.mop, .vacuum}
  currentPreset := .new .vacuum 0
  currentState := .new { value := .docked, flag := .none } 0
  identifyTime := .new 0 0
  segments := []
  selectedAreas := []

theorem init_mopAndVacuum :
    ∃ sent, Device.init mopAndVacuumAnswers ⟨0, 0, 0⟩ () = .exit () sent (.done mopAndVacuumDevice) := ⟨_, rfl⟩

/-- A robot that has basic control only, and reports its status. -/
def basicAnswers : Answers where
  capabilities := .ok {.basicControlCapability}
  presets := .ok ∅
  attributes := .ok [.statusStateAttribute .docked .none]
  segments := .ok []

/-- The device that is made of these answers. -/
def basicDevice : Device where
  capabilities := {.basicControlCapability}
  cleaningPresets := ∅
  currentPreset := .new .vacuum 0
  currentState := .new { value := .docked, flag := .none } 0
  identifyTime := .new 0 0
  segments := []
  selectedAreas := []

theorem init_basic : ∃ sent, Device.init basicAnswers ⟨0, 0, 0⟩ () = .exit () sent (.done basicDevice) := ⟨_, rfl⟩

end ValetudoMatter
