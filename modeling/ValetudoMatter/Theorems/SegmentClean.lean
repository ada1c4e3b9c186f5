import ValetudoMatter.Lemmas.Areas
import ValetudoMatter.Theorems.Capabilities

/-!
# A segment clean is of the selected areas

The ids of a segment clean are put into its body as the robot has given them, and an area that no segment has is dropped. In the
states that the program reaches every selected area is one of the segments (`Device.Capable`), so none is dropped, and the
ids that areas stand for are digits, so the body is well-formed.
-/

namespace ValetudoMatter

open Coroutine

/-- In a run from a device that `init` gives, the device is of that robot and capable in every state. -/
theorem Initialised.visited {answers : Answers} {d : Device} (hd : Initialised answers d) {ts : List Step} {b : Bridge}
    (h : Bridge.Run (.start d) ts b) :
    ∀ s ∈ Lts.visited (.start d) ts, SameRobot d s.device ∧ s.device.Capable := by
  rw [Lts.forall_mem_visited]
  refine ⟨⟨.refl d, hd.capable⟩, ?_⟩
  intro t ht
  obtain ⟨hdoes, hsame, hcapable⟩ := hd.run h t ht
  exact ⟨hsame.trans hdoes.sameRobot, hdoes.capable hcapable⟩

/-- A start sends one request, and gives its result. -/
def StartSends (d : Device) (r : HttpRequest) : Prop :=
  Device.startCleaning d = .await d [] r fun res d => .exit d [] (.done res)

/-- What a start asks for where areas are selected. -/
theorem Device.Capable.startRequest_eq {d : Device} (h : d.Capable) (hselected : d.selectedAreas ≠ []) :
    ∃ body ids, startRequest d = .put mapSegmentationPath body ∧ Json.parse body = some (segmentAction ids) ∧
      d.selectedAreas.map (fun a => (segmentOfArea d.segments a).map (·.id)) = ids.map some := by
  obtain ⟨ids, hids, hmap, hplain⟩ := segmentIds_of_valid h.selectedAreas
  refine ⟨_, ids, if_neg (by simpa using hselected), ?_, hmap⟩
  rw [hids]
  exact parse_segmentActionBody hplain

/-- A segment clean is of exactly the selected areas. Whatever ids the segments of the robot have, in every state that a run
from `init` visits, a start asks for a clean of everything if no area is selected; otherwise it sends one PUT, whose body is a
JSON object with the action, one iteration, and the ids of the segments that the selected areas stand for, in their order. -/
theorem segment_clean_exact {answers : Answers} {versions : Versions} {sent : List HttpRequest} {d : Device}
    (hinit : Device.init answers versions () = .exit () sent (.done d)) {ts : List Step} {b : Bridge}
    (hrun : Bridge.Run (.start d) ts b) :
    ∀ s ∈ Lts.visited (.start d) ts,
      (s.device.selectedAreas = [] → StartSends s.device (.put basicControlPath "\x7b\"action\": \"start\"\x7d")) ∧
        (s.device.selectedAreas ≠ [] → ∃ body ids, StartSends s.device (.put mapSegmentationPath body) ∧
          Json.parse body = some (segmentAction ids) ∧ ids ≠ [] ∧ ids.length = s.device.selectedAreas.length ∧
          s.device.selectedAreas.map (fun a => (segmentOfArea s.device.segments a).map (·.id)) = ids.map some) := by
  intro s hs
  obtain ⟨-, hcapable⟩ := (Initialised.of_init hinit).visited hrun s hs
  constructor
  · intro hselected
    rw [StartSends, startCleaning_eq, startRequest, hselected]
    rfl
  · intro hselected
    obtain ⟨body, ids, hbody, hparse, hmap⟩ := hcapable.startRequest_eq hselected
    have hlength : ids.length = s.device.selectedAreas.length := by
      simpa using (congrArg List.length hmap).symm
    refine ⟨body, ids, ?_, hparse, ?_, hlength, hmap⟩
    · rw [StartSends, startCleaning_eq, hbody]
    · rintro rfl
      exact hselected (List.length_eq_zero_iff.mp hlength.symm)

/-! ## A robot with segments -/

/-- A robot that reports these segments. -/
def segmentAnswers (segments : List MapSegment) : Answers where
  capabilities := .ok {.basicControlCapability, .mapSegmentationCapability}
  presets := .ok ∅
  attributes := .ok [.statusStateAttribute .docked .none]
  segments := .ok segments

/-- The device that is made of these answers. -/
def segmentDevice (segments : List MapSegment) : Device where
  capabilities := {.basicControlCapability, .mapSegmentationCapability}
  cleaningPresets := ∅
  currentPreset := .new .vacuum 0
  currentState := .new { value := .docked, flag := .none } 0
  identifyTime := .new 0 0
  segments := segments
  selectedAreas := []

theorem init_segments (segments : List MapSegment) :
    ∃ sent, Device.init (segmentAnswers segments) zeroVersions () = .exit () sent (.done (segmentDevice segments)) :=
  ⟨_, rfl⟩

/-- Two ids that read as the same number, one that is no number and would break the body, and one with a plus sign. -/
def oddSegments : List MapSegment := [⟨"07", none⟩, ⟨"7", some "Hall"⟩, ⟨"\"]\\", none⟩, ⟨"+8", some "Kitchen"⟩]

/-- The areas 8 and 7 are selected, in this order: their clean is of the segments `+8` and `07`. -/
theorem segment_clean_odd : ∃ sent ts b,
    Device.init (segmentAnswers oddSegments) zeroVersions () = .exit () sent (.done (segmentDevice oddSegments)) ∧
      Bridge.Run (.start (segmentDevice oddSegments)) ts b ∧
      ∃ body, StartSends b.device (.put mapSegmentationPath body) ∧
        Json.parse body = some (segmentAction ["+8", "07"]) := by
  have hexec : (Lts.exec Bridge.step (.start (segmentDevice oddSegments))
      [.task (.call (.selectAreas (.ok [.ok 8, .ok 7])))]).any (fun r =>
        decide (r.2.device.selectedAreas.map (fun a => (segmentOfArea r.2.device.segments a).map (·.id)) =
          [some "+8", some "07"])) = true := by decide +kernel
  obtain ⟨sent, hinit⟩ := init_segments oddSegments
  obtain ⟨ts, b, hrun, hp⟩ := Lts.exists_run_of_exec hexec
  have hmap := of_decide_eq_true hp
  have hne : b.device.selectedAreas ≠ [] := by
    intro hnil
    simp [hnil] at hmap
  obtain ⟨body, ids, hsends, hparse, -, -, hids⟩ := (segment_clean_exact hinit hrun b hrun.last_mem).2 hne
  have hids' : ids = ["+8", "07"] := by
    apply List.map_injective_iff.mpr (Option.some_injective String)
    rw [← hids]
    exact hmap
  exact ⟨sent, ts, b, hinit, hrun, body, hsends, hids' ▸ hparse⟩

end ValetudoMatter
