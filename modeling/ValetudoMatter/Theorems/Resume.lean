import ValetudoMatter.Theorems.SegmentClean

/-!
# Resuming a paused job

`Resume` is handled by `start_cleaning`, as a start is. Without a selection that sends the start action of basic control, which
continues a paused job; with one it sends a segment clean, which is a new job. The selection can be changed while the robot is
paused.
-/

namespace ValetudoMatter

open Coroutine

/-- The request that continues a paused job. -/
def continueRequest : HttpRequest := .put basicControlPath "\x7b\"action\": \"start\"\x7d"

/-- `Resume` sends a request, and waits for its answer. -/
def ResumeSends (d : Device) (r : HttpRequest) : Prop := ∃ k, dmHandler .resume d = .await d [] r k

theorem resumeSends_iff {d : Device} {r : HttpRequest} : ResumeSends d r ↔ r = startRequest d := by
  unfold ResumeSends
  rw [resume_eq, sendAndReport]
  constructor
  · rintro ⟨k, h⟩
    cases h
    rfl
  · rintro rfl
    exact ⟨_, rfl⟩

/-- A start continues a paused job exactly when no area is selected. -/
theorem startRequest_path_iff {d : Device} : (startRequest d).path ≠ mapSegmentationPath ↔ d.selectedAreas = [] := by
  unfold startRequest
  split
  · rename_i h
    exact iff_of_true (show basicControlPath ≠ mapSegmentationPath by decide +kernel) (List.isEmpty_iff.mp h)
  · rename_i h
    exact iff_of_false (fun hne => hne rfl) (fun hnil => h (List.isEmpty_iff.mpr hnil))

theorem startRequest_eq_continueRequest_iff {d : Device} : startRequest d = continueRequest ↔ d.selectedAreas = [] := by
  constructor
  · intro h
    apply startRequest_path_iff.mp
    rw [h]
    exact show basicControlPath ≠ mapSegmentationPath by decide +kernel
  · intro h
    exact if_pos (List.isEmpty_iff.mpr h)

/-- A step that calls `Resume` sends one request. -/
theorem Bridge.step_resume {b b' : Bridge} {o : Out} (h : b.step (.task (.call .resume)) = some (b', o)) :
    o.sent = [startRequest b.device] := by
  obtain ⟨⟨p, seg⟩, hp, heq⟩ := Option.map_eq_some_iff.mp h
  cases heq
  simp only [Pool.step] at hp
  split at hp
  · rw [resume_eq] at hp
    cases hp
    rfl
  · cases hp

/-- Two devices that differ only in their selection: `Resume` sends the same request for both, and no segment clean. -/
def ResumesAlike (d : Device) (areas areas' : List UInt32) : Prop :=
  ∃ r, ResumeSends { d with selectedAreas := areas } r ∧ ResumeSends { d with selectedAreas := areas' } r ∧
    r.path ≠ mapSegmentationPath

/-- `Resume` continues the paused job only without a selection. In every state of every run, and for any two selections, `Resume`
sends the same request for both and never a segment clean exactly when both are empty; and every `Resume` of the run sends the
request that continues a job exactly when no area is selected at any of them. -/
theorem resume_continues_iff {d : Device} {ts : List Step} {b : Bridge} (hrun : Bridge.Run (.start d) ts b) :
    (∀ s ∈ Lts.visited (.start d) ts, ∀ areas areas',
      ResumesAlike s.device areas areas' ↔ areas = [] ∧ areas' = []) ∧
      ((∀ t ∈ ts, t.label = .task (.call .resume) → t.out.sent = [continueRequest]) ↔
        ∀ t ∈ ts, t.label = .task (.call .resume) → t.before.device.selectedAreas = []) := by
  constructor
  · intro s _ areas areas'
    constructor
    · rintro ⟨r, hr, hr', hpath⟩
      rw [resumeSends_iff] at hr hr'
      exact ⟨startRequest_path_iff.mp (hr ▸ hpath), startRequest_path_iff.mp (hr' ▸ hpath)⟩
    · rintro ⟨rfl, rfl⟩
      have hsends : ResumeSends { s.device with selectedAreas := [] } continueRequest := resumeSends_iff.mpr rfl
      exact ⟨continueRequest, hsends, hsends, show basicControlPath ≠ mapSegmentationPath by decide +kernel⟩
  · have hsent : ∀ t ∈ ts, t.label = .task (.call .resume) → t.out.sent = [startRequest t.before.device] := by
      intro t ht hl
      have hvalid := hrun.valid t ht
      rw [Lts.Transition.Valid, hl] at hvalid
      exact Bridge.step_resume hvalid
    constructor
    · intro h t ht hl
      have heq := (hsent t ht hl).symm.trans (h t ht hl)
      exact startRequest_eq_continueRequest_iff.mp (List.singleton_inj.mp heq)
    · intro h t ht hl
      rw [hsent t ht hl, startRequest_eq_continueRequest_iff.mpr (h t ht hl)]

/-- A clean is started, paused and resumed. -/
def pauseLabels : List Label :=
  [.task (.call (.changeRunMode (.ok 1))), .task (.answer 0 (.ok ())), .task (.resume 0), .task (.call .pause),
    .task (.answer 0 (.ok ())), .task (.resume 0)]

/-- Without a selection, the paused clean goes on. -/
theorem resume_continues_all : ∃ ts b, Bridge.Run (.start roomDevice) ts b ∧
    ts.map (·.label) = pauseLabels ++ [.task (.call .resume)] ∧
    ∀ t ∈ ts, t.label = .task (.call .resume) → t.out.sent = [continueRequest] := by
  have hexec : (Lts.exec Bridge.step (.start roomDevice) (pauseLabels ++ [.task (.call .resume)])).any
      (fun r : List Step × Bridge => decide (r.1.map (·.label) = pauseLabels ++ [.task (.call .resume)] ∧
        ∀ t ∈ r.1, t.before.device.selectedAreas = [])) = true := by decide +kernel
  obtain ⟨ts, b, hrun, hp⟩ := Lts.exists_run_of_exec hexec
  obtain ⟨hlabels, hselected⟩ := of_decide_eq_true hp
  exact ⟨ts, b, hrun, hlabels, (resume_continues_iff hrun).2.mpr fun t ht _ => hselected t ht⟩

/-- A clean of everything is started and paused, and a room is selected: `Resume` sends a clean of this room. -/
theorem resume_starts_segments : ∃ sent ts b,
    Device.init roomAnswers zeroVersions () = .exit () sent (.done roomDevice) ∧ Bridge.Run (.start roomDevice) ts b ∧
      ts.map (·.label) =
        pauseLabels ++ [.task (.call (.selectAreas (.ok [.ok 16]))), .task (.call .resume)] ∧
      ts.flatMap (·.out.sent) =
        [continueRequest, pauseRequest, .put mapSegmentationPath (segmentActionBody ["\"16\""])] := by
  have hexec : (Lts.exec Bridge.step (.start roomDevice)
      (pauseLabels ++ [.task (.call (.selectAreas (.ok [.ok 16]))), .task (.call .resume)])).any
        (fun r : List Step × Bridge => decide (r.1.map (·.label) =
            pauseLabels ++ [.task (.call (.selectAreas (.ok [.ok 16]))), .task (.call .resume)] ∧
          r.1.flatMap (·.out.sent) =
            [continueRequest, pauseRequest, .put mapSegmentationPath (segmentActionBody ["\"16\""])])) = true := by
    decide +kernel
  obtain ⟨sent, hinit⟩ := init_room
  obtain ⟨ts, b, hrun, hp⟩ := Lts.exists_run_of_exec hexec
  exact ⟨sent, ts, b, hinit, hrun, of_decide_eq_true hp⟩

end ValetudoMatter
