import ValetudoMatter.Lemmas.Replies
import ValetudoMatter.Theorems.SegmentClean

/-!
# Orders

The receiver's side of the requests, which is no part of the source: the order that a robot reads off the path and the body of a
PUT. Every request that a command sends is read as the order that the command stands for (`orders_read`).
-/

namespace ValetudoMatter

open Coroutine

/-- What a robot can be told to do. -/
inductive Order where
  | start | stop | pause | home | testSound
  | clean (ids : List String) (iterations : Nat)
  | preset (name : String)
  deriving DecidableEq, Repr

/-- The order that an action of the basic control stands for. -/
def Order.ofAction? (action : String) : Option Order :=
  if action = "start" then some .start
  else if action = "stop" then some .stop
  else if action = "pause" then some .pause
  else if action = "home" then some .home
  else none

/-- The order that a PUT gives: each capability has its own, in a JSON object. -/
def HttpRequest.order? (r : HttpRequest) : Option Order :=
  (Json.parse r.body).bind fun body =>
    let action := (body.field? "action").bind Json.str?
    if r.path = basicControlPath then action.bind Order.ofAction?
    else if r.path = speakerTestPath then if action = some "play_test_sound" then some .testSound else none
    else if r.path = presetPath then ((body.field? "name").bind Json.str?).map .preset
    else if r.path = mapSegmentationPath then
      if action = some "start_segment_action" then do
        let ids ← (body.field? "segment_ids").bind Json.strs?
        let iterations ← (body.field? "iterations").bind Json.nat?
        return .clean ids iterations
      else none
    else none

/-- What a clean is of: everything, or once each of the segments that the selected areas stand for. -/
def startOrder (d : Device) : Order :=
  if d.selectedAreas.isEmpty then .start
  else .clean (d.selectedAreas.filterMap fun a => (segmentOfArea d.segments a).map (·.id)) 1

/-- The order that a command stands for. -/
def Command.order? (c : Command) (d : Device) : Option Order :=
  match c with
  | .identify (.ok _) | .setIdentifyTime _ => some .testSound
  | .changeRunMode _ =>
    match c.runMode? with
    | some .idle => some .stop
    | some .cleaning => some (startOrder d)
    | some .mapping => none
    | none => none
  | .changeCleanMode _ => c.cleanPreset?.map fun preset => .preset preset.name
  | .pause => some .pause
  | .resume => some (startOrder d)
  | .goHome => some .home
  | .identify (.error _) | .triggerEffect | .selectAreas _ | .skipArea => none

/-! ## Reading -/

theorem testSoundRequest_order : testSoundRequest.order? = some .testSound := by decide +kernel

theorem stopRequest_order : stopRequest.order? = some .stop := by decide +kernel

theorem pauseRequest_order : pauseRequest.order? = some .pause := by decide +kernel

theorem homeRequest_order : homeRequest.order? = some .home := by decide +kernel

theorem presetRequest_order (preset : Preset) : (presetRequest preset).order? = some (.preset preset.name) := by
  cases preset <;> decide +kernel

/-- The body of a segment clean is read as an order for its segments. -/
theorem order_of_segmentAction {body : String} {ids : List String} (h : Json.parse body = some (segmentAction ids)) :
    (HttpRequest.put mapSegmentationPath body).order? = some (.clean ids 1) := by
  have hpaths : mapSegmentationPath ≠ basicControlPath ∧ mapSegmentationPath ≠ speakerTestPath ∧
      mapSegmentationPath ≠ presetPath := by decide
  have hids := Json.strs?_map ids
  have hone : Json.nat? (.num 1 0) = some 1 := rfl
  unfold HttpRequest.order?
  simp only [HttpRequest.put, h, Option.bind_some, hpaths.1, hpaths.2.1, hpaths.2.2, if_false, if_true]
  simp [segmentAction, Json.field?, Json.str?, hids, hone]

/-- The request of a clean is read as an order for what is selected. -/
theorem Device.Capable.startRequest_order {d : Device} (h : d.Capable) : (startRequest d).order? = some (startOrder d) := by
  by_cases hselected : d.selectedAreas = []
  · have hstart : (HttpRequest.put basicControlPath "\x7b\"action\": \"start\"\x7d").order? = some .start := by
      decide +kernel
    rw [startRequest, startOrder, hselected]
    exact hstart
  · obtain ⟨body, ids, hbody, hparse, hids⟩ := h.startRequest_eq hselected
    have hsegments : d.selectedAreas.filterMap (fun a => (segmentOfArea d.segments a).map (·.id)) = ids := by
      have hmap := congrArg (List.filterMap id) hids
      rwa [List.filterMap_map, List.filterMap_map, Function.id_comp, Function.id_comp, List.filterMap_some] at hmap
    rw [hbody, order_of_segmentAction hparse, startOrder, if_neg (by simpa using hselected), hsegments]

/-- What a command sends is read as the order that it stands for. -/
theorem Command.Sends.order {c : Command} {d : Device} {r : HttpRequest} (h : c.Sends d r) (hd : d.Capable) :
    ∃ order, r.order? = some order ∧ c.order? d = some order := by
  cases c with
  | identify time =>
    rcases time with e | dur
    · exact h.elim
    · obtain ⟨-, rfl⟩ := h
      exact ⟨.testSound, testSoundRequest_order, rfl⟩
  | setIdentifyTime dur =>
    obtain ⟨-, rfl⟩ := h
    exact ⟨.testSound, testSoundRequest_order, rfl⟩
  | changeRunMode mode =>
    rcases mode with e | b
    · exact h.elim
    · unfold Command.Sends at h
      unfold Command.order?
      rcases hmode : RunMode.tryFrom b with _ | m
      · simp [hmode] at h
      · rcases m with _ | _ | _
        · simp only [hmode] at h
          exact ⟨.stop, h.2 ▸ stopRequest_order, by simp [Command.runMode?, hmode]⟩
        · simp only [hmode] at h
          exact ⟨startOrder d, h.2 ▸ hd.startRequest_order, by simp [Command.runMode?, hmode]⟩
        · simp [hmode] at h
  | changeCleanMode mode =>
    rcases mode with e | b
    · exact h.elim
    · obtain ⟨m, hm, -, rfl⟩ := h
      exact ⟨.preset m.toPreset.name, presetRequest_order m.toPreset, by simp [Command.order?, Command.cleanPreset?, hm]⟩
  | pause => exact ⟨.pause, h ▸ pauseRequest_order, rfl⟩
  | resume => exact ⟨startOrder d, h ▸ hd.startRequest_order, rfl⟩
  | goHome => exact ⟨.home, h ▸ homeRequest_order, rfl⟩
  | triggerEffect => exact h.elim
  | selectAreas newAreas => exact h.elim
  | skipArea => exact h.elim

/-- What is put to the robot is read as what was ordered. In every run from `init`, whatever the robot has answered to it: every
PUT that a step sends is sent by a command that the step calls, and is read, from its path and the JSON object in its body, as
the order that this command stands for in the state it is called in; a clean, as an order for the segments of the selected areas
in their order. -/
theorem orders_read {answers : Answers} {versions : Versions} {sent : List HttpRequest} {d : Device}
    (hinit : Device.init answers versions () = .exit () sent (.done d)) {ts : List Step} {b : Bridge}
    (hrun : Bridge.Run (.start d) ts b) :
    ∀ t ∈ ts, ∀ r ∈ t.out.sent, r.method = .put → ∃ c order, t.label = .task (.call c) ∧ r.order? = some order ∧
      c.order? t.before.device = some order := by
  intro t ht r hr hput
  obtain ⟨hdoes, -, hcapable⟩ := (Initialised.of_init hinit).run hrun t ht
  rcases hdoes.sent_cases hr with ⟨c, hl, hsends⟩ | rfl | rfl
  · obtain ⟨order, hread, hmeant⟩ := hsends.order hcapable
    exact ⟨c, order, hl, hread, hmeant⟩
  · cases hput
  · cases hput

/-- A clean of two selected segments whose ids are odd. -/
theorem orders_read_odd : ∃ ts b, Bridge.Run (.start (segmentDevice oddSegments)) ts b ∧
    ∃ t ∈ ts, ∃ r ∈ t.out.sent, r.order? = some (.clean ["+8", "07"] 1) := by
  have hexec : (Lts.exec Bridge.step (.start (segmentDevice oddSegments))
      [.task (.call (.selectAreas (.ok [.ok 8, .ok 7]))), .task (.call .resume)]).any (fun r : List Step × Bridge =>
        decide (∃ t ∈ r.1, t.label = .task (.call .resume) ∧
          Command.order? .resume t.before.device = some (.clean ["+8", "07"] 1) ∧ ∃ r ∈ t.out.sent, r.method = .put)) = true := by
    decide +kernel
  obtain ⟨sent, hinit⟩ := init_segments oddSegments
  obtain ⟨ts, b, hrun, hp⟩ := Lts.exists_run_of_exec hexec
  obtain ⟨t, ht, hl, hmeant, r, hr, hput⟩ : ∃ t ∈ ts, t.label = .task (.call .resume) ∧
      Command.order? .resume t.before.device = some (.clean ["+8", "07"] 1) ∧ ∃ r ∈ t.out.sent, r.method = .put :=
    of_decide_eq_true hp
  obtain ⟨c, order, hl', hread, hmeant'⟩ := orders_read hinit hrun t ht r hr hput
  rw [hl] at hl'
  cases hl'
  exact ⟨ts, b, hrun, t, ht, r, hr, hread.trans (hmeant'.symm.trans hmeant)⟩

end ValetudoMatter
