import ValetudoMatter.Lemmas.Writes
import ValetudoMatter.Theorems.SegmentClean

/-!
# The areas that are listed, selected and cleaned

Every way to read `supported_areas` and every selection skip the segments whose id is no number, each in a loop of its own:
they agree (`areas_advertised_accepted`). A selection is all or nothing (`select_all_or_nothing`). Areas are told apart by
their numbers, and segments by their ids: where no two ids read as the same number, an area stands for its own segment only
(`areas_addressed`).
-/

namespace ValetudoMatter

open Coroutine

/-! ## Listed and accepted -/

/-- An entry of `supported_areas` is that of a segment: the number that its id reads as, and its name. -/
def Lists (segment : MapSegment) (area : AreaStruct) : Prop :=
  parseU32 segment.id = some area.areaId ∧ area.locationName = segment.name.getD ""

/-- The areas that are listed. -/
def Device.areas (d : Device) : List AreaStruct :=
  d.segments.filterMap fun segment => (segmentAreaId segment).map fun areaId => buildArea areaId segment.name

/-- One entry for each segment whose id is a number, in their order. -/
theorem areas_forall₂ (d : Device) : List.Forall₂ Lists (d.segments.filter fun s => (parseU32 s.id).isSome) d.areas := by
  unfold Device.areas
  induction d.segments with
  | nil => exact .nil
  | cons segment segments ih =>
    cases hid : parseU32 segment.id with
    | none => simpa [segmentAreaId, hid] using ih
    | some a =>
      rw [List.filter_cons_of_pos (by simp [hid]), List.filterMap_cons, segmentAreaId, hid]
      exact .cons ⟨hid, rfl⟩ ih

/-- The ids listed are those that a selection may contain. -/
theorem areas_ids (d : Device) : d.areas.map (·.areaId) = ServiceArea.validIds d := by
  rw [Device.areas, ServiceArea.validIds, List.map_filterMap]
  congr 1
  funext segment
  cases segmentAreaId segment <;> rfl

/-- The entry of a segment is the one that is built of it. -/
theorem Lists.buildArea_eq {segment : MapSegment} {area : AreaStruct} (h : Lists segment area) :
    buildArea area.areaId segment.name = area := by
  simp only [buildArea, ← h.2]

/-- Reading at an index gives the entry that is listed there. -/
theorem readOne_eq (d : Device) (index : UInt16) :
    ServiceArea.supportedAreas d (.readOne index) =
      match d.areas[index.toNat]? with
      | some area => .done (.entry area)
      | none => .fail (.new .constraintError) := by
  have hareas := areas_forall₂ d
  simp only [ServiceArea.supportedAreas, segmentAreaId]
  by_cases hindex : index.toNat < d.areas.length
  · have hindex' : index.toNat < (d.segments.filter fun s => (parseU32 s.id).isSome).length := by
      rw [hareas.length_eq]
      exact hindex
    have hlists := hareas.get hindex' hindex
    rw [List.getElem?_eq_getElem hindex, List.getElem?_eq_getElem hindex']
    simp only [List.get_eq_getElem] at hlists
    simp only [hlists.1, hlists.buildArea_eq]
  · have hindex' : (d.segments.filter fun s => (parseU32 s.id).isSome).length ≤ index.toNat := by
      rw [hareas.length_eq]
      exact Nat.not_lt.mp hindex
    rw [List.getElem?_eq_none hindex', List.getElem?_eq_none (Nat.not_lt.mp hindex)]

/-- A selection is answered with success. -/
def Accepts (d : Device) (newAreas : List (Tlv UInt32)) : Prop :=
  ∃ d' ns, dmHandler (.selectAreas (.ok newAreas)) d = .exit d' ns (.done (.selectAreas ⟨.success, ""⟩))

/-- A selection is answered with success exactly when no element offends. -/
theorem accepts_iff {d : Device} {newAreas : List (Tlv UInt32)} :
    Accepts d newAreas ↔ ∀ area ∈ newAreas, ¬ Offends d area := by
  have hcollect := collectAreas_find d [] newAreas
  unfold Accepts
  rw [selectAreas_eq]
  constructor
  · rintro ⟨d', ns, h⟩ area harea hoffends
    cases hfind : newAreas.find? (Offends d ·) with
    | none => simpa [hoffends] using List.find?_eq_none.mp hfind area harea
    | some bad =>
      rw [hfind] at hcollect
      cases bad with
      | ok a =>
        rw [show ServiceArea.collectAreas _ _ _ = _ from hcollect] at h
        simp at h
      | error e =>
        rw [show ServiceArea.collectAreas _ _ _ = _ from hcollect] at h
        simp at h
  · intro h
    have hfind : newAreas.find? (Offends d ·) = none := by
      simpa [List.find?_eq_none] using h
    rw [hfind] at hcollect
    obtain ⟨areas, -, hareas⟩ := hcollect
    exact ⟨_, _, by rw [hareas]⟩

/-- The areas listed are the areas accepted, by every way to read them. Read whole, `supported_areas` has one entry for each
segment whose id is a number, in their order; read at an index it has the entry of the list there, or the index is a constraint
error; and an id occurs in a selection that is answered with success exactly when it is listed. -/
theorem areas_advertised_accepted (d : Device) :
    ∃ areas, ServiceArea.supportedAreas d .readAll = .done (.list areas) ∧
      List.Forall₂ Lists (d.segments.filter fun s => (parseU32 s.id).isSome) areas ∧
      (∀ index : UInt16, ServiceArea.supportedAreas d (.readOne index) =
        match areas[index.toNat]? with
        | some area => .done (.entry area)
        | none => .fail (.new .constraintError)) ∧
      ∀ a, (∃ newAreas, .ok a ∈ newAreas ∧ Accepts d newAreas) ↔ a ∈ areas.map (·.areaId) := by
  refine ⟨d.areas, rfl, areas_forall₂ d, readOne_eq d, ?_⟩
  intro a
  rw [areas_ids]
  constructor
  · rintro ⟨newAreas, ha, haccepts⟩
    exact not_offends_iff.mp (accepts_iff.mp haccepts _ ha)
  · intro ha
    refine ⟨[.ok a], by simp, accepts_iff.mpr ?_⟩
    intro area harea
    rw [List.mem_singleton.mp harea]
    exact not_offends_iff.mpr ha

/-! ## All or nothing -/

/-- `SelectAreas` is all or nothing. If no element of the request offends, the selection becomes the requested list and one
notification is issued; otherwise the first that offends decides the outcome, nothing is changed and nobody is notified. -/
theorem select_all_or_nothing (d : Device) (newAreas : List (Tlv UInt32)) :
    match newAreas.find? (Offends d ·) with
    | none => ∃ areas, newAreas = areas.map .ok ∧ dmHandler (.selectAreas (.ok newAreas)) d =
        .exit { d with selectedAreas := areas } [⟨1, .serviceArea⟩] (.done (.selectAreas ⟨.success, ""⟩))
    | some (.ok _) => dmHandler (.selectAreas (.ok newAreas)) d =
        .exit d [] (.done (.selectAreas ⟨.unsupportedArea, "Unknown area"⟩))
    | some (.error e) => dmHandler (.selectAreas (.ok newAreas)) d = .exit d [] (.fail e) := by
  have hcollect := collectAreas_find d [] newAreas
  rw [selectAreas_eq]
  split
  · rename_i hfind
    rw [hfind] at hcollect
    obtain ⟨areas, hareas, hcollect⟩ := hcollect
    exact ⟨areas, hareas, by rw [hcollect]; rfl⟩
  · rename_i hfind
    rw [hfind] at hcollect
    rw [hcollect]
  · rename_i hfind
    rw [hfind] at hcollect
    rw [hcollect]

/-! ## One segment an area -/

/-- The ids of the segments that areas stand for read as the areas. -/
theorem map_parse_ids {segments : List MapSegment} {selected : List UInt32} {ids : List String}
    (h : selected.map (fun a => (segmentOfArea segments a).map (·.id)) = ids.map some) :
    ids.map parseU32 = selected.map some := by
  induction selected generalizing ids with
  | nil =>
    have : ids = [] := by simpa using h.symm
    simp [this]
  | cons a selected ih =>
    obtain ⟨id, ids', rfl, hid, hrest⟩ := List.map_eq_cons_iff.mp h.symm
    obtain ⟨s, hs, hsid⟩ := Option.map_eq_some_iff.mp hid.symm
    have hparse : segmentAreaId s = some a := by
      simpa using List.find?_some hs
    rw [List.map_cons, List.map_cons, ih hrest.symm, ← hsid]
    exact congrArg (· :: selected.map some) hparse

/-- A selection without repetitions stands for segments with different ids. -/
theorem ids_nodup {segments : List MapSegment} {selected : List UInt32} {ids : List String}
    (h : selected.map (fun a => (segmentOfArea segments a).map (·.id)) = ids.map some) (hnodup : selected.Nodup) :
    ids.Nodup := by
  apply List.Nodup.of_map parseU32
  rw [map_parse_ids h]
  exact hnodup.map (Option.some_injective UInt32)

/-- Where no two ids read as the same number, an area stands for its own segment. -/
theorem segmentOfArea_eq {segments : List MapSegment} (hids : (segments.filterMap segmentAreaId).Nodup)
    {segment : MapSegment} (hmem : segment ∈ segments) {a : UInt32} (ha : segmentAreaId segment = some a) :
    segmentOfArea segments a = some segment := by
  induction segments with
  | nil => simp at hmem
  | cons first segments ih =>
    unfold segmentOfArea
    by_cases hfirst : segmentAreaId first = some a
    · rw [List.find?_cons_of_pos (by simpa using hfirst)]
      rcases List.mem_cons.mp hmem with rfl | hmem
      · rfl
      · -- a second segment with this number
        rw [List.filterMap_cons, hfirst] at hids
        exact absurd (List.mem_filterMap.mpr ⟨segment, hmem, ha⟩) (List.nodup_cons.mp hids).1
    · rw [List.find?_cons_of_neg (by simpa using hfirst)]
      apply ih
      · exact hids.sublist ((List.sublist_cons_self first segments).filterMap segmentAreaId)
      · rcases List.mem_cons.mp hmem with rfl | hmem
        · exact absurd ha hfirst
        · exact hmem

/-- Where no two ids read as the same number, an area that is selected alone is cleaned alone, under the id of its segment. -/
theorem Device.Capable.addressed {d : Device} (h : d.Capable) (hids : (d.segments.filterMap segmentAreaId).Nodup)
    {segment : MapSegment} (hsegment : segment ∈ d.segments) {a : UInt32} (ha : segmentAreaId segment = some a) :
    ∃ d' body,
      dmHandler (.selectAreas (.ok [.ok a])) d = .exit d' [⟨1, .serviceArea⟩] (.done (.selectAreas ⟨.success, ""⟩)) ∧
        StartSends d' (.put mapSegmentationPath body) ∧ Json.parse body = some (segmentAction [segment.id]) := by
  have hvalid : a ∈ ServiceArea.validIds d := List.mem_filterMap.mpr ⟨segment, hsegment, ha⟩
  have hselected : ({ d with selectedAreas := [a] } : Device).Capable := h.step ⟨rfl, rfl, rfl⟩ (.inr (by simpa using hvalid))
  obtain ⟨body, ids, hbody, hparse, hmap⟩ := hselected.startRequest_eq (by simp)
  have hids' : ids = [segment.id] := by
    simp only [List.map_cons, List.map_nil, segmentOfArea_eq hids hsegment ha, Option.map_some] at hmap
    exact List.map_injective_iff.mpr (Option.some_injective String) hmap.symm
  refine ⟨{ d with selectedAreas := [a] }, body, ?_, ?_, hids' ▸ hparse⟩
  · rw [selectAreas_eq]
    simp only [ServiceArea.collectAreas, hvalid, if_true, List.nil_append]
  · rw [StartSends, startCleaning_eq, hbody]

/-- The areas that are named by the selection of a step, if it calls one. -/
def Label.selection : Label → List UInt32
  | .task (.call (.selectAreas (.ok newAreas))) => newAreas.filterMap Except.toOption
  | _ => []

/-- A run whose selections repeat no area keeps the selection free of repetitions. -/
theorem selection_nodup {d : Device} (hd : d.selectedAreas = []) {ts : List Step} {b : Bridge}
    (hrun : Bridge.Run (.start d) ts b) (hselect : ∀ t ∈ ts, t.label.selection.Nodup) :
    ∀ s ∈ Lts.visited (.start d) ts, s.device.selectedAreas.Nodup := by
  have hstart : (Bridge.start d).device.selectedAreas.Nodup := by
    simp [Bridge.start, Bridge.device, hd]
  refine hrun.invariant_visited (I := fun s => s.device.selectedAreas.Nodup) hstart ?_
  intro t ht hbefore
  rcases (hrun.segments dmHandler_writes t ht).selectedAreas with hsame | hlabel
  · rw [hsame]
    exact hbefore
  · have hnodup := hselect t ht
    rw [hlabel] at hnodup
    simpa [Label.selection, List.filterMap_map, Function.comp_def, Except.toOption] using hnodup

/-- A segment clean is sent for the ids of the selection. -/
theorem Bridge.StepDoes.segmentClean {b b' : Bridge} {l : Label} {o : Out} (h : b.StepDoes l b' o) (hb : b.device.Capable)
    {body : String} (hbody : .put mapSegmentationPath body ∈ o.sent) :
    ∃ ids, Json.parse body = some (segmentAction ids) ∧
      b.device.selectedAreas.map (fun a => (segmentOfArea b.device.segments a).map (·.id)) = ids.map some := by
  rcases h.sent_cases hbody with ⟨c, -, hsends⟩ | hr | hr
  · have hstart := hsends.eq_startRequest
    by_cases hselected : b.device.selectedAreas = []
    · rw [startRequest, hselected] at hstart
      exact absurd (congrArg HttpRequest.path hstart) (show mapSegmentationPath ≠ basicControlPath by decide +kernel)
    · obtain ⟨body', ids, hbody', hparse, hmap⟩ := hb.startRequest_eq hselected
      rw [hbody'] at hstart
      have hsame : body = body' := congrArg HttpRequest.body hstart
      exact ⟨ids, hsame ▸ hparse, hmap⟩
  · cases hr
  · cases hr

/-- Areas are uniquely addressed. In every run from `init`: if no two segment ids read as the same number, the areas listed have
different ids, and each segment that is listed is the one that is cleaned if its area is selected alone; and if no selection of
the run repeats an area, the selection held never has a repetition, and neither have the segment ids of any segment clean that
is sent. -/
theorem areas_addressed {answers : Answers} {versions : Versions} {sent : List HttpRequest} {d : Device}
    (hinit : Device.init answers versions () = .exit () sent (.done d)) {ts : List Step} {b : Bridge}
    (hrun : Bridge.Run (.start d) ts b) :
    ((d.segments.filterMap segmentAreaId).Nodup → ∀ s ∈ Lts.visited (.start d) ts,
      (∃ areas, ServiceArea.supportedAreas s.device .readAll = .done (.list areas) ∧ (areas.map (·.areaId)).Nodup) ∧
        ∀ segment ∈ s.device.segments, ∀ a, segmentAreaId segment = some a → ∃ d' body,
          dmHandler (.selectAreas (.ok [.ok a])) s.device =
            .exit d' [⟨1, .serviceArea⟩] (.done (.selectAreas ⟨.success, ""⟩)) ∧
          StartSends d' (.put mapSegmentationPath body) ∧ Json.parse body = some (segmentAction [segment.id])) ∧
      ((∀ t ∈ ts, t.label.selection.Nodup) →
        (∀ s ∈ Lts.visited (.start d) ts, s.device.selectedAreas.Nodup) ∧
          ∀ t ∈ ts, ∀ body, .put mapSegmentationPath body ∈ t.out.sent →
            ∃ ids, Json.parse body = some (segmentAction ids) ∧ ids.Nodup) := by
  have hd := Initialised.of_init hinit
  constructor
  · intro hids s hs
    obtain ⟨hsame, hcapable⟩ := hd.visited hrun s hs
    rw [← hsame.segments] at hids
    refine ⟨⟨s.device.areas, rfl, by rw [areas_ids]; exact hids⟩, ?_⟩
    intro segment hsegment a ha
    exact hcapable.addressed hids hsegment ha
  · intro hselect
    have hnodup := selection_nodup hd.selectedAreas hrun hselect
    refine ⟨hnodup, ?_⟩
    intro t ht body hbody
    obtain ⟨hdoes, -, hcapable⟩ := hd.run hrun t ht
    obtain ⟨ids, hparse, hmap⟩ := hdoes.segmentClean hcapable hbody
    exact ⟨ids, hparse, ids_nodup hmap (hnodup t.before (hrun.before_mem ht))⟩

/-- Two rooms, of which one is listed without a name. -/
def twoRooms : List MapSegment := [⟨"16", some "Kitchen"⟩, ⟨"map", none⟩, ⟨"17", none⟩]

/-- Both rooms are selected and cleaned: the clean that is sent has two different ids. -/
theorem areas_addressed_twoRooms : ∃ ts b, Bridge.Run (.start (segmentDevice twoRooms)) ts b ∧
    (∃ t ∈ ts, ∃ body ids, .put mapSegmentationPath body ∈ t.out.sent ∧ Json.parse body = some (segmentAction ids) ∧
      ids.Nodup) ∧
    ∃ areas, ServiceArea.supportedAreas b.device .readAll = .done (.list areas) ∧ (areas.map (·.areaId)).Nodup := by
  have hexec : (Lts.exec Bridge.step (.start (segmentDevice twoRooms))
      [.task (.call (.selectAreas (.ok [.ok 17, .ok 16]))), .task (.call (.changeRunMode (.ok 1)))]).any (fun r =>
        decide ((∀ t ∈ r.1, t.label.selection.Nodup) ∧
          ∃ t ∈ r.1, ∃ q ∈ t.out.sent, q = .put mapSegmentationPath q.body)) = true := by decide +kernel
  obtain ⟨sent, hinit⟩ := init_segments twoRooms
  obtain ⟨ts, b, hrun, hp⟩ := Lts.exists_run_of_exec hexec
  obtain ⟨hselect, t, ht, q, hq, hbody⟩ := of_decide_eq_true hp
  obtain ⟨hstates, hselection⟩ := areas_addressed hinit hrun
  rw [hbody] at hq
  obtain ⟨ids, hparse, hnodup⟩ := (hselection hselect).2 t ht q.body hq
  exact ⟨ts, b, hrun, ⟨t, ht, q.body, ids, hq, hparse, hnodup⟩, (hstates (by decide +kernel) b hrun.last_mem).1⟩

/-- Different ids that read as the same number: the area 7 is listed twice, it can be selected twice, and only the first of the
two segments can be cleaned. -/
theorem areas_collide : (oddSegments.map (·.id)).Nodup ∧ ∃ sent ts b,
    Device.init (segmentAnswers oddSegments) zeroVersions () = .exit () sent (.done (segmentDevice oddSegments)) ∧
      Bridge.Run (.start (segmentDevice oddSegments)) ts b ∧
      (∃ areas, ServiceArea.supportedAreas b.device .readAll = .done (.list areas) ∧ ¬ (areas.map (·.areaId)).Nodup) ∧
      ¬ b.device.selectedAreas.Nodup ∧
      .put mapSegmentationPath (segmentActionBody ["\"07\"", "\"07\""]) ∈ ts.flatMap (·.out.sent) := by
  have hexec : (Lts.exec Bridge.step (.start (segmentDevice oddSegments))
      [.task (.call (.selectAreas (.ok [.ok 7, .ok 7]))), .task (.call (.changeRunMode (.ok 1)))]).any (fun r =>
        decide (¬ (r.2.device.areas.map (·.areaId)).Nodup ∧ ¬ r.2.device.selectedAreas.Nodup ∧
          .put mapSegmentationPath (segmentActionBody ["\"07\"", "\"07\""]) ∈ r.1.flatMap (·.out.sent))) = true := by
    decide +kernel
  obtain ⟨sent, hinit⟩ := init_segments oddSegments
  obtain ⟨ts, b, hrun, hp⟩ := Lts.exists_run_of_exec hexec
  obtain ⟨hareas, hselected, hsent⟩ := of_decide_eq_true hp
  exact ⟨by decide, sent, ts, b, hinit, hrun, ⟨b.device.areas, rfl, hareas⟩, hselected, hsent⟩

end ValetudoMatter
