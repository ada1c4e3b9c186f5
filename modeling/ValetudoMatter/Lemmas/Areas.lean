import ValetudoMatter.Lib.Json
import ValetudoMatter.Requests

/-!
# Areas and segments

An area id is a segment id read as a number. What can be read so needs no escape in a JSON string, so the body of a segment
clean is well-formed although its ids are put in without escaping (`parse_segmentActionBody`); and the ids put in are one for
each selected area as long as every area is one of the segments (`segmentIds_of_valid`).
-/

namespace ValetudoMatter

/-- The segment that an area stands for: the first that has its id. -/
def segmentOfArea (segments : List MapSegment) (areaId : UInt32) : Option MapSegment :=
  segments.find? fun s => segmentAreaId s = some areaId

/-- What a segment clean asks for. -/
def segmentAction (ids : List String) : Json :=
  .obj [("action", .str "start_segment_action"), ("segment_ids", .arr (ids.map .str)), ("iterations", .num 1 0)]

/-! ## Ids -/

/-- A string that reads as a number is made of digits, but for a plus sign. -/
theorem parseU32_chars {s : String} {n : UInt32} (h : parseU32 s = some n) : ∀ c ∈ s.toList, c = '+' ∨ c.isDigit := by
  intro c hc
  simp only [parseU32] at h
  split at h
  · rename_i cs hcs
    split at h
    · rename_i hdigits
      rw [hcs] at hc
      rcases List.mem_cons.mp hc with rfl | hc
      · exact .inl rfl
      · exact .inr (List.all_eq_true.mp hdigits.2 c hc)
    · cases h
  · split at h
    · rename_i hdigits
      exact .inr (List.all_eq_true.mp hdigits.2 c hc)
    · cases h

/-- It needs no escape. -/
theorem parseU32_plain {s : String} {n : UInt32} (h : parseU32 s = some n) : Json.Plain s := by
  intro c hc
  rcases parseU32_chars h c hc with rfl | hdigit
  · decide
  · have hne : ∀ c' : Char, c'.isDigit = false → c ≠ c' := by
      rintro c' hc' rfl
      rw [hdigit] at hc'
      cases hc'
    have hspace : 0x20 ≤ c.toNat := by
      simp only [Char.isDigit, Bool.and_eq_true, decide_eq_true_eq] at hdigit
      have : 48 ≤ c.toNat := hdigit.1
      omega
    simp [Json.isPlain, hne '"' rfl, hne '\\' rfl, hspace]

/-- A valid area stands for a segment. -/
theorem segmentOfArea_of_valid {segments : List MapSegment} {a : UInt32} (h : a ∈ segments.filterMap segmentAreaId) :
    ∃ s ∈ segments, segmentOfArea segments a = some s ∧ segmentAreaId s = some a := by
  obtain ⟨s, hs, ha⟩ := List.mem_filterMap.mp h
  cases hfind : segmentOfArea segments a with
  | none =>
    have := List.find?_eq_none.mp hfind s hs
    simp [ha] at this
  | some s' =>
    have hs' := List.find?_some hfind
    exact ⟨s', List.mem_of_find?_eq_some hfind, rfl, by simpa using hs'⟩

/-- Of a selection of valid areas no area is dropped: the ids are those of the segments the areas stand for, in their order. -/
theorem segmentIds_of_valid {segments : List MapSegment} {selected : List UInt32}
    (h : ∀ a ∈ selected, a ∈ segments.filterMap segmentAreaId) :
    ∃ ids : List String, segmentIds segments selected = ids.map (fun id => "\"" ++ id ++ "\"") ∧
      selected.map (fun a => (segmentOfArea segments a).map (·.id)) = ids.map some ∧
      ∀ id ∈ ids, Json.Plain id := by
  induction selected with
  | nil => exact ⟨[], rfl, rfl, by simp⟩
  | cons a selected ih =>
    obtain ⟨ids, hids, hmap, hplain⟩ := ih fun b hb => h b (List.mem_cons_of_mem _ hb)
    obtain ⟨s, -, hs, hparse⟩ := segmentOfArea_of_valid (h a (by simp))
    refine ⟨s.id :: ids, ?_, ?_, ?_⟩
    · have hfind : segments.find? (fun s => segmentAreaId s = some a) = some s := hs
      rw [segmentIds, List.filterMap_cons, hfind, List.map_cons, ← hids]
      rfl
    · rw [List.map_cons, hs, hmap]
      rfl
    · intro id hid
      rcases List.mem_cons.mp hid with rfl | hid
      · exact parseU32_plain hparse
      · exact hplain id hid

/-! ## Selections -/

/-- An element that a selection is left at: no segment has an id that reads as it, or it does not decode. -/
def Offends (d : Device) : Tlv UInt32 → Prop
  | .ok a => ∀ s ∈ d.segments, parseU32 s.id ≠ some a
  | .error _ => True

instance (d : Device) : DecidablePred (Offends d)
  | .ok a => inferInstanceAs (Decidable (∀ s ∈ d.segments, parseU32 s.id ≠ some a))
  | .error _ => .isTrue trivial

theorem not_offends_iff {d : Device} {a : UInt32} : ¬ Offends d (.ok a) ↔ a ∈ ServiceArea.validIds d := by
  simp [Offends, ServiceArea.validIds, segmentAreaId]

/-- The loop over the requested areas ends at the first that offends, or has collected them all. -/
theorem collectAreas_find (d : Device) (acc : List UInt32) (newAreas : List (Tlv UInt32)) :
    match newAreas.find? (Offends d ·) with
    | none => ∃ areas, newAreas = areas.map .ok ∧
        ServiceArea.collectAreas (ServiceArea.validIds d) acc newAreas = .areas (acc ++ areas)
    | some (.ok _) => ServiceArea.collectAreas (ServiceArea.validIds d) acc newAreas = .unknown
    | some (.error e) => ServiceArea.collectAreas (ServiceArea.validIds d) acc newAreas = .undecodable e := by
  induction newAreas generalizing acc with
  | nil => exact ⟨[], rfl, by simp [ServiceArea.collectAreas]⟩
  | cons area rest ih =>
    by_cases hoffends : Offends d area
    · rw [List.find?_cons_of_pos (by simpa using hoffends)]
      cases area with
      | error e => rfl
      | ok a =>
        have ha : a ∉ ServiceArea.validIds d := fun h => not_offends_iff.mpr h hoffends
        simp [ServiceArea.collectAreas, ha]
    · rw [List.find?_cons_of_neg (by simpa using hoffends)]
      cases area with
      | error e => exact absurd trivial hoffends
      | ok a =>
        have hstep : ServiceArea.collectAreas (ServiceArea.validIds d) acc (.ok a :: rest) =
            ServiceArea.collectAreas (ServiceArea.validIds d) (acc ++ [a]) rest := by
          simp [ServiceArea.collectAreas, not_offends_iff.mp hoffends]
        have hrest := ih (acc ++ [a])
        rw [hstep]
        split
        · rename_i hfind
          rw [hfind] at hrest
          obtain ⟨areas, rfl, hareas⟩ := hrest
          exact ⟨a :: areas, rfl, by rw [hareas]; simp⟩
        · rename_i hfind
          rw [hfind] at hrest
          exact hrest
        · rename_i hfind
          rw [hfind] at hrest
          exact hrest

/-! ## The body -/

/-- The members of the body of a segment clean. -/
def segmentActionMembers (ids : List String) : List Json.Member :=
  [⟨"action", .str "start_segment_action", Json.quoted "start_segment_action"⟩,
    ⟨"segment_ids", .arr (ids.map .str), '[' :: Json.commaSep (ids.map Json.quoted) ++ [']']⟩,
    ⟨"iterations", .num 1 0, ['1']⟩]

theorem segmentActionMembers_reads {ids : List String} (h : ∀ id ∈ ids, Json.Plain id) :
    ∀ m ∈ segmentActionMembers ids, m.Reads := by
  intro m hm
  simp only [segmentActionMembers, List.mem_cons, List.not_mem_nil, or_false] at hm
  rcases hm with rfl | rfl | rfl
  · exact ⟨by simp [Json.Plain, Json.isPlain], Json.reads_str (by simp [Json.Plain, Json.isPlain])⟩
  · exact ⟨by simp [Json.Plain, Json.isPlain], Json.reads_strings h⟩
  · exact ⟨by simp [Json.Plain, Json.isPlain], Json.reads_nat (by simp) (by decide)⟩

theorem toList_segmentActionBody (ids : List String) :
    (segmentActionBody (ids.map fun id => "\"" ++ id ++ "\"")).toList =
      '\x7b' :: Json.membersText (segmentActionMembers ids) ++ ['\x7d'] := by
  have hids : (ids.map fun id => "\"" ++ id ++ "\"").map String.toList = ids.map Json.quoted := by
    simp [Json.quoted]
  have hbefore : "\x7b\"action\": \"start_segment_action\", \"segment_ids\": [".toList =
      '\x7b' :: (Json.quoted "action" ++ ':' :: ' ' :: (Json.quoted "start_segment_action" ++ ',' :: ' ' ::
        (Json.quoted "segment_ids" ++ [':', ' ', '[']))) := by
    simp [Json.quoted]
  have hafter : "], \"iterations\": 1\x7d".toList =
      [']', ',', ' '] ++ Json.quoted "iterations" ++ [':', ' ', '1', '\x7d'] := by
    simp [Json.quoted]
  unfold segmentActionBody
  rw [String.toList_append, String.toList_append, Json.toList_commaSep, hids, hbefore, hafter]
  simp [segmentActionMembers, Json.membersText]

/-- The body of a segment clean is read as the action on these ids. -/
theorem parse_segmentActionBody {ids : List String} (h : ∀ id ∈ ids, Json.Plain id) :
    Json.parse (segmentActionBody (ids.map fun id => "\"" ++ id ++ "\"")) = some (segmentAction ids) := by
  apply Json.parse_of_reads
  rw [toList_segmentActionBody]
  exact Json.reads_obj (segmentActionMembers_reads h)

end ValetudoMatter
