import Mathlib.Data.List.Perm.Basic
import ValetudoMatter.Lemmas.Writes
import ValetudoMatter.Theorems.Capabilities

/-!
# Test sounds in flight

A test sound is in flight from the call of its PUT until that call returns, which is when the command that waits for it is
resumed. `SoundStep` says what one step does to the number of them and to the identify time; everything about identification
over whole runs follows from it.
-/

namespace ValetudoMatter

open Coroutine

/-- The number of test sounds in flight. -/
def Bridge.sounds (b : Bridge) : Nat := (b.tasks.tasks.map (·.request)).count testSoundRequest

/-- The identify time, as it is read. -/
abbrev Bridge.identifyTime (b : Bridge) : UInt16 := Identify.identifyTime b.device

/-- The duration of the identification that a step calls, if it calls one. -/
def Label.identifies? : Label → Option UInt16
  | .task (.call c) => c.identifies?
  | .task (.answer _ _) | .task (.resume _) | .monitor _ => none

/-- What a step does to the sounds in flight and to the identify time. -/
inductive SoundStep (b : Bridge) (l : Label) (b' : Bridge) : Prop where
  | other (hl : l.identifies? = none) (htime : b'.identifyTime = b.identifyTime) (hsounds : b'.sounds = b.sounds)
  | plays {dur : UInt16} (hl : l.identifies? = some dur) (hplays : PlaysSound b.device dur) (htime : b'.identifyTime = dur)
      (hsounds : b'.sounds = b.sounds + 1)
  | silent {dur : UInt16} (hl : l.identifies? = some dur) (hplays : ¬ PlaysSound b.device dur)
      (htime : b'.identifyTime =
        if b.identifyTime = 0 ∧ .speakerTestCapability ∉ b.device.capabilities then 0 else dur)
      (hsounds : b'.sounds = b.sounds)
  | ends (hl : l.identifies? = none) (htime : b'.identifyTime = 0) (hsounds : b.sounds = b'.sounds + 1)

/-! ## Requests -/

/-- A command sends the test sound exactly when it is an identification. -/
theorem Command.Sends.eq_testSound_iff {c : Command} {d : Device} {r : HttpRequest} (h : c.Sends d r) :
    r = testSoundRequest ↔ c.identifies? ≠ none := by
  rcases h.cases with ⟨dur, hc, -, hr⟩ | ⟨hc, hr⟩
  · exact iff_of_true hr (by simp [hc])
  · refine iff_of_false ?_ (by simp [hc])
    have hne : ∀ r : HttpRequest, r.path ≠ speakerTestPath → r ≠ testSoundRequest := by
      rintro r hpath rfl
      exact hpath rfl
    rcases hr with rfl | rfl | rfl | rfl | ⟨p, rfl⟩
    · apply hne
      unfold startRequest
      split
      · exact show basicControlPath ≠ speakerTestPath by decide +kernel
      · exact show mapSegmentationPath ≠ speakerTestPath by decide +kernel
    · exact hne _ (by decide +kernel)
    · exact hne _ (by decide +kernel)
    · exact hne _ (by decide +kernel)
    · exact hne _ (show presetPath ≠ speakerTestPath by decide +kernel)

/-- An identification sends the test sound exactly when it plays it, and nothing else. -/
theorem Command.sends_iff_of_identifies {c : Command} {dur : UInt16} (hc : c.identifies? = some dur) {d : Device}
    {r : HttpRequest} : c.Sends d r ↔ PlaysSound d dur ∧ r = testSoundRequest := by
  constructor
  · intro h
    rcases h.cases with ⟨dur', hdur', hplays, hr⟩ | ⟨hnone, -⟩
    · rw [hc] at hdur'
      cases hdur'
      exact ⟨hplays, hr⟩
    · rw [hc] at hnone
      cases hnone
  · intro h
    unfold Command.identifies? at hc
    split at hc <;> cases hc
    · exact h
    · exact h

/-! ## The tasks -/

theorem count_append_task (ts : List CommandTask) (t : CommandTask) :
    ((ts ++ [t]).map (·.request)).count testSoundRequest =
      (ts.map (·.request)).count testSoundRequest + if t.request = testSoundRequest then 1 else 0 := by
  rw [List.map_append, List.count_append, List.map_singleton, List.count_singleton]
  simp

/-- An answer leaves the requests as they are. -/
theorem requests_set {ts : List CommandTask} {i : Nat} {t : CommandTask} (ht : ts[i]? = some t)
    (res : Option (Except AnyhowError Unit)) :
    (ts.set i { t with answer := res }).map (·.request) = ts.map (·.request) := by
  obtain ⟨hi, rfl⟩ := List.getElem?_eq_some_iff.mp ht
  rw [List.map_set]
  have hi' : i < (ts.map (·.request)).length := by simpa using hi
  have hget : ts[i].request = (ts.map (·.request))[i] := by simp
  rw [hget, List.set_getElem_self]

theorem count_eraseIdx_task {ts : List CommandTask} {i : Nat} {t : CommandTask} (ht : ts[i]? = some t) :
    (ts.map (·.request)).count testSoundRequest =
      ((ts.eraseIdx i).map (·.request)).count testSoundRequest + if t.request = testSoundRequest then 1 else 0 := by
  obtain ⟨hi, rfl⟩ := List.getElem?_eq_some_iff.mp ht
  have hperm := ((List.getElem_cons_eraseIdx_perm hi).map (·.request)).count_eq testSoundRequest
  rw [← hperm, List.map_cons, List.count_cons]
  simp

/-! ## Steps -/

/-- A call. -/
theorem soundStep_call {b b' : Bridge} {c : Command} {ns ns' : List Notification}
    {stop stop' : Stop HttpRequest MatterError Reply}
    (heff : Effect c .call b.device b'.device ns stop) (hw : Writes c .call b.device b'.device ns' stop')
    (htasks : TasksAfter b.tasks.tasks c stop b'.tasks.tasks) : SoundStep b (.task (.call c)) b' := by
  have htime : b'.identifyTime = c.timeAfter .call b.device := hw.identifyTime
  cases hc : c.identifies? with
  | none =>
    simp only [Command.timeAfter, hc] at htime
    refine .other hc htime ?_
    cases stop with
    | exit x =>
      unfold Bridge.sounds
      rw [show b'.tasks.tasks = b.tasks.tasks from htasks]
    | await r =>
      obtain ⟨k, hk⟩ := htasks
      have hr : r ≠ testSoundRequest := fun h => ((heff.sends r).mp rfl).2.eq_testSound_iff.mp h hc
      unfold Bridge.sounds
      rw [hk, count_append_task, if_neg hr, Nat.add_zero]
  | some dur =>
    simp only [Command.timeAfter, hc] at htime
    by_cases hplays : PlaysSound b.device dur
    · have hsends : c.Sends b.device testSoundRequest := (c.sends_iff_of_identifies hc).mpr ⟨hplays, rfl⟩
      have hstop := (heff.sends testSoundRequest).mpr ⟨rfl, hsends⟩
      subst hstop
      obtain ⟨k, hk⟩ := htasks
      refine .plays hc hplays ?_ ?_
      · rw [htime, if_neg (fun h => h.2 hplays.2.2)]
      · unfold Bridge.sounds
        rw [hk, count_append_task, if_pos rfl]
    · cases stop with
      | exit x =>
        refine .silent hc hplays htime ?_
        unfold Bridge.sounds
        rw [show b'.tasks.tasks = b.tasks.tasks from htasks]
      | await r =>
        have hsends := ((heff.sends r).mp rfl).2
        exact absurd ((c.sends_iff_of_identifies hc).mp hsends).1 hplays

/-- A command that is resumed has ended its sound, if it is an identification. -/
theorem soundStep_resume {b b' : Bridge} {i : Nat} {t : CommandTask} {res : Except AnyhowError Unit}
    {ns : List Notification} {stop : Stop HttpRequest MatterError Reply} (ht : b.tasks.tasks[i]? = some t)
    (hsends : ∃ d₀, t.call.Sends d₀ t.request) (hw : Writes t.call (.answer t.request res) b.device b'.device ns stop)
    (htasks : b'.tasks.tasks = b.tasks.tasks.eraseIdx i) : SoundStep b (.task (.resume i)) b' := by
  obtain ⟨d₀, hsends⟩ := hsends
  have htime : b'.identifyTime = t.call.timeAfter (.answer t.request res) b.device := hw.identifyTime
  have hcount := count_eraseIdx_task ht
  rw [← htasks] at hcount
  cases hc : t.call.identifies? with
  | none =>
    simp only [Command.timeAfter, hc] at htime
    have hr : t.request ≠ testSoundRequest := fun h => hsends.eq_testSound_iff.mp h hc
    rw [if_neg hr, Nat.add_zero] at hcount
    exact .other rfl htime hcount.symm
  | some dur =>
    simp only [Command.timeAfter, hc] at htime
    rw [if_pos (hsends.eq_testSound_iff.mpr (by simp [hc]))] at hcount
    exact .ends rfl htime hcount

/-- A step does to the sounds and the time what `SoundStep` says. -/
theorem Bridge.StepDoes.soundStep {b b' : Bridge} {l : Label} {o : Out} (h : b.StepDoes l b' o)
    (hw : b.SegmentMeets Writes l b' o) (hb : b.Good) : SoundStep b l b' := by
  cases l with
  | task e =>
    cases e with
    | call c =>
      obtain ⟨-, stop, heff, htasks, -⟩ := h
      obtain ⟨ns', stop', -, hw⟩ := hw
      exact soundStep_call heff hw htasks
    | answer i res =>
      obtain ⟨-, hd, -, t, ht, -, htasks⟩ := h
      refine .other rfl ?_ ?_
      · rw [Bridge.identifyTime, hd]
      · unfold Bridge.sounds
        rw [htasks, requests_set ht]
    | resume i =>
      obtain ⟨-, -, htasks, -⟩ := h
      obtain ⟨t, res, ns, stop, ht, -, -, hw⟩ := hw
      obtain ⟨d₀, -, hsends⟩ := (hb t (List.mem_of_getElem? ht)).sent
      exact soundStep_resume ht ⟨d₀, hsends⟩ hw htasks
  | monitor ev =>
    refine .other rfl ?_ ?_
    · rcases monitorStep_effect h.1 with ⟨hd, -⟩ | ⟨attrs, -, hd, -⟩
      · rw [Bridge.identifyTime, hd]
      · rw [Bridge.identifyTime, Identify.identifyTime, hd, (apply_effect _ _).identifyTime]
        rfl
    · unfold Bridge.sounds
      rw [h.2]

/-- Every step of a run from `init` is one, of the robot that `init` has found. -/
theorem Initialised.soundStep {answers : Answers} {d : Device} (hd : Initialised answers d) {ts : List Step} {b : Bridge}
    (h : Bridge.Run (.start d) ts b) :
    ∀ t ∈ ts, SoundStep t.before t.label t.after ∧ t.before.device.capabilities = d.capabilities := by
  intro t ht
  obtain ⟨hbefore, -, hdoes⟩ := (h.good (Bridge.good_start d)).2 t ht
  exact ⟨hdoes.soundStep (h.segments dmHandler_writes t ht) hbefore, (hd.run h t ht).2.1.capabilities⟩

end ValetudoMatter
