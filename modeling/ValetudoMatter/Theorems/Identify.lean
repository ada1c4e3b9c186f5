import ValetudoMatter.Lemmas.Sounds

/-!
# Identification

The identify time is the guard of the test sound: a request that finds it at zero plays the sound, and the sound resets it when
it ends. It is never left over (`identify_never_stuck`). But any request writes it, and one of duration zero opens the guard
while the sound is in flight: the next one plays a second sound, and that is the only way to have two (`one_sound_iff`).
-/

namespace ValetudoMatter

open Coroutine

/-! ## Never stuck -/

/-- What a command sends it waits for. -/
theorem Command.Sends.awaits {c : Command} {d : Device} {r : HttpRequest} (h : c.Sends d r) :
    ∃ d' ns k, dmHandler c d = .await d' ns r k := by
  have hkeeps := dmHandler_keeps c d
  cases houtcome : dmHandler c d with
  | exit d' ns x =>
    rw [houtcome] at hkeeps
    exact absurd ((hkeeps.sends r).mpr ⟨rfl, h⟩) nofun
  | await d' ns r' k =>
    rw [houtcome] at hkeeps
    have hr : r' = r := Stop.await.inj ((hkeeps.1.sends r).mpr ⟨rfl, h⟩)
    exact ⟨d', ns, k, by rw [hr]⟩

/-- A step leaves a sound in flight where it leaves the time at another value than zero. -/
theorem SoundStep.held {b b' : Bridge} {l : Label} (h : SoundStep b l b') (hb : b.identifyTime ≠ 0 → 0 < b.sounds) :
    b'.identifyTime ≠ 0 → 0 < b'.sounds := by
  intro hne
  cases h with
  | other _ htime hsounds =>
    rw [hsounds]
    exact hb (htime ▸ hne)
  | plays _ _ _ hsounds => omega
  | @silent dur _ hplays htime hsounds =>
    rw [htime] at hne
    rw [hsounds]
    apply hb
    intro hzero
    -- the request was not for zero and found the time at zero: it must have played the sound
    by_cases hspeaker : Capability.speakerTestCapability ∈ b.device.capabilities
    · rw [if_neg (fun h => h.2 hspeaker)] at hne
      exact hplays ⟨hne, hzero, hspeaker⟩
    · rw [if_pos ⟨hzero, hspeaker⟩] at hne
      exact hne rfl
  | ends _ htime _ => exact absurd htime hne

/-- Identification never gets stuck. In every state of every run from `init`, with any number of concurrent requests of any
durations whose sounds end in any order, in success or in failure: the identify time is zero unless a test sound is in flight,
so where none is it reads zero, and on a robot with a speaker the next request of another duration plays the sound. -/
theorem identify_never_stuck {answers : Answers} {versions : Versions} {sent : List HttpRequest} {d : Device}
    (hinit : Device.init answers versions () = .exit () sent (.done d)) {ts : List Step} {b : Bridge}
    (hrun : Bridge.Run (.start d) ts b) :
    ∀ s ∈ Lts.visited (.start d) ts,
      (s.identifyTime ≠ 0 → 0 < s.sounds) ∧
        (s.sounds = 0 → s.identifyTime = 0 ∧
          ∀ c dur, c.identifies? = some dur → dur ≠ 0 → .speakerTestCapability ∈ s.device.capabilities →
            ∃ d' ns k, dmHandler c s.device = .await d' ns testSoundRequest k) := by
  have hd := Initialised.of_init hinit
  have hstart : (Bridge.start d).identifyTime ≠ 0 → 0 < (Bridge.start d).sounds := fun h => absurd hd.identifyTime h
  have hinv := hrun.invariant_visited (I := fun s => s.identifyTime ≠ 0 → 0 < s.sounds) hstart
    (fun t ht hbefore => (hd.soundStep hrun t ht).1.held hbefore)
  intro s hs
  have hheld : s.identifyTime ≠ 0 → 0 < s.sounds := hinv s hs
  refine ⟨hheld, ?_⟩
  intro hnone
  have hzero : s.identifyTime = 0 := by
    by_contra hne
    have := hheld hne
    omega
  refine ⟨hzero, ?_⟩
  intro c dur hc hdur hspeaker
  exact ((c.sends_iff_of_identifies hc).mpr ⟨⟨hdur, hzero, hspeaker⟩, rfl⟩).awaits

/-- Two requests overlap, and the sound fails: afterwards the time is zero, and the next request plays the sound. -/
theorem identify_after_overlap : ∃ ts b, Bridge.Run (.start roomDevice) ts b ∧
    (∃ s ∈ Lts.visited (.start roomDevice) ts, s.identifyTime = 5 ∧ 0 < s.sounds) ∧ b.identifyTime = 0 ∧
    ∃ d' ns k, dmHandler (.identify (.ok 7)) b.device = .await d' ns testSoundRequest k := by
  have hexec : (Lts.exec Bridge.step (.start roomDevice) [.task (.call (.identify (.ok 10))),
      .task (.call (.setIdentifyTime 5)), .task (.answer 0 (.error (.msg "timeout"))),
      .task (.resume 0)]).any (fun r : List Step × Bridge =>
        decide ((∃ s ∈ Lts.visited (Bridge.start roomDevice) r.1, s.identifyTime = 5) ∧ r.2.sounds = 0 ∧
          Capability.speakerTestCapability ∈ r.2.device.capabilities)) = true := by decide +kernel
  obtain ⟨sent, hinit⟩ := init_room
  obtain ⟨ts, b, hrun, hp⟩ := Lts.exists_run_of_exec hexec
  obtain ⟨⟨s, hs, htime⟩, hsounds, hspeaker⟩ := of_decide_eq_true hp
  have hstates := identify_never_stuck hinit hrun
  obtain ⟨hzero, hnext⟩ := (hstates b hrun.last_mem).2 hsounds
  refine ⟨ts, b, hrun, ⟨s, hs, htime, (hstates s hs).1 ?_⟩, hzero, hnext _ 7 rfl (by decide) hspeaker⟩
  rw [htime]
  decide

/-! ## Two sounds at once -/

/-- The last identification of a run was of duration zero, and a sound has been in flight from before it on. -/
def Cleared (ts : List Step) : Prop :=
  ∃ xs t ys, ts = xs ++ t :: ys ∧ t.label.identifies? = some 0 ∧ (∀ u ∈ ys, u.label.identifies? = none) ∧
    ∀ u ∈ t :: ys, 0 < u.before.sounds

/-- In a run, a request of another duration than zero is the next identification after one of duration zero, and the sound that
was in flight before that one still is. -/
def Reissued (ts : List Step) : Prop :=
  ∃ xs t ys, ts = xs ++ t :: ys ∧ Cleared xs ∧ 0 < t.before.sounds ∧ ∃ dur, t.label.identifies? = some dur ∧ dur ≠ 0

/-- The last step of a run clears the guard, or leaves it cleared. -/
theorem cleared_snoc {ts : List Step} {t : Step} :
    Cleared (ts ++ [t]) ↔
      0 < t.before.sounds ∧ (t.label.identifies? = some 0 ∨ (t.label.identifies? = none ∧ Cleared ts)) := by
  constructor
  · rintro ⟨xs, u, ys, h, hzero, hnone, hsounds⟩
    rcases List.eq_nil_or_concat ys with rfl | ⟨ys, v, rfl⟩
    · obtain ⟨rfl, hu⟩ := List.append_inj' h rfl
      cases hu
      exact ⟨hsounds t (by simp), .inl hzero⟩
    · have h' : ts ++ [t] = (xs ++ u :: ys) ++ [v] := by simpa using h
      obtain ⟨rfl, hv⟩ := List.append_inj' h' rfl
      cases hv
      refine ⟨hsounds t (by simp), .inr ⟨hnone t (by simp), xs, u, ys, rfl, hzero, ?_, ?_⟩⟩
      · exact fun w hw => hnone w (by simp [hw])
      · intro w hw
        apply hsounds w
        rcases List.mem_cons.mp hw with rfl | hw
        · simp
        · simp [hw]
  · rintro ⟨hsounds, hzero | ⟨hnone, xs, u, ys, rfl, hzero, hnone', hsounds'⟩⟩
    · exact ⟨ts, t, [], rfl, hzero, by simp, by simpa using hsounds⟩
    · refine ⟨xs, u, ys ++ [t], by simp, hzero, ?_, ?_⟩
      · intro w hw
        rcases List.mem_append.mp hw with hw | hw
        · exact hnone' w hw
        · rw [List.mem_singleton.mp hw]
          exact hnone
      · intro w hw
        rcases List.mem_append.mp (show w ∈ (u :: ys) ++ [t] from hw) with hw | hw
        · exact hsounds' w hw
        · rw [List.mem_singleton.mp hw]
          exact hsounds

/-- A run that is `Reissued` stays so when it goes on. -/
theorem Reissued.append {ts : List Step} (h : Reissued ts) (us : List Step) : Reissued (ts ++ us) := by
  obtain ⟨xs, t, ys, rfl, hrest⟩ := h
  exact ⟨xs, t, ys ++ us, by simp, hrest⟩

/-- As long as there has been at most one sound in flight: while there is one, the time is zero exactly when a request of
duration zero has cleared it. -/
theorem cleared_iff {answers : Answers} {d : Device} (hd : Initialised answers d)
    (hspeaker : .speakerTestCapability ∈ d.capabilities) {ts : List Step} {b : Bridge} (hrun : Bridge.Run (.start d) ts b)
    (hone : ∀ t ∈ ts, t.before.sounds ≤ 1) : 0 < b.sounds → (Cleared ts ↔ b.identifyTime = 0) := by
  revert hone
  refine hrun.history (P := fun ts b => (∀ t ∈ ts, t.before.sounds ≤ 1) → 0 < b.sounds →
    (Cleared ts ↔ b.identifyTime = 0)) ?_ ?_
  · intro _ hsounds
    simp [Bridge.sounds, Bridge.start] at hsounds
  · intro us t hus ih hone hsounds
    have hbefore := ih fun u hu => hone u (by simp [hu])
    obtain ⟨hstep, hcaps⟩ := hd.soundStep hus t (by simp)
    rw [cleared_snoc]
    cases hstep with
    | other hl htime hsame =>
      rw [hsame] at hsounds
      rw [htime, ← hbefore hsounds]
      simp [hl, hsounds]
    | @plays dur hl hplays htime _ => simp [hl, htime, hplays.1]
    | @silent dur hl _ htime hsame =>
      rw [hsame] at hsounds
      rw [hcaps, if_neg (fun h => h.2 hspeaker)] at htime
      simp [hl, htime, hsounds]
    | ends _ _ hfewer =>
      have := hone t (by simp)
      omega

/-- Identify requests overlap their sounds in this way only. On a robot with a speaker, in every run from `init`, with any
number of concurrent requests of any durations whose sounds end in any order, in success or in failure: at most one test sound
is in flight in all states, exactly when no request of another duration than zero is the next one after a request of duration
zero during the same sound. -/
theorem one_sound_iff {answers : Answers} {versions : Versions} {sent : List HttpRequest} {d : Device}
    (hinit : Device.init answers versions () = .exit () sent (.done d))
    (hspeaker : .speakerTestCapability ∈ d.capabilities) {ts : List Step} {b : Bridge}
    (hrun : Bridge.Run (.start d) ts b) :
    (∀ s ∈ Lts.visited (.start d) ts, s.sounds ≤ 1) ↔ ¬ Reissued ts := by
  have hd := Initialised.of_init hinit
  constructor
  · rintro hone ⟨xs, t, ys, rfl, hcleared, hsounds, dur, hl, hdur⟩
    have hmem : t ∈ xs ++ t :: ys := by simp
    have hbefore : ∀ u ∈ xs ++ t :: ys, u.before.sounds ≤ 1 := fun u hu => hone _ (hrun.before_mem hu)
    have hzero : t.before.identifyTime = 0 :=
      (cleared_iff hd hspeaker hrun.before (fun u hu => hbefore u (by simp [hu])) hsounds).mp hcleared
    obtain ⟨hstep, hcaps⟩ := hd.soundStep hrun t hmem
    have hplays : PlaysSound t.before.device dur := ⟨hdur, hzero, hcaps ▸ hspeaker⟩
    have hafter : t.after.sounds ≤ 1 := (Lts.forall_mem_visited (I := fun s => s.sounds ≤ 1)).mp hone |>.2 t hmem
    cases hstep with
    | other hl' => simp [hl] at hl'
    | plays _ _ _ hmore => omega
    | silent hl' hnot =>
      rw [hl] at hl'
      cases hl'
      exact hnot hplays
    | ends hl' => simp [hl] at hl'
  · refine hrun.history (P := fun ts _ => ¬ Reissued ts → ∀ s ∈ Lts.visited (.start d) ts, s.sounds ≤ 1) ?_ ?_
    · intro _ s hs
      rw [List.mem_singleton.mp hs]
      simp [Bridge.sounds, Bridge.start]
    · intro us t hus ih hnot
      have hstates := ih fun h => hnot (h.append [t])
      have hbefore : ∀ u ∈ us, u.before.sounds ≤ 1 := fun u hu => hstates _ (hus.before.before_mem hu)
      have hone : t.before.sounds ≤ 1 := hstates _ hus.before.last_mem
      have hafter : t.after.sounds ≤ 1 := by
        obtain ⟨hstep, -⟩ := hd.soundStep hus t (by simp)
        cases hstep with
        | other _ _ hsame => rwa [hsame]
        | @plays dur hl hplays _ hmore =>
          -- the time is zero: if a sound were in flight it would have been cleared
          have hnone : ¬ 0 < t.before.sounds := by
            intro hsounds
            have hcleared := (cleared_iff hd hspeaker hus.before hbefore hsounds).mpr hplays.2.1
            exact hnot ⟨us, t, [], rfl, hcleared, hsounds, dur, hl, hplays.1⟩
          omega
        | silent _ _ _ hsame => rwa [hsame]
        | ends _ _ hfewer => omega
      intro s hs
      rw [Lts.visited, List.map_append, ← List.cons_append] at hs
      rcases List.mem_append.mp hs with hs | hs
      · exact hstates s hs
      · rw [List.mem_singleton.mp hs]
        exact hafter

/-- A request of duration zero during the sound, and none until the sound is over: the next request finds no sound. -/
theorem one_sound_cleared : ∃ ts b, Bridge.Run (.start roomDevice) ts b ∧ (∃ t ∈ ts, t.label.identifies? = some 0) ∧
    0 < b.sounds ∧ (∀ s ∈ Lts.visited (.start roomDevice) ts, s.sounds ≤ 1) ∧ ¬ Reissued ts := by
  have hexec : (Lts.exec Bridge.step (.start roomDevice) [.task (.call (.identify (.ok 10))),
      .task (.call (.setIdentifyTime 0)), .task (.answer 0 (.ok ())), .task (.resume 0),
      .task (.call (.identify (.ok 5)))]).any (fun r : List Step × Bridge =>
        decide ((∃ t ∈ r.1, t.label.identifies? = some 0) ∧ 0 < r.2.sounds ∧
          ∀ s ∈ Lts.visited (Bridge.start roomDevice) r.1, s.sounds ≤ 1)) = true := by decide +kernel
  obtain ⟨sent, hinit⟩ := init_room
  obtain ⟨ts, b, hrun, hp⟩ := Lts.exists_run_of_exec hexec
  obtain ⟨hzero, hsounds, hone⟩ := of_decide_eq_true hp
  exact ⟨ts, b, hrun, hzero, hsounds, hone, (one_sound_iff hinit (by decide +kernel) hrun).mp hone⟩

/-- Three requests, for ten seconds, for zero, and for five: two test sounds are in flight. -/
theorem two_sounds : ∃ sent ts b, Device.init roomAnswers zeroVersions () = .exit () sent (.done roomDevice) ∧
    .speakerTestCapability ∈ roomDevice.capabilities ∧ Bridge.Run (.start roomDevice) ts b ∧ b.sounds = 2 := by
  have hexec : (Lts.exec Bridge.step (.start roomDevice) [.task (.call (.identify (.ok 10))),
      .task (.call (.setIdentifyTime 0)), .task (.call (.identify (.ok 5)))]).any (fun r : List Step × Bridge =>
        decide (r.2.sounds = 2)) = true := by decide +kernel
  obtain ⟨sent, hinit⟩ := init_room
  obtain ⟨ts, b, hrun, hp⟩ := Lts.exists_run_of_exec hexec
  exact ⟨sent, ts, b, hinit, by decide +kernel, hrun, of_decide_eq_true hp⟩

end ValetudoMatter
