import ValetudoMatter.Lemmas.Init
import ValetudoMatter.Lemmas.Replies

/-!
# Replies

No command is lost and none is answered twice, nor is a PUT (`replies_conserved`). A command fails for a reason of its own, or
with the error of its own PUT (`replies_right`). The process dies of one thing only (`process_dies`), and while it is alive every
command that waits can be brought to its end (`commands_can_end`).
-/

namespace ValetudoMatter

open Coroutine

/-! ## Conservation -/

/-- A pause that fails, a mode that there is not, a resumption that is not answered, and a mapping pass. -/
def failingLabels : List Label :=
  [.task (.call .pause), .task (.call (.changeRunMode (.ok 7))), .task (.answer 0 (.error (.msg "offline"))),
    .task (.call .resume), .task (.resume 0), .task (.call (.changeRunMode (.ok 2)))]

/-- Why a command fails. In every step of every run from the start: a command that is called is rejected with an error exactly
where `rejection?` says so of the device as it then is, and brings the process down exactly where it `Aborts`, and in both cases
changes nothing, notifies nobody and sends nothing; and a command that is resumed replies what it acknowledges if its own PUT was
answered with success, or else a failure with the details of that very answer, which leaves all but the identify time as it was,
and that too if the command is no identification. -/
theorem replies_right {d : Device} {ts : List Step} {b : Bridge} (h : Bridge.Run (.start d) ts b) :
    ∀ t ∈ ts,
      (∀ c, t.label = .task (.call c) →
        (∀ e, t.out.replied = some (c, .fail e) ↔ c.rejection? t.before.device = some e) ∧
        (t.out.replied = some (c, .abort) ↔ c.Aborts t.before.device) ∧
        ((c.rejection? t.before.device).isSome ∨ c.Aborts t.before.device →
          t.after.device = t.before.device ∧ t.out.notified = [] ∧ t.out.sent = [])) ∧
      ∀ i, t.label = .task (.resume i) → ∃ w, t.before.tasks.tasks[i]? = some w ∧
        (w.answer = some (.ok ()) ∧ t.out.replied = some (w.call, .done w.call.acknowledgement) ∨
          ∃ e, w.answer = some (.error e) ∧
            t.out.replied = some (w.call, .fail { code := .failure, details := some e }) ∧
            t.after.device = { t.before.device with identifyTime := t.after.device.identifyTime } ∧
            (w.call.identifies? = none → t.after.device = t.before.device ∧ t.out.notified = [])) := by
  intro t ht
  have hreplies := h.replies t ht
  refine ⟨?_, ?_⟩
  · intro c hc
    rw [hc] at hreplies
    obtain ⟨stop, hverdict, hsent, hreplied⟩ := hreplies
    have hrejected : ∀ e, t.out.replied = some (c, .fail e) ↔ c.rejection? t.before.device = some e := by
      intro e
      rw [hreplied, ← hverdict.rejected rfl]
      exact and_iff_right rfl
    have haborted : t.out.replied = some (c, .abort) ↔ c.Aborts t.before.device := by
      rw [hreplied, ← hverdict.aborted rfl]
      exact and_iff_right rfl
    refine ⟨hrejected, haborted, ?_⟩
    intro hdone
    obtain ⟨hdevice, hnotified⟩ := hverdict.quiet rfl hdone
    refine ⟨hdevice, hnotified, hsent.mpr ?_⟩
    rcases hdone with hrej | hab
    · obtain ⟨e, he⟩ := Option.isSome_iff_exists.mp hrej
      exact ⟨_, (hverdict.rejected rfl e).mpr he⟩
    · exact ⟨_, (hverdict.aborted rfl).mpr hab⟩
  · intro i hi
    rw [hi] at hreplies
    obtain ⟨w, res, hw, hres, hverdict, hreplied⟩ := hreplies
    refine ⟨w, hw, ?_⟩
    cases res with
    | ok _ => exact .inl ⟨hres, hreplied⟩
    | error e =>
      obtain ⟨hdevice, hquiet⟩ := hverdict.failed _ e rfl
      exact .inr ⟨e, hres, hreplied, hdevice, hquiet⟩

/-- The pause that fails carries the details of its answer. -/
theorem replies_right_failing : ∃ ts b t, Bridge.Run (.start mopAndVacuumDevice) ts b ∧ t ∈ ts ∧
    t.out.replied = some (.pause, .fail { code := .failure, details := some (.msg "offline") }) ∧
    t.after.device = t.before.device := by
  have hexec : (Lts.exec Bridge.step (.start mopAndVacuumDevice) failingLabels).any
      (fun r : List Step × Bridge => decide (∃ t ∈ r.1, t.label = .task (.resume 0) ∧
        t.out.replied = some (.pause, .fail { code := .failure, details := some (.msg "offline") }))) = true := by
    decide +kernel
  obtain ⟨ts, b, hrun, hp⟩ := Lts.exists_run_of_exec hexec
  obtain ⟨t, ht, hl, hreplied⟩ : ∃ t ∈ ts, t.label = .task (.resume 0) ∧
      t.out.replied = some (.pause, .fail { code := .failure, details := some (.msg "offline") }) := of_decide_eq_true hp
  refine ⟨ts, b, t, hrun, ht, hreplied, ?_⟩
  obtain ⟨w, -, ⟨-, hdone⟩ | ⟨e, -, hfail, -, hquiet⟩⟩ := (replies_right hrun t ht).2 0 hl
  · rw [hreplied] at hdone
    exact absurd (congrArg Prod.snd (Option.some.inj hdone)) nofun
  · rw [hreplied] at hfail
    have hcall : Command.pause = w.call := congrArg Prod.fst (Option.some.inj hfail)
    exact (hquiet (by rw [← hcall]; rfl)).1

/-! ## The end of the process -/

/-- A step of a program that is alive brings it down where it replies that it aborts. -/
theorem Bridge.step_alive {b b' : Bridge} {l : Label} {o : Out} (h : b.step l = some (b', o)) :
    b.tasks.alive ∧ (b'.tasks.alive = false ↔ ∃ c, o.replied = some (c, .abort)) := by
  cases l with
  | monitor ev =>
    simp only [step] at h
    split at h
    · rename_i halive
      obtain ⟨⟨d, m, o'⟩, hm, heq⟩ := Option.map_eq_some_iff.mp h
      cases heq
      exact ⟨halive, by simp [halive, monitorStep_replied hm]⟩
    · cases h
  | task e =>
    obtain ⟨⟨p, seg⟩, hp, heq⟩ := Option.map_eq_some_iff.mp h
    cases heq
    obtain ⟨halive, hdies⟩ := Pool.step_alive hp
    refine ⟨halive, hdies.trans ?_⟩
    rcases seg with _ | ⟨c, ns, x | r⟩
    · simp [Out.ofSegment]
    · simp [Out.ofSegment]
    · simp [Out.ofSegment]

/-- A step brings the process down where it calls a command that aborts, and only there. -/
theorem Bridge.Run.aborts {d : Device} {ts : List Step} {b : Bridge} (h : Bridge.Run (.start d) ts b) :
    ∀ t ∈ ts, (∃ c, t.out.replied = some (c, .abort)) ↔
      ∃ c, t.label = .task (.call c) ∧ c.Aborts t.before.device := by
  intro t ht
  have hreplies := h.replies t ht
  constructor
  · rintro ⟨c, hc⟩
    cases hl : t.label with
    | monitor ev =>
      rw [hl] at hreplies
      rw [show t.out.replied = none from hreplies] at hc
      cases hc
    | task e =>
      rw [hl] at hreplies
      cases e with
      | call c' =>
        obtain ⟨stop, hverdict, -, hreplied⟩ := hreplies
        obtain ⟨rfl, hstop⟩ := (hreplied c .abort).mp hc
        exact ⟨c, rfl, (hverdict.aborted rfl).mp hstop⟩
      | answer i res =>
        rw [show t.out.replied = none from hreplies] at hc
        cases hc
      | resume i =>
        obtain ⟨w, res, -, -, -, hreplied⟩ := hreplies
        rw [hreplied] at hc
        cases res <;> cases hc
  · rintro ⟨c, hl, hc⟩
    rw [hl] at hreplies
    obtain ⟨stop, hverdict, -, hreplied⟩ := hreplies
    exact ⟨c, (hreplied c .abort).mpr ⟨rfl, (hverdict.aborted rfl).mpr hc⟩⟩

/-- What the process dies of. In every run from the start the process is dead at the end exactly if the last step calls a command
that asks for a mapping pass while the robot is not known to be on one; no other command, no answer of the robot and no event
brings it down. And nothing happens after it: the process is alive before every step. -/
theorem process_dies {d : Device} {ts : List Step} {b : Bridge} (h : Bridge.Run (.start d) ts b) :
    (b.tasks.alive = false ↔ ∃ us t c, ts = us ++ [t] ∧ t.label = .task (.call c) ∧ c.Aborts t.before.device) ∧
      ∀ t ∈ ts, t.before.tasks.alive := by
  refine ⟨?_, fun t ht => (Bridge.step_alive (h.valid t ht)).1⟩
  constructor
  · intro hdead
    induction ts using List.reverseRecOn with
    | nil =>
      cases h
      cases hdead
    | append_singleton us t =>
      have ht : t ∈ us ++ [t] := by simp
      have hlast := h.of_append
      cases hlast
      obtain ⟨c, hl, hc⟩ := (h.aborts t ht).mp ((Bridge.step_alive (h.valid t ht)).2.mp hdead)
      exact ⟨us, t, c, rfl, hl, hc⟩
  · rintro ⟨us, t, c, rfl, hl, hc⟩
    have ht : t ∈ us ++ [t] := by simp
    have hlast := h.of_append
    cases hlast
    exact (Bridge.step_alive (h.valid t ht)).2.mpr ((h.aborts t ht).mpr ⟨c, hl, hc⟩)

/-- The mapping pass brings the process down. -/
theorem process_dies_failing : ∃ ts b, Bridge.Run (.start mopAndVacuumDevice) ts b ∧
    (∃ us t c, ts = us ++ [t] ∧ t.label = .task (.call c) ∧ c.Aborts t.before.device) ∧ ∀ t ∈ ts, t.before.tasks.alive := by
  have hexec : (Lts.exec Bridge.step (.start mopAndVacuumDevice) failingLabels).any
      (fun r : List Step × Bridge => decide (r.2.tasks.alive = false)) = true := by decide +kernel
  obtain ⟨ts, b, hrun, hp⟩ := Lts.exists_run_of_exec hexec
  obtain ⟨hdies, halive⟩ := process_dies hrun
  exact ⟨ts, b, hrun, hdies.mp (of_decide_eq_true hp), halive⟩

/-! ## Every command can end -/

/-- The first of the commands that wait, once it is answered, is resumed and ends. -/
theorem Bridge.Run.resume_first {d : Device} {ts : List Step} {b : Bridge} (h : Bridge.Run (.start d) ts b)
    (halive : b.tasks.alive) {w : CommandTask} {rest : List CommandTask} (htasks : b.tasks.tasks = w :: rest)
    {res : Except AnyhowError Unit} (hres : w.answer = some res) :
    ∃ b' o, b.step (.task (.resume 0)) = some (b', o) ∧ b'.tasks.tasks = rest ∧ b'.tasks.alive ∧ o.sent = [] ∧
      o.replied = some (w.call, report w.call.acknowledgement res) := by
  have hfirst : b.tasks.tasks[0]? = some w := by rw [htasks]; rfl
  obtain ⟨p', seg, hp⟩ := @Pool.step_resume _ _ _ _ _ _ _ dmHandler _ _ _ _ halive hfirst hres
  have hstep : b.step (.task (.resume 0)) = some ({ b with tasks := p' }, Out.ofSegment seg) := Bridge.task_step hp
  have hrun : Bridge.Run (.start d) (ts ++ [⟨b, .task (.resume 0), Out.ofSegment seg, { b with tasks := p' }⟩])
      { b with tasks := p' } := Lts.Run.append h (.single hstep)
  obtain ⟨w', res', hw', hres', -, hreplied⟩ := hrun.replies _ (List.mem_append_right ts List.mem_cons_self)
  obtain rfl : w = w' := Option.some.inj (hfirst.symm.trans hw')
  obtain rfl : res = res' := Option.some.inj (hres.symm.trans hres')
  obtain ⟨-, hsent, hrest, -⟩ := ((hrun.good (Bridge.good_start d)).2 _ (List.mem_append_right ts List.mem_cons_self)).2.2
  refine ⟨_, _, hstep, ?_, ?_, hsent, hreplied⟩
  · rw [hrest, htasks]
    rfl
  · by_contra hdead
    obtain ⟨c, hc⟩ := (Bridge.step_alive hstep).2.mp (by simpa using hdead)
    rw [show (Out.ofSegment seg).replied = _ from hreplied] at hc
    rcases res with e | _
    · cases hc
    · cases hc

/-- The first of the commands that wait can be answered with any result, and ends with it. -/
theorem Bridge.Run.end_first {d : Device} {ts : List Step} {b : Bridge} (h : Bridge.Run (.start d) ts b)
    (halive : b.tasks.alive) {w : CommandTask} {rest : List CommandTask} (htasks : b.tasks.tasks = w :: rest)
    (res : Except AnyhowError Unit) :
    ∃ us b', Bridge.Run b us b' ∧ us.length ≤ 2 ∧ b'.tasks.tasks = rest ∧ b'.tasks.alive ∧ us.flatMap (·.out.sent) = [] ∧
      us.filterMap (·.out.replied) = [(w.call, report w.call.acknowledgement (w.answer.getD res))] := by
  rcases hw : w.answer with _ | res'
  · have hfirst : b.tasks.tasks[0]? = some w := by rw [htasks]; rfl
    have hanswer : b.step (.task (.answer 0 res)) =
        some ({ b with tasks := { b.tasks with tasks := b.tasks.tasks.set 0 { w with answer := some res } } },
          ⟨[], [], none⟩) := Bridge.task_step (Pool.step_answer halive hfirst hw res)
    have hrun := Lts.Run.append h (.single hanswer)
    have hanswered : b.tasks.tasks.set 0 { w with answer := some res } = { w with answer := some res } :: rest := by
      rw [htasks]
      rfl
    obtain ⟨b', o, hstep, hrest, halive', hsent, hreplied⟩ := Bridge.Run.resume_first hrun halive hanswered rfl
    refine ⟨_, b', .cons hanswer (.single hstep), le_rfl, hrest, halive', ?_, ?_⟩
    · simp [hsent]
    · simp [hreplied]
  · obtain ⟨b', o, hstep, hrest, halive', hsent, hreplied⟩ := h.resume_first halive htasks hw
    refine ⟨_, b', .single hstep, by simp, hrest, halive', ?_, ?_⟩
    · simp [hsent]
    · simp [hreplied]

/-- Every command can end. From every state of every run from the start in which the process is alive, and for any results of the
PUTs that have not been answered: the answers and resumptions of the commands that wait, at most two steps for each, lead to a
state in which none waits and the process is alive; each is replied to as its PUT is answered, in the order in which they wait,
and no further request is sent. -/
theorem commands_can_end {d : Device} {ts : List Step} {b : Bridge} (h : Bridge.Run (.start d) ts b)
    (halive : b.tasks.alive) (results : CommandTask → Except AnyhowError Unit) :
    ∃ us b', Bridge.Run b us b' ∧ us.length ≤ 2 * b.tasks.tasks.length ∧ b'.tasks.tasks = [] ∧ b'.tasks.alive ∧
      us.flatMap (·.out.sent) = [] ∧ us.filterMap (·.out.replied) =
        b.tasks.tasks.map fun w => (w.call, report w.call.acknowledgement (w.answer.getD (results w))) := by
  generalize htasks : b.tasks.tasks = ws
  induction ws generalizing ts b with
  | nil => exact ⟨[], b, .nil b, by simp, htasks, halive, rfl, rfl⟩
  | cons w ws ih =>
    obtain ⟨us, m, hus, hlength, hrest, halive', hsent, hreplied⟩ := h.end_first halive htasks (results w)
    obtain ⟨vs, b', hvs, hlength', hnone, halive'', hsent', hreplied'⟩ := ih (Lts.Run.append h hus) halive' hrest
    refine ⟨us ++ vs, b', hus.append hvs, ?_, hnone, halive'', ?_, ?_⟩
    · rw [List.length_append, List.length_cons]
      omega
    · rw [List.flatMap_append, hsent, hsent']
      rfl
    · rw [List.filterMap_append, hreplied, hreplied']
      rfl

/-- A pause and a return that wait are both replied to. -/
theorem commands_can_end_two : ∃ ts b us b', Bridge.Run (.start mopAndVacuumDevice) ts b ∧ Bridge.Run b us b' ∧
    b'.tasks.tasks = [] ∧ (us.filterMap (·.out.replied)).map Prod.fst = [.pause, .goHome] := by
  have hexec : (Lts.exec Bridge.step (.start mopAndVacuumDevice) [.task (.call .pause), .task (.call .goHome)]).any
      (fun r : List Step × Bridge => decide (r.2.tasks.alive ∧ r.2.tasks.tasks.map (·.call) = [.pause, .goHome])) = true := by
    decide +kernel
  obtain ⟨ts, b, hrun, hp⟩ := Lts.exists_run_of_exec hexec
  obtain ⟨halive, hcalls⟩ : b.tasks.alive ∧ b.tasks.tasks.map (·.call) = [.pause, .goHome] := of_decide_eq_true hp
  obtain ⟨us, b', hus, -, hnone, -, -, hreplied⟩ := commands_can_end hrun halive fun _ => .ok ()
  refine ⟨ts, b, us, b', hrun, hus, hnone, ?_⟩
  rw [hreplied, List.map_map, ← hcalls]
  rfl

end ValetudoMatter
