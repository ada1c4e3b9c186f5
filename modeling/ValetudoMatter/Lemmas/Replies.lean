import ValetudoMatter.Lib.Balance
import ValetudoMatter.Lemmas.Areas
import ValetudoMatter.Lemmas.Writes

/-!
# How a command ends

A command is rejected, or aborts, only when it is called, and then it has done nothing; one that has sent its PUT ends as that is
answered (`Verdict`, `dmHandler_verdict`). What a step replies is how the segment that it runs has ended (`Bridge.Run.replies`),
and what waits balances with what is called and replied (`Bridge.step_balance`).
-/

namespace ValetudoMatter

open Coroutine

/-! ## Verdicts -/

/-- The mode that a run-mode command asks for. -/
def Command.runMode? : Command → Option RunMode
  | .changeRunMode (.ok b) => RunMode.tryFrom b
  | .changeRunMode (.error _) | .identify _ | .setIdentifyTime _ | .triggerEffect | .changeCleanMode _ | .pause | .resume
  | .goHome | .selectAreas _ | .skipArea => none

/-- The error that a command is rejected with, if it is: a field that does not decode, a mode that there is not or that the robot
does not have, an area that does not decode and comes before all unknown ones, a command that is not supported. -/
def Command.rejection? (c : Command) (d : Device) : Option MatterError :=
  match c with
  | .identify (.error e) | .changeRunMode (.error e) | .changeCleanMode (.error e) | .selectAreas (.error e) => some e
  | .triggerEffect => some (.new .invalidCommand)
  | .changeRunMode (.ok _) => if c.runMode? = none then some (.new .constraintError) else none
  | .changeCleanMode (.ok _) =>
    if ∃ preset ∈ c.cleanPreset?, preset ∈ d.cleaningPresets then none else some (.new .constraintError)
  | .selectAreas (.ok areas) =>
    match areas.find? (Offends d ·) with
    | some (.error e) => some e
    | some (.ok _) => none
    | none => none
  | .identify (.ok _) | .setIdentifyTime _ | .pause | .resume | .goHome | .skipArea => none

/-- A command brings the process down: it asks for a mapping pass, and the robot is not on one as far as is known. -/
def Command.Aborts (c : Command) (d : Device) : Prop :=
  c.runMode? = some .mapping ∧ RunMode.ofDeviceState d.currentState.inner ≠ .mapping

/-- What a command replies that has sent a PUT, and succeeded. -/
def Command.acknowledgement : Command → Reply
  | .identify _ | .setIdentifyTime _ | .triggerEffect => .unit
  | .changeRunMode _ | .changeCleanMode _ => .changeToMode .success
  | .pause | .resume | .goHome => .operational .ok
  | .selectAreas _ => .selectAreas ⟨.success, ""⟩
  | .skipArea => .skipArea ⟨.invalidInMode, "Not supported"⟩

/-- How one segment of a command ends, if it does. -/
structure Verdict (c : Command) (cause : Cause HttpRequest (Except AnyhowError Unit)) (d d' : Device)
    (ns : List Notification) (stop : Stop HttpRequest MatterError Reply) : Prop where
  rejected : cause = .call → ∀ e, stop = .exit (.fail e) ↔ c.rejection? d = some e
  aborted : cause = .call → (stop = .exit .abort ↔ c.Aborts d)
  quiet : cause = .call → (c.rejection? d).isSome ∨ c.Aborts d → d' = d ∧ ns = []
  answered : ∀ r res, cause = .answer r res → stop = .exit (report c.acknowledgement res)
  failed : ∀ r e, cause = .answer r (.error e) →
    d' = { d with identifyTime := d'.identifyTime } ∧ (c.identifies? = none → d' = d ∧ ns = [])

/-- A command that cannot be rejected when it is called and then ends or waits. -/
theorem Verdict.going {c : Command} {d d' : Device} {ns : List Notification} {stop : Stop HttpRequest MatterError Reply}
    (hc : c.rejection? d = none) (ha : ¬ c.Aborts d) (hfail : ∀ e, stop ≠ .exit (.fail e)) (habort : stop ≠ .exit .abort) :
    Verdict c .call d d' ns stop where
  rejected := fun _ e => by simp [hc, hfail]
  aborted := fun _ => by simp [ha, habort]
  quiet := fun _ h => by simp [hc, ha] at h
  answered := nofun
  failed := nofun

/-- A command that is rejected. -/
theorem Verdict.refuse {c : Command} {d : Device} {e : MatterError} (hc : c.rejection? d = some e) (ha : ¬ c.Aborts d) :
    Verdict c .call d d [] (.exit (.fail e)) where
  rejected := fun _ e' => by simp [hc]
  aborted := fun _ => by simp [ha]
  quiet := fun _ _ => ⟨rfl, rfl⟩
  answered := nofun
  failed := nofun

/-- A command that ends as its PUT is answered, and leaves all but the identify time as it is where that has failed. -/
theorem Verdict.report {c : Command} {d d' : Device} {ns : List Notification} {r : HttpRequest}
    {res : Except AnyhowError Unit} {stop : Stop HttpRequest MatterError Reply}
    (hstop : stop = .exit (ValetudoMatter.report c.acknowledgement res))
    (hfailed : ∀ e, res = .error e →
      d' = { d with identifyTime := d'.identifyTime } ∧ (c.identifies? = none → d' = d ∧ ns = [])) :
    Verdict c (.answer r res) d d' ns stop where
  rejected := nofun
  aborted := nofun
  quiet := nofun
  answered := by
    rintro r' res' h
    cases h
    exact hstop
  failed := by
    rintro r' e h
    cases h
    exact hfailed e rfl

/-! ## Every command -/

theorem sendAndReport_verdict {c : Command} {d : Device} (r : HttpRequest) (hc : c.rejection? d = none) (ha : ¬ c.Aborts d) :
    (sendAndReport d r c.acknowledgement).Keeps (Verdict c) .call d :=
  ⟨.going hc ha nofun nofun, fun _ _ => .report rfl fun _ _ => ⟨rfl, fun _ => ⟨rfl, rfl⟩⟩⟩

/-- An identification, by a command or by a write. -/
theorem identify_verdict {c : Command} {dur : UInt16} (hc : ∀ d, c.rejection? d = none) (ha : ∀ d, ¬ c.Aborts d)
    (hident : c.identifies? = some dur) (hack : c.acknowledgement = .unit) (d : Device) :
    ((do Device.identifyRobot (ctx .identify) dur; return .unit : Handler Reply) d).Keeps (Verdict c) .call d := by
  rw [Co.bind_apply, identifyRobot_eq]
  by_cases hactive : dur = 0 ∨ d.identifyTime.inner ≠ 0
  · simp only [hactive, if_true]
    exact .going (hc d) (ha d) nofun nofun
  · by_cases hspeaker : Capability.speakerTestCapability ∈ d.capabilities
    · simp only [hactive, hspeaker, if_true, if_false]
      refine ⟨.going (hc d) (ha d) nofun nofun, ?_⟩
      intro res d'
      cases res with
      | ok _ => exact .report (by rw [hack]; rfl) nofun
      | error e => exact .report (by rw [hack]; rfl) fun _ _ => ⟨rfl, fun h => by rw [hident] at h; cases h⟩
    · simp only [hactive, hspeaker, if_false]
      exact .going (hc d) (ha d) nofun nofun

/-- A run-mode command. -/
theorem changeRunMode_verdict (b : UInt8) (d : Device) :
    (dmHandler (.changeRunMode (.ok b)) d).Keeps (Verdict (.changeRunMode (.ok b))) .call d := by
  rw [changeRunMode_eq]
  split
  · rename_i hb
    exact .refuse (by simp [Command.rejection?, Command.runMode?, hb]) (by simp [Command.Aborts, Command.runMode?, hb])
  · rename_i m hb
    have hc : (Command.changeRunMode (.ok b)).rejection? d = none := by simp [Command.rejection?, Command.runMode?, hb]
    split
    · rename_i hm
      have ha : ¬ (Command.changeRunMode (.ok b)).Aborts d := by
        rintro ⟨hmode, hne⟩
        rw [Command.runMode?, hb] at hmode
        cases hmode
        exact hne hm.symm
      exact .going hc ha nofun nofun
    · rename_i hm
      cases m with
      | idle => exact sendAndReport_verdict _ hc (by simp [Command.Aborts, Command.runMode?, hb])
      | cleaning => exact sendAndReport_verdict _ hc (by simp [Command.Aborts, Command.runMode?, hb])
      | mapping =>
        have ha : (Command.changeRunMode (.ok b)).Aborts d := ⟨hb, Ne.symm hm⟩
        exact ⟨fun _ e => by simp [hc], fun _ => by simp [ha], fun _ _ => ⟨rfl, rfl⟩, nofun, nofun⟩

/-- A clean-mode command. -/
theorem changeCleanMode_verdict (b : UInt8) (d : Device) :
    (dmHandler (.changeCleanMode (.ok b)) d).Keeps (Verdict (.changeCleanMode (.ok b))) .call d := by
  have ha : ¬ (Command.changeCleanMode (.ok b)).Aborts d := by simp [Command.Aborts, Command.runMode?]
  rw [changeCleanMode_eq]
  split
  · rename_i hb
    exact .refuse (by simp [Command.rejection?, Command.cleanPreset?, hb]) ha
  · rename_i m hb
    split
    · rename_i hm
      refine ⟨.going (by simp [Command.rejection?, Command.cleanPreset?, hb, hm]) ha (by simp) (by simp), ?_⟩
      intro res d'
      cases res with
      | ok _ => exact .report rfl (by simp)
      | error e => exact .report rfl fun _ _ => ⟨rfl, fun _ => ⟨rfl, rfl⟩⟩
    · rename_i hm
      exact .refuse (by simp [Command.rejection?, Command.cleanPreset?, hb, hm]) ha

/-- A selection. -/
theorem selectAreas_verdict (areas : List (Tlv UInt32)) (d : Device) :
    (dmHandler (.selectAreas (.ok areas)) d).Keeps (Verdict (.selectAreas (.ok areas))) .call d := by
  have ha : ¬ (Command.selectAreas (.ok areas)).Aborts d := by simp [Command.Aborts, Command.runMode?]
  have hfind := collectAreas_find d [] areas
  rw [selectAreas_eq]
  cases hfirst : areas.find? (Offends d ·) with
  | none =>
    rw [hfirst] at hfind
    obtain ⟨new, -, hnew⟩ := hfind
    rw [hnew]
    exact .going (by simp [Command.rejection?, hfirst]) ha nofun nofun
  | some area =>
    rw [hfirst] at hfind
    cases area with
    | ok a =>
      rw [hfind]
      exact .going (by simp [Command.rejection?, hfirst]) ha nofun nofun
    | error e =>
      rw [hfind]
      exact .refuse (by simp [Command.rejection?, hfirst]) ha

/-- Every command ends as it should. -/
theorem dmHandler_verdict (c : Command) (d : Device) : (dmHandler c d).Keeps (Verdict c) .call d := by
  cases c with
  | identify time =>
    cases time with
    | error e => exact .refuse rfl (by simp [Command.Aborts, Command.runMode?])
    | ok dur =>
      have hident : dmHandler (.identify (.ok dur)) = do Device.identifyRobot (ctx .identify) dur; return .unit := by
        funext d
        simp [dmHandler, Identify.handleIdentify]
      rw [hident]
      exact identify_verdict (fun _ => rfl) (fun _ => by simp [Command.Aborts, Command.runMode?]) rfl rfl d
  | setIdentifyTime dur => exact identify_verdict (fun _ => rfl) (fun _ => by simp [Command.Aborts, Command.runMode?]) rfl rfl d
  | triggerEffect => exact .refuse rfl (by simp [Command.Aborts, Command.runMode?])
  | changeRunMode mode =>
    cases mode with
    | error e => exact .refuse rfl (by simp [Command.Aborts, Command.runMode?])
    | ok b => exact changeRunMode_verdict b d
  | changeCleanMode mode =>
    cases mode with
    | error e => exact .refuse rfl (by simp [Command.Aborts, Command.runMode?])
    | ok b => exact changeCleanMode_verdict b d
  | pause =>
    rw [pause_eq]
    exact sendAndReport_verdict (c := .pause) _ rfl (by simp [Command.Aborts, Command.runMode?])
  | resume =>
    rw [resume_eq]
    exact sendAndReport_verdict (c := .resume) _ rfl (by simp [Command.Aborts, Command.runMode?])
  | goHome =>
    rw [goHome_eq]
    exact sendAndReport_verdict (c := .goHome) _ rfl (by simp [Command.Aborts, Command.runMode?])
  | selectAreas newAreas =>
    cases newAreas with
    | error e => exact .refuse rfl (by simp [Command.Aborts, Command.runMode?])
    | ok areas => exact selectAreas_verdict areas d
  | skipArea => exact .going rfl (by simp [Command.Aborts, Command.runMode?]) (by simp) (by simp)

/-! ## What a step replies -/

/-- What a step replies, by its label: how the segment has ended that it runs, of the command that is called or resumed. -/
def Bridge.StepReplies (b : Bridge) (l : Label) (b' : Bridge) (o : Out) : Prop :=
  match l with
  | .task (.call c) => ∃ stop, Verdict c .call b.device b'.device o.notified stop ∧
      (o.sent = [] ↔ ∃ x, stop = .exit x) ∧ ∀ c' x, o.replied = some (c', x) ↔ c' = c ∧ stop = .exit x
  | .task (.resume i) => ∃ t res, b.tasks.tasks[i]? = some t ∧ t.answer = some res ∧
      Verdict t.call (.answer t.request res) b.device b'.device o.notified (.exit (report t.call.acknowledgement res)) ∧
      o.replied = some (t.call, report t.call.acknowledgement res)
  | .task (.answer _ _) => o.replied = none
  | .monitor _ => o.replied = none

theorem ofSegment_replied (c c' : Command) (ns : List Notification) (stop : Stop HttpRequest MatterError Reply)
    (x : Exit MatterError Reply) :
    (Out.ofSegment (some ⟨c, ns, stop⟩)).replied = some (c', x) ↔ c' = c ∧ stop = .exit x := by
  cases stop with
  | await r => simp [Out.ofSegment]
  | exit y =>
    simp only [Out.ofSegment, Option.some.injEq, Prod.mk.injEq, Stop.exit.injEq]
    exact and_congr_left' eq_comm

theorem ofSegment_sent_eq_nil (c : Command) (ns : List Notification) (stop : Stop HttpRequest MatterError Reply) :
    (Out.ofSegment (some ⟨c, ns, stop⟩)).sent = [] ↔ ∃ x, stop = .exit x := by
  cases stop with
  | await r => simp [Out.ofSegment]
  | exit y => simp [Out.ofSegment]

/-- The monitor replies nothing. -/
theorem monitorStep_replied {d d' : Device} {m m' : Monitor} {ev : MonitorEvent} {o : Out}
    (h : d.monitorStep m ev = some (d', m', o)) : o.replied = none := by
  unfold Device.monitorStep at h
  split at h <;> cases h <;> rfl

/-- Every step of a run from the start replies as it should. -/
theorem Bridge.Run.replies {d : Device} {ts : List Step} {b : Bridge} (h : Bridge.Run (.start d) ts b) :
    ∀ t ∈ ts, t.before.StepReplies t.label t.after t.out := by
  intro t ht
  have hsegment := h.segments dmHandler_verdict t ht
  obtain ⟨b, l, o, b'⟩ := t
  cases l with
  | monitor ev => exact monitorStep_replied hsegment
  | task e =>
    cases e with
    | call c =>
      obtain ⟨ns, stop, rfl, hverdict⟩ := hsegment
      refine ⟨stop, ?_, ofSegment_sent_eq_nil c ns stop, fun c' x => ofSegment_replied c c' ns stop x⟩
      rw [ofSegment_notified]
      exact hverdict
    | answer i res =>
      obtain ⟨-, rfl⟩ := hsegment
      rfl
    | resume i =>
      obtain ⟨w, res, ns, stop, hw, hres, rfl, hverdict⟩ := hsegment
      obtain rfl := hverdict.answered _ _ rfl
      refine ⟨w, res, hw, hres, ?_, rfl⟩
      rw [ofSegment_notified]
      exact hverdict

/-! ## What waits -/

/-- The command that a step calls. -/
def Step.called (t : Step) : List Command :=
  match t.label with
  | .task (.call c) => [c]
  | .task (.answer _ _) | .task (.resume _) | .monitor _ => []

/-- The command that a step replies to. -/
def Step.replied (t : Step) : List Command := (t.out.replied.map Prod.fst).toList

/-- The PUTs that a step sends. -/
def Step.puts (t : Step) : List HttpRequest := t.out.sent.filter (·.method = .put)

/-- The PUT whose answer a step takes up. -/
def Step.takenUp (t : Step) : List HttpRequest :=
  match t.label with
  | .task (.resume i) => (t.before.tasks.tasks[i]?.map (·.request)).toList
  | .task (.call _) | .task (.answer _ _) | .monitor _ => []

/-- Every request of a command is a PUT. -/
theorem Command.Sends.put {c : Command} {d : Device} {r : HttpRequest} (h : c.Sends d r) : r.method = .put := by
  rcases h.cases with ⟨dur, -, -, rfl⟩ | ⟨-, hr | rfl | rfl | rfl | ⟨p, rfl⟩⟩
  · rfl
  · rw [hr]
    unfold startRequest
    split <;> rfl
  · rfl
  · rfl
  · rfl
  · rfl

/-- A step of a command sends only PUTs. -/
theorem Bridge.StepDoes.task_puts {b b' : Bridge} {e : Event (Except AnyhowError Unit) Command} {o : Out}
    (h : b.StepDoes (.task e) b' o) : ∀ r ∈ o.sent, r.method = .put := by
  intro r hr
  cases e with
  | call c =>
    obtain ⟨-, stop, heff, -, hsent⟩ := h
    exact ((heff.sends r).mp ((hsent r).mp hr)).2.put
  | answer i res =>
    obtain ⟨-, -, rfl, -⟩ := h
    simp at hr
  | resume i =>
    obtain ⟨-, hsent, -⟩ := h
    simp [hsent] at hr

theorem ofSegment_sent (seg : Option (Segment Notification HttpRequest MatterError Reply Command)) :
    ((Out.ofSegment seg).sent : Multiset HttpRequest) = (Segment.asked seg).map Prod.snd := by
  match seg with
  | some ⟨c, ns, .exit x⟩ => rfl
  | some ⟨c, ns, .await r⟩ => rfl
  | none => rfl

theorem Step.replied_eq {t : Step} {seg : Option (Segment Notification HttpRequest MatterError Reply Command)}
    (h : t.out = Out.ofSegment seg) : (t.replied : Multiset Command) = Segment.ended seg := by
  rw [Step.replied, h]
  match seg with
  | some ⟨c, ns, .exit x⟩ => rfl
  | some ⟨c, ns, .await r⟩ => rfl
  | none => rfl

theorem Step.called_eq {t : Step} {e : Event (Except AnyhowError Unit) Command} (h : t.label = .task e) :
    (t.called : Multiset Command) = e.called := by
  rw [Step.called, h]
  cases e <;> rfl

theorem Step.takenUp_eq {t : Step} {e : Event (Except AnyhowError Unit) Command} (h : t.label = .task e) :
    (t.takenUp : Multiset HttpRequest) = (t.before.tasks.resumed e).map Prod.snd := by
  rw [Step.takenUp, h]
  cases e with
  | call c => rfl
  | answer i res => rfl
  | resume i => cases h : t.before.tasks.tasks[i]? <;> simp [Pool.resumed, h]

/-- A step balances the commands that wait, and their PUTs. -/
theorem Bridge.step_balance {t : Step} (ht : t.Valid Bridge.step) (hgood : t.before.Good) :
    ((t.before.tasks.waits.map Prod.fst + t.called : Multiset Command) =
      t.after.tasks.waits.map Prod.fst + t.replied) ∧
    ((t.before.tasks.waits.map Prod.snd + t.puts : Multiset HttpRequest) =
      t.after.tasks.waits.map Prod.snd + t.takenUp) := by
  obtain ⟨b, l, o, b'⟩ := t
  have h : b.step l = some (b', o) := ht
  cases l with
  | monitor ev =>
    obtain ⟨⟨hm, htasks⟩, -⟩ := step_does hgood h
    have hputs : o.sent.filter (·.method = .put) = [] := by
      rw [List.filter_eq_nil_iff]
      intro r hr
      rcases monitorStep_sent hm r hr with rfl | rfl
      · decide
      · decide
    simp [Pool.waits, htasks, Step.called, Step.replied, Step.puts, Step.takenUp, monitorStep_replied hm, hputs]
  | task e =>
    have hputs := Bridge.StepDoes.task_puts (step_does hgood h).1
    obtain ⟨⟨p, seg⟩, hp, heq⟩ := Option.map_eq_some_iff.mp h
    cases heq
    have hsnd := congrArg (Multiset.map Prod.snd) (Pool.step_waits hp).1
    rw [Multiset.map_add, Multiset.map_add] at hsnd
    refine ⟨?_, ?_⟩
    · rw [Step.called_eq (e := e) rfl, @Step.replied_eq _ seg rfl]
      exact Pool.step_calls hp
    · rw [Step.takenUp_eq (e := e) rfl, ← hsnd, Step.puts, List.filter_eq_self.mpr (by simpa using hputs), ofSegment_sent]

end ValetudoMatter
