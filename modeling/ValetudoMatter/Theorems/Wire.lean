import ValetudoMatter.Lemmas.Init
import ValetudoMatter.Lemmas.Wire
import ValetudoMatter.Theorems.Client
import ValetudoMatter.Theorems.Sse

/-!
# The program on the wire

The program on the wire refines the program: whatever the exchanges and the streams give it, it does what the program does
(`wire_refines`). And what it applies of a stream is at every moment what the stream yields so far: the parse of all that has
been put into the buffer, which is the bytes delivered and, for every `Pending` between them, 1024 NULs (`stream_applied`).
-/

namespace ValetudoMatter

open Coroutine

/-! ## Refinement -/

/-- The program on the wire refines the program. For every client, every way in which responses and events decode, and every run
on the wire, with any responses, any streams and any interleaving, there is a run of the program that issues the same
notifications, requests and replies in the same order, and visits for every state of the one the same state of the other. -/
theorem wire_refines {api : Api} {d : Device} {ts : List WireStep} {w : Wire} (h : Wire.Run api (.start d) ts w) :
    ∃ us b, Bridge.Run (.start d) us b ∧ us.flatMap (·.out.observed) = ts.flatMap (·.out.observed) ∧ SameState w b ∧
      ∀ x ∈ Lts.visited (.start d) ts, ∃ y ∈ Lts.visited (.start d) us, SameState x y :=
  (wireSimulation api).run h (fun _ _ => trivial) ⟨rfl, rfl⟩

/-- A client to which the event `on` says that the robot cleans. -/
def onApi : Api where
  client := localClient
  fromSlice _ := .ok []
  fromStr s := if s = "on" then .ok (statusAttributes .cleaning) else .error (.msg "expected value")

/-- A network whose streams deliver that event, have the monitor wait, and end. -/
def onNetwork : Network :=
  .answering { status := 200, contentEncoding := none, frames := [], decoded := .ready onEvent (.pending .eof) }

/-- The event is notified before the command that comes after it is called, and the monitor polls again after the stream. -/
theorem wire_refines_on : ∃ us b, Bridge.Run (.start mopAndVacuumDevice) us b ∧
    us.flatMap (·.out.observed) = [.sent pollRequest, .sent subscribeRequest, .notified ⟨1, .rvcRunMode⟩,
      .notified ⟨1, .rvcOperationalState⟩, .sent pauseRequest, .sent pollRequest] := by
  have hexec : (Lts.exec (Wire.step onApi) (.start mopAndVacuumDevice)
      [.monitor .begin, .monitor (.polled onNetwork), .monitor (.subscribed onNetwork), .call .pause, .monitor .wake,
        .monitor .timer]).any
      (fun r : List WireStep × Wire => decide (r.1.flatMap (·.out.observed) = [.sent pollRequest, .sent subscribeRequest,
        .notified ⟨1, .rvcRunMode⟩, .notified ⟨1, .rvcOperationalState⟩, .sent pauseRequest, .sent pollRequest])) = true := by
    decide +kernel
  obtain ⟨ts, w, hrun, hp⟩ := Lts.exists_run_of_exec hexec
  obtain ⟨us, b, hus, hobs, -⟩ := wire_refines hrun
  exact ⟨us, b, hus, hobs.trans (of_decide_eq_true hp)⟩

/-! ## What is applied of a stream -/

/-- A wake up of the stream. -/
def WireLabel.isWake : WireLabel → Bool
  | .monitor .wake => true
  | .monitor .begin | .monitor (.polled _) | .monitor (.subscribed _) | .monitor .timer => false
  | .call _ | .answer _ _ | .resume _ => false

/-- The stream that a step reads, if it reads one: the one that it is given, or the one that the monitor waits on. -/
def WireStep.stream? (api : Api) (t : WireStep) : Option SseStream :=
  match t.label, t.before.monitor with
  | .monitor (.subscribed net), _ =>
    match (api.client.sse net subscribeRequest.path).outcome.2 with
    | .done stream => some stream
    | .fail _ => none
    | .abort => none
  | .monitor .wake, .streaming stream => some stream
  | _, _ => none

/-- The batches that a step takes off a stream. -/
def WireStep.taken (api : Api) (t : WireStep) : List (List StateAttribute) :=
  (t.stream? api).elim [] fun stream => (api.takeUp stream.turn.1).1

/-- A step that reads a stream applies what it takes off it, and notifies what that notifies. -/
def WireStep.Applies (api : Api) (t : WireStep) : Prop :=
  (t.stream? api).isSome → t.after.tasks.state = (t.before.tasks.state.apply (t.taken api).flatten).1 ∧
    t.out.notified = (t.before.tasks.state.apply (t.taken api).flatten).2

/-- Every step on the wire applies what it takes off a stream. -/
theorem WireStep.applies {api : Api} {t : WireStep} (h : t.Valid (Wire.step api)) : t.Applies api := by
  obtain ⟨w, l, o, w'⟩ := t
  intro hstream
  have hdoes : Wire.StepDoes api w l w' o := Wire.step_cases h
  cases hdoes with
  | task hl _ =>
    cases l with
    | call c => simp [WireStep.stream?] at hstream
    | answer i net => simp [WireStep.stream?] at hstream
    | resume i => simp [WireStep.stream?] at hstream
    | monitor ev => exact absurd rfl (hl ev)
  | monitor _ hdoes =>
    obtain ⟨t, m⟩ := w
    cases hdoes with
    | poll hm => rcases hm with ⟨-, rfl⟩ | ⟨-, rfl⟩ <;> simp [WireStep.stream?] at hstream
    | polled hget => simp [WireStep.stream?] at hstream
    | unpolled hget => simp [WireStep.stream?] at hstream
    | unsubscribed hsse => simp [WireStep.stream?, hsse] at hstream
    | subscribed hsse => simp [WireStep.taken, WireStep.stream?, hsse, Device.readStream_eq]
    | woken => simp [WireStep.taken, WireStep.stream?, Device.readStream_eq]

/-- A subscription that is granted reads the first turn of its stream. -/
theorem subscribed_turn {api : Api} {w w' : Wire} {o : Out} {net : Network} {body : Body}
    (h : w.step api (.monitor (.subscribed net)) = some (w', o))
    (hsse : (api.client.sse net subscribeRequest.path).outcome.2 = .done (.new body)) :
    w'.monitor = .after (api.takeUp (body.itemsBy 0)).2 (body.waiting 0) := by
  have hdoes := Wire.step_cases h
  obtain ⟨t, m⟩ := w
  cases hdoes with
  | task hl _ => exact absurd rfl (hl _)
  | monitor _ hdoes =>
    cases hdoes with
    | poll hm => rcases hm with ⟨-, hm⟩ | ⟨-, hm⟩ <;> cases hm
    | unsubscribed hfail =>
      rw [hsse] at hfail
      cases hfail
    | subscribed hdone =>
      rw [hsse] at hdone
      cases hdone
      rw [Device.readStream_eq, Body.turn_new]

/-- A step while the stream is open: it is a wake up, which reads one turn, or it leaves the monitor as it is and takes nothing
off the stream. -/
theorem streaming_turn {api : Api} {t : WireStep} (h : t.Valid (Wire.step api)) {stream : SseStream}
    (hm : t.before.monitor = .streaming stream) :
    (t.label.isWake = true ∧ t.taken api = (api.takeUp stream.turn.1).1 ∧
      t.after.monitor = .after (api.takeUp stream.turn.1).2 stream.turn.2) ∨
    (t.label.isWake = false ∧ t.taken api = [] ∧ t.after.monitor = .streaming stream) := by
  obtain ⟨⟨wt, wm⟩, l, o, w'⟩ := t
  obtain rfl : wm = .streaming stream := hm
  have hdoes : Wire.StepDoes api ⟨wt, .streaming stream⟩ l w' o := Wire.step_cases h
  cases hdoes with
  | task hl _ =>
    right
    cases l with
    | call c => exact ⟨rfl, rfl, rfl⟩
    | answer i net => exact ⟨rfl, rfl, rfl⟩
    | resume i => exact ⟨rfl, rfl, rfl⟩
    | monitor ev => exact absurd rfl (hl ev)
  | monitor _ hdoes =>
    cases hdoes with
    | poll hm => rcases hm with ⟨hm, -⟩ | ⟨hm, -⟩ <;> cases hm
    | woken => exact .inl ⟨rfl, rfl, by rw [Device.readStream_eq]⟩

/-- A monitor that streams after a turn has taken up all of its items, and waits on the stream that they leave. -/
theorem WireMonitor.after_eq_streaming {good : Bool} {next : Option SseStream}
    (h : (WireMonitor.after good next).forget = .streaming) :
    good = true ∧ ∃ stream, next = some stream ∧ WireMonitor.after good next = .streaming stream := by
  cases good with
  | false => cases h
  | true =>
    cases next with
    | none => cases h
    | some stream => exact ⟨rfl, stream, rfl, rfl⟩

/-- What is taken off a stream, from where it is granted and for as long as it is open, are the items that it yields, up to the
first that is no batch. -/
theorem Wire.Run.taken {api : Api} {w w' : Wire} {t : WireStep} {ts : List WireStep} {net : Network} {body : Body}
    (h : Wire.Run api w (t :: ts) w') (hlabel : t.label = .monitor (.subscribed net))
    (hsse : (api.client.sse net subscribeRequest.path).outcome.2 = .done (.new body))
    (hopen : ∀ u ∈ ts, u.before.monitor.forget = .streaming) :
    (t :: ts).flatMap (·.taken api) = (api.takeUp (body.itemsBy (ts.countP (·.label.isWake)))).1 ∧
      w'.monitor = .after (api.takeUp (body.itemsBy (ts.countP (·.label.isWake)))).2
        (body.waiting (ts.countP (·.label.isWake))) := by
  have hfirst : t.taken api = (api.takeUp (body.itemsBy 0)).1 := by
    simp [WireStep.taken, WireStep.stream?, hlabel, hsse, Body.turn_new]
  cases h with
  | @cons _ s' _ l o _ hstep h =>
    obtain rfl : l = .monitor (.subscribed net) := hlabel
    have hmonitor := subscribed_turn hstep hsse
    have key := h.history
      (P := fun (us : List WireStep) (x : Wire) => (∀ u ∈ us, u.before.monitor.forget = .streaming) →
        (api.takeUp (body.itemsBy 0)).1 ++ us.flatMap (·.taken api) =
          (api.takeUp (body.itemsBy (us.countP (·.label.isWake)))).1 ∧
        x.monitor = .after (api.takeUp (body.itemsBy (us.countP (·.label.isWake)))).2
          (body.waiting (us.countP (·.label.isWake))))
      (fun _ => ⟨List.append_nil _, hmonitor⟩) ?_
    · obtain ⟨htaken, hlast⟩ := key hopen
      exact ⟨by rw [List.flatMap_cons, hfirst, htaken], hlast⟩
    · intro us u hrun ih hus
      obtain ⟨htaken, hbefore⟩ := ih fun v hv => hus v (List.mem_append_left _ hv)
      have hstreaming := hus u (by simp)
      rw [hbefore] at hstreaming
      obtain ⟨hgood, stream, hwaiting, hafter⟩ := WireMonitor.after_eq_streaming hstreaming
      obtain ⟨hnext, hitems⟩ := Body.turn_waiting hwaiting
      rw [List.flatMap_append, ← List.append_assoc, htaken, List.countP_append, List.flatMap_singleton,
        List.countP_singleton]
      rcases streaming_turn (hrun.valid u (by simp)) (hbefore.trans hafter) with
        ⟨hwake, hu, hmon⟩ | ⟨hwake, hu, hmon⟩
      · rw [hwake, hu, hmon, if_pos rfl, hitems, Api.takeUp_append hgood, hnext]
        exact ⟨rfl, rfl⟩
      · rw [hwake, hu, hmon, List.append_nil]
        exact ⟨rfl, hafter.symm⟩

/-- What is applied of a stream. Take any run on the wire that begins where a subscription is granted, with a stream that reads
`body`, and in which the stream is open before every further step, whatever commands run meanwhile. If it was woken `k` times,
the batches that were applied are those of the items that the stream yields by the end of its `k`-th turn, up to the first
that is no batch, once each and in order. These items are the parse of what `body` has put into the buffer: not of the bytes that
it has delivered alone, but with the 1024 NULs that every `Pending` between two turns has left among them (`Body.itemsBy`). Every
step that takes batches off the stream applies them to the device as it then is and notifies what they notify; and the stream is
still open exactly if all items were batches and `body` has not ended. -/
theorem stream_applied {api : Api} {w w' : Wire} {t : WireStep} {ts : List WireStep} {net : Network} {body : Body}
    (h : Wire.Run api w (t :: ts) w') (hlabel : t.label = .monitor (.subscribed net))
    (hsse : (api.client.sse net subscribeRequest.path).outcome.2 = .done (.new body))
    (hopen : ∀ u ∈ ts, u.before.monitor.forget = .streaming) :
    let k := ts.countP (·.label.isWake)
    (t :: ts).flatMap (·.taken api) = (api.takeUp (body.itemsBy k)).1 ∧ (∀ u ∈ t :: ts, u.Applies api) ∧
      w'.monitor = .after (api.takeUp (body.itemsBy k)).2 (body.waiting k) := by
  obtain ⟨htaken, hlast⟩ := h.taken hlabel hsse hopen
  exact ⟨htaken, fun u hu => WireStep.applies (h.valid u hu), hlast⟩

/-- The event is applied when the subscription is granted, and the stream is over when it is woken. -/
theorem stream_applied_on : ∃ (w w' : Wire) (t : WireStep) (ts : List WireStep), Wire.Run onApi w (t :: ts) w' ∧
    (t :: ts).flatMap (·.taken onApi) = [statusAttributes .cleaning] ∧ w'.monitor.forget = .waiting := by
  have hexec : (Lts.exec (Wire.step onApi) ⟨(Bridge.start mopAndVacuumDevice).tasks, .subscribing⟩
      [.monitor (.subscribed onNetwork), .call .pause, .monitor .wake]).any
      (fun r : List WireStep × Wire => decide ((∀ u ∈ r.1.tail, u.before.monitor.forget = .streaming) ∧
        r.1.tail.countP (·.label.isWake) = 1)) = true := by
    decide +kernel
  obtain ⟨t, ts, w', hrun, hlabel, hp⟩ := Lts.exists_run_cons_of_exec hexec
  obtain ⟨hopen, hwakes⟩ := of_decide_eq_true hp
  have hsse : (onApi.client.sse onNetwork subscribeRequest.path).outcome.2 =
      .done (.new (.ready onEvent (.pending .eof))) := rfl
  obtain ⟨htaken, -, hlast⟩ := stream_applied hrun hlabel hsse hopen
  rw [show ts.countP (·.label.isWake) = 1 from hwakes] at htaken hlast
  refine ⟨_, w', t, ts, hrun, htaken.trans (by decide +kernel), ?_⟩
  rw [hlast]
  decide +kernel

end ValetudoMatter
