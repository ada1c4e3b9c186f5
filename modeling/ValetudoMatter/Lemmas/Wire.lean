import ValetudoMatter.Lib.Simulation
import ValetudoMatter.Lemmas.Bridge
import ValetudoMatter.Lemmas.Exchange
import ValetudoMatter.Lemmas.Turns
import ValetudoMatter.Wire

/-!
# The wire and the program

The loop over the items of a stream applies the batches of one turn, in order, up to the first item that is no batch
(`readStream_eq`); so a segment that reads a stream is a run of the program, one step for each item (`takeUp_run`). With that the
program simulates the program on the wire, where each exchange is the result it gives (`wireSimulation`).
-/

namespace ValetudoMatter

open Coroutine

/-- The batch that an item carries, if it is no error and decodes. -/
def Api.decode (api : Api) : Item → Option (List StateAttribute)
  | .error _ => none
  | .ok s =>
    match api.fromStr s with
    | .error _ => none
    | .ok ev => some ev

/-- The batches of a list of items up to the first that carries none, and whether all carry one. -/
def Api.takeUp (api : Api) : List Item → List (List StateAttribute) × Bool
  | [] => ([], true)
  | item :: items =>
    match api.decode item with
    | none => ([], false)
    | some ev => (ev :: (api.takeUp items).1, (api.takeUp items).2)

/-- Where all items carry a batch, the batches of more items follow. -/
theorem Api.takeUp_append {api : Api} {items : List Item} (h : (api.takeUp items).2 = true) (more : List Item) :
    api.takeUp (items ++ more) = ((api.takeUp items).1 ++ (api.takeUp more).1, (api.takeUp more).2) := by
  induction items with
  | nil => rfl
  | cons item items ih =>
    simp only [takeUp, List.cons_append] at h ⊢
    cases hitem : api.decode item with
    | none => simp [hitem] at h
    | some ev =>
      simp only [hitem] at h
      simp [ih h]

/-- Where the monitor waits after a turn of its stream. -/
def WireMonitor.after (good : Bool) (stream : Option SseStream) : WireMonitor :=
  match good, stream with
  | true, some stream => .streaming stream
  | true, none => .waiting
  | false, _ => .waiting

/-- The loop applies the batches of one turn. -/
theorem Device.readStream_eq (api : Api) (d : Device) (s : SseStream) :
    d.readStream api s =
      ((d.apply (api.takeUp s.turn.1).1.flatten).1, (d.apply (api.takeUp s.turn.1).1.flatten).2,
        .after (api.takeUp s.turn.1).2 s.turn.2) := by
  induction hn : s.weight using Nat.strongRecOn generalizing d s with
  | _ n ih =>
    have htakes := s.pollNext_turn
    rw [readStream]
    split
    · rename_i rest h
      rw [h] at htakes
      rw [show s.turn = ([], some rest) from htakes]
      rfl
    · rename_i rest h
      rw [h] at htakes
      rw [show s.turn = ([], none) from htakes]
      rfl
    · rename_i e rest h
      rw [h] at htakes
      rw [show s.turn = (.error e :: rest.turn.1, rest.turn.2) from htakes]
      rfl
    · rename_i text rest h
      have hlt := SseStream.pollNext_weight (s := s) (by rw [h]; simp)
      rw [h] at htakes hlt
      rw [show s.turn = (.ok text :: rest.turn.1, rest.turn.2) from htakes]
      cases hev : api.fromStr text with
      | error e => simp [Api.takeUp, Api.decode, hev, Device.apply, Device.applyAttributes, WireMonitor.after]
      | ok ev =>
        have hrest := ih rest.weight (by rw [← hn]; exact hlt) (d.apply ev).1 rest rfl
        simp only [hrest, Api.takeUp, Api.decode, hev, List.flatten_cons, apply_append]

/-! ## The program does what the wire does -/

/-- Where the monitor waits, less the stream. -/
def WireMonitor.forget : WireMonitor → Monitor
  | .ready => .ready
  | .polling => .polling
  | .subscribing => .subscribing
  | .streaming _ => .streaming
  | .waiting => .waiting

/-- What others see of a program. -/
inductive Observed where
  | notified (n : Notification)
  | sent (r : HttpRequest)
  | replied (c : Command) (x : Exit MatterError Reply)
  deriving DecidableEq, Repr

/-- What others see of a step. -/
def Out.observed (o : Out) : List Observed :=
  o.notified.map .notified ++ o.sent.map .sent ++ o.replied.toList.map fun r => .replied r.1 r.2

@[simp] theorem Out.observed_notified (ns : List Notification) : (Out.mk ns [] none).observed = ns.map .notified := by
  simp [observed]

/-- The items of one turn are a run of the program, which ends where the monitor waits after them. -/
theorem Api.takeUp_run (api : Api) (items : List Item) (next : Option SseStream) {b : Bridge} (halive : b.tasks.alive)
    (hm : b.monitor = .streaming) :
    ∃ us b', Bridge.Run b us b' ∧
      us.flatMap (·.out.observed) = (b.device.apply (api.takeUp items).1.flatten).2.map .notified ∧
      b'.tasks = { b.tasks with state := (b.device.apply (api.takeUp items).1.flatten).1 } ∧
      b'.monitor = (WireMonitor.after (api.takeUp items).2 next).forget := by
  induction items generalizing b with
  | nil =>
    cases next with
    | some s => exact ⟨[], b, .nil b, rfl, rfl, hm⟩
    | none =>
      have hend : b.device.monitorStep b.monitor .streamEnd = some (b.device, .waiting, ⟨[], [], none⟩) := by
        rw [hm]
        rfl
      exact ⟨_, _, .single (Bridge.monitor_step _ halive hend), rfl, rfl, rfl⟩
  | cons item items ih =>
    cases hitem : api.decode item with
    | none =>
      have hbad : b.device.monitorStep b.monitor (.malformed (.msg "Invalid event")) =
          some (b.device, .waiting, ⟨[], [], none⟩) := by
        rw [hm]
        rfl
      refine ⟨_, _, .single (Bridge.monitor_step _ halive hbad), ?_, ?_, ?_⟩
      · simp [takeUp, hitem, Device.apply, Device.applyAttributes]
      · simp [takeUp, hitem, Device.apply, Device.applyAttributes, Bridge.device]
      · simp [takeUp, hitem, WireMonitor.after, WireMonitor.forget]
    | some ev =>
      have hev : b.device.monitorStep b.monitor (.event ev) =
          some ((b.device.apply ev).1, .streaming, ⟨(b.device.apply ev).2, [], none⟩) := by
        rw [hm]
        rfl
      obtain ⟨us, b', hrun, hobs, htasks, hmonitor⟩ :=
        ih (b := ⟨{ b.tasks with state := (b.device.apply ev).1 }, .streaming⟩) halive rfl
      refine ⟨_, b', .cons (Bridge.monitor_step _ halive hev) hrun, ?_, ?_, ?_⟩
      · simp [hobs, takeUp, hitem, apply_append, Bridge.device]
      · simp [htasks, takeUp, hitem, apply_append, Bridge.device]
      · simp [hmonitor, takeUp, hitem]

/-! ## A step on the wire -/

/-- What a step of the monitor does on the wire: it polls, applies the answer, is turned down, or reads a stream, the one that it
has subscribed to or the one that it waits on. -/
inductive WireDoes (api : Api) (d : Device) : WireMonitor → WireEvent → Device → WireMonitor → Out → Prop where
  | poll {m : WireMonitor} {ev : WireEvent} : (m = .ready ∧ ev = .begin) ∨ (m = .waiting ∧ ev = .timer) →
      WireDoes api d m ev d .polling ⟨[], [pollRequest], none⟩
  | polled {net : Network} {attrs : List StateAttribute} :
      (api.client.get api.fromSlice net pollRequest.path).outcome.2 = .done attrs →
      WireDoes api d .polling (.polled net) (d.apply attrs).1 .subscribing ⟨(d.apply attrs).2, [subscribeRequest], none⟩
  | unpolled {net : Network} {e : AnyhowError} :
      (api.client.get api.fromSlice net pollRequest.path).outcome.2 = .fail e →
      WireDoes api d .polling (.polled net) d .waiting ⟨[], [], none⟩
  | subscribed {net : Network} {stream : SseStream} :
      (api.client.sse net subscribeRequest.path).outcome.2 = .done stream →
      WireDoes api d .subscribing (.subscribed net) (d.readStream api stream).1 (d.readStream api stream).2.2
        ⟨(d.readStream api stream).2.1, [], none⟩
  | unsubscribed {net : Network} {e : AnyhowError} :
      (api.client.sse net subscribeRequest.path).outcome.2 = .fail e →
      WireDoes api d .subscribing (.subscribed net) d .waiting ⟨[], [], none⟩
  | woken {stream : SseStream} :
      WireDoes api d (.streaming stream) .wake (d.readStream api stream).1 (d.readStream api stream).2.2
        ⟨(d.readStream api stream).2.1, [], none⟩

/-- The monitor does not panic. -/
theorem wireStep_cases {api : Api} {d : Device} {m : WireMonitor} {ev : WireEvent} {p : Progress}
    (h : d.wireStep api m ev = some p) : ∃ d' m' o, p = .on d' m' o ∧ WireDoes api d m ev d' m' o := by
  unfold Device.wireStep at h
  split at h
  · cases h
    exact ⟨_, _, _, rfl, .poll (.inl ⟨rfl, rfl⟩)⟩
  · rename_i net
    rcases api.client.get_cases api.fromSlice net pollRequest.path with
      ⟨req, resp, bytes, attrs, -, -, -, -, hget⟩ | ⟨sent, e, -, hget⟩
    · rw [hget] at h
      cases h
      exact ⟨_, _, _, rfl, .polled (by rw [hget])⟩
    · rw [hget] at h
      cases h
      exact ⟨_, _, _, rfl, .unpolled (by rw [hget])⟩
  · rename_i net
    rcases api.client.sse_cases net subscribeRequest.path with ⟨req, resp, -, -, -, hsse⟩ | ⟨sent, e, -, hsse⟩
    · rw [hsse] at h
      cases h
      exact ⟨_, _, _, rfl, .subscribed (by rw [hsse])⟩
    · rw [hsse] at h
      cases h
      exact ⟨_, _, _, rfl, .unsubscribed (by rw [hsse])⟩
  · cases h
    exact ⟨_, _, _, rfl, .woken⟩
  · cases h
    exact ⟨_, _, _, rfl, .poll (.inr ⟨rfl, rfl⟩)⟩
  · cases h

/-- What a step does on the wire, by its label: a command is called or resumed, the exchange of its PUT is over, or the monitor
goes on. -/
inductive Wire.StepDoes (api : Api) (w : Wire) : WireLabel → Wire → Out → Prop where
  | task {l : WireLabel} {e : Event (Except AnyhowError Unit) Command} {p : Tasks}
      {seg : Option (Segment Notification HttpRequest MatterError Reply Command)} :
      (∀ ev, l ≠ .monitor ev) → w.tasks.step dmHandler e = some (p, seg) →
      StepDoes api w l { w with tasks := p } (Out.ofSegment seg)
  | monitor {ev : WireEvent} {d : Device} {m : WireMonitor} {o : Out} :
      w.tasks.alive → WireDoes api w.tasks.state w.monitor ev d m o →
      StepDoes api w (.monitor ev) { tasks := { w.tasks with state := d }, monitor := m } o

theorem Wire.run_does {api : Api} {w w' : Wire} {e : Event (Except AnyhowError Unit) Command} {l : WireLabel} {o : Out}
    (hl : ∀ ev, l ≠ .monitor ev) (h : w.run e = some (w', o)) : Wire.StepDoes api w l w' o := by
  obtain ⟨⟨p, seg⟩, hp, heq⟩ := Option.map_eq_some_iff.mp h
  cases heq
  exact .task hl hp

/-- A step does what its label says. -/
theorem Wire.step_cases {api : Api} {w w' : Wire} {l : WireLabel} {o : Out} (h : w.step api l = some (w', o)) :
    Wire.StepDoes api w l w' o := by
  cases l with
  | call c => exact run_does nofun h
  | answer i net =>
    simp only [step] at h
    split at h
    · rename_i t ht
      rcases api.client.put_cases net t.request.path t.request.body with ⟨req, resp, -, -, hput⟩ | ⟨sent, e, -, hput⟩
      · rw [hput] at h
        exact run_does nofun h
      · rw [hput] at h
        exact run_does nofun h
    · cases h
  | resume i => exact run_does nofun h
  | monitor ev =>
    simp only [step] at h
    split at h
    · rename_i halive
      obtain ⟨p, hp, heq⟩ := Option.map_eq_some_iff.mp h
      obtain ⟨d, m, o', rfl, hdoes⟩ := wireStep_cases hp
      cases heq
      exact .monitor halive hdoes
    · cases h

/-! ## The simulation -/

/-- A program on the wire and a program are in the same state. -/
def SameState (w : Wire) (b : Bridge) : Prop := b.tasks = w.tasks ∧ b.monitor = w.monitor.forget

/-- A step of the monitor on the wire is a run of the program. -/
theorem WireDoes.run {api : Api} {t : Tasks} {m m' : WireMonitor} {ev : WireEvent} {d : Device} {o : Out}
    (h : WireDoes api t.state m ev d m' o) (halive : t.alive) :
    ∃ us b', Bridge.Run ⟨t, m.forget⟩ us b' ∧ us.flatMap (·.out.observed) = o.observed ∧
      SameState ⟨{ t with state := d }, m'⟩ b' := by
  cases h with
  | poll hm =>
    rcases hm with ⟨hm, rfl⟩ | ⟨hm, rfl⟩
    · rw [hm]
      exact ⟨_, _, .single (Bridge.monitor_step .begin halive rfl), List.append_nil _, rfl, rfl⟩
    · rw [hm]
      exact ⟨_, _, .single (Bridge.monitor_step .timer halive rfl), List.append_nil _, rfl, rfl⟩
  | polled hget => exact ⟨_, _, .single (Bridge.monitor_step (.polled (.ok _)) halive rfl), List.append_nil _, rfl, rfl⟩
  | @unpolled _ e hget =>
    exact ⟨_, _, .single (Bridge.monitor_step (.polled (.error e)) halive rfl), List.append_nil _, rfl, rfl⟩
  | @unsubscribed _ e hsse =>
    exact ⟨_, _, .single (Bridge.monitor_step (.subscribed (.error e)) halive rfl), List.append_nil _, rfl, rfl⟩
  | @subscribed _ stream hsse =>
    -- the subscription is accepted, and what is there is read at once
    have haccept : (⟨t, .subscribing⟩ : Bridge).step (.monitor (.subscribed (.ok ()))) =
        some (⟨t, .streaming⟩, ⟨[], [], none⟩) := Bridge.monitor_step _ halive rfl
    obtain ⟨us, b', hrun, hobs, htasks, hmonitor⟩ :=
      api.takeUp_run stream.turn.1 stream.turn.2 (b := ⟨t, .streaming⟩) halive rfl
    rw [Device.readStream_eq]
    refine ⟨_, b', .cons haccept hrun, ?_, htasks, hmonitor⟩
    rw [List.flatMap_cons, hobs, Out.observed_notified, Out.observed_notified]
    rfl
  | @woken stream =>
    obtain ⟨us, b', hrun, hobs, htasks, hmonitor⟩ :=
      api.takeUp_run stream.turn.1 stream.turn.2 (b := ⟨t, .streaming⟩) halive rfl
    rw [Device.readStream_eq]
    refine ⟨us, b', hrun, ?_, htasks, hmonitor⟩
    rw [hobs, Out.observed_notified]
    rfl

/-- The program simulates the program on the wire. -/
def wireSimulation (api : Api) :
    Lts.Simulation (Wire.step api) Bridge.step (fun _ => True) (·.out.observed) (·.out.observed) where
  rel := SameState
  match_step := by
    rintro ⟨w, l, o, w'⟩ ⟨bt, bm⟩ hstep - ⟨rfl, rfl⟩
    have hdoes : Wire.StepDoes api w l w' o := Wire.step_cases hstep
    cases hdoes with
    | @task _ e p seg hl hp =>
      have hb : (⟨w.tasks, w.monitor.forget⟩ : Bridge).step (.task e) =
          some (⟨p, w.monitor.forget⟩, Out.ofSegment seg) := Bridge.task_step hp
      exact ⟨_, _, .single hb, List.append_nil _, rfl, rfl⟩
    | monitor halive hdoes => exact hdoes.run halive

/-- The program in the state of a program on the wire. -/
def Wire.bridge (w : Wire) : Bridge := ⟨w.tasks, w.monitor.forget⟩

theorem SameState.eq_bridge {w : Wire} {b : Bridge} (h : SameState w b) : b = w.bridge := by
  obtain ⟨tasks, monitor⟩ := b
  obtain ⟨rfl, rfl⟩ := h
  rfl

/-- A step on the wire keeps the program good. -/
theorem Wire.step_good {api : Api} {t : WireStep} (h : t.Valid (Wire.step api)) (hgood : t.before.bridge.Good) :
    t.after.bridge.Good := by
  obtain ⟨us, b, hrun, -, hsame⟩ := (wireSimulation api).match_step t t.before.bridge h trivial ⟨rfl, rfl⟩
  obtain rfl := hsame.eq_bridge
  exact (Bridge.Run.good hrun hgood).1

/-- Every state of a run on the wire from the start is good. -/
theorem Wire.Run.good {api : Api} {d : Device} {w : Wire} {ts : List WireStep} (h : Wire.Run api (.start d) ts w) :
    w.bridge.Good ∧ ∀ t ∈ ts, t.before.bridge.Good ∧ t.after.bridge.Good :=
  h.invariant (I := fun w => w.bridge.Good) (Bridge.good_start d) fun _ => Wire.step_good

end ValetudoMatter
