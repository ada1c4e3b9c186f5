import ValetudoMatter.Lemmas.World
import ValetudoMatter.Theorems.SseTurns
import ValetudoMatter.Theorems.Wire

/-!
# From the blocks that a robot sends to the cached status

All layers at once: blocks are framed, cut into reads and separated by `Pending`s; the stream parses them turn by turn, the
monitor decodes and applies them, and commands run in between. The cached status is that of the last event taken up that carries
one; the first block after a `Pending` loses what it carries in its first line (`stream_cached`).
-/

namespace ValetudoMatter

open Coroutine

/-! ## The turns of a reader -/

theorem Body.beforePending_reading (reads : List Chunk) (rest : Body) :
    (Body.reading reads (.pending rest)).beforePending = (reads.map (·.bytes)).flatten ∧
      (Body.reading reads (.pending rest)).afterPending = some rest := by
  induction reads with
  | nil => exact ⟨rfl, rfl⟩
  | cons chunk reads ih => exact ⟨congrArg (chunk.bytes ++ ·) ih.1, ih.2⟩

theorem Body.beforePending_ofReads (reads : List Chunk) (ending : Ending) :
    (Body.ofReads reads ending).beforePending = (reads.map (·.bytes)).flatten ∧
      (Body.ofReads reads ending).afterPending = none := by
  induction reads with
  | nil => rcases ending with _ | e <;> exact ⟨rfl, rfl⟩
  | cons chunk reads ih => exact ⟨congrArg (chunk.bytes ++ ·) ih.1, ih.2⟩

/-- The turns of a reader after its first are those of the reader after its first `Pending`. -/
theorem Body.afterTurn_succ (body : Body) (k : Nat) :
    body.afterTurn (k + 1) = body.afterPending.bind fun rest => rest.afterTurn k := by
  induction k with
  | zero => rfl
  | succ k ih =>
    rw [afterTurn, ih]
    rcases body.afterPending with _ | rest <;> rfl

theorem Body.putBy_succ (body : Body) (k : Nat) :
    body.putBy (k + 1) = body.beforePending ++ body.afterPending.elim [] fun rest => padding ++ rest.putBy k := by
  induction k with
  | zero => rfl
  | succ k ih =>
    rw [putBy, ih, afterTurn_succ]
    rcases body.afterPending with _ | rest
    · simp
    · simp [putBy]

/-- What a reader of turns has put into the buffer by the end of its `k`-th turn, and whether there is another. -/
theorem Body.putBy_ofTurns (first : List Chunk) (turns : List (List Chunk)) (ending : Ending) (k : Nat) :
    (Body.ofTurns first turns ending).putBy k = (first.map (·.bytes)).flatten ++
        (turns.take k).flatMap (fun reads => padding ++ (reads.map (·.bytes)).flatten) ∧
      (((Body.ofTurns first turns ending).afterTurn k).isSome ↔ k < turns.length) := by
  induction k generalizing first turns with
  | zero =>
    rcases turns with _ | ⟨reads, turns⟩
    · simp [ofTurns, putBy, afterTurn, beforePending_ofReads]
    · simp [ofTurns, putBy, afterTurn, beforePending_reading]
  | succ k ih =>
    rw [putBy_succ, afterTurn_succ]
    rcases turns with _ | ⟨reads, turns⟩
    · simp [ofTurns, beforePending_ofReads]
    · obtain ⟨hput, hmore⟩ := ih reads turns
      simp [ofTurns, beforePending_reading, hput, hmore]

/-- The events that a stream of blocks has yielded by the end of the `k`-th turn: those of the blocks delivered, but of the first
block after a `Pending` only the payload lines that come after its first line. -/
def eventsBy (first : List SseBlock) (turns : List (List SseBlock)) (k : Nat) : List String :=
  first.filterMap SseBlock.event ++ (turns.take k).flatMap eventsAfterPending

/-- They are those of all blocks delivered where none of the turns after a `Pending` begins with a payload line. -/
theorem eventsBy_eq (first : List SseBlock) {turns : List (List SseBlock)} {k : Nat}
    (h : ∀ blocks ∈ turns.take k, ∀ b ∈ blocks.head?, (b.lines.head b.ne).payload? = none) :
    eventsBy first turns k = (first ++ (turns.take k).flatten).filterMap SseBlock.event := by
  rw [eventsBy, flatMap_eventsAfterPending h, List.filterMap_append]

/-- After a `Pending` an event loses its first payload line, and one with a name loses none. -/
example : eventsBy [] [[bareEvent], [namedEvent]] 2 = ["q", "p\nq"] := by decide +kernel

/-- The items that a stream of blocks yields by the end of its `k`-th turn. -/
theorem Body.itemsBy_ofTurns {first : List SseBlock} {turns : List (List SseBlock)} {reads : List Chunk}
    {readss : List (List Chunk)} (ending : Ending)
    (hfirst : (reads.map (·.bytes)).flatten = (first.map SseBlock.encode).flatten)
    (hturns : readss.map (fun reads => (reads.map (·.bytes)).flatten) =
      turns.map fun blocks => (blocks.map SseBlock.encode).flatten) (k : Nat) :
    (Body.ofTurns reads readss ending).itemsBy k =
      (eventsBy first turns k).map .ok ++ if k < turns.length then [] else ending.items := by
  obtain ⟨hput, hmore⟩ := putBy_ofTurns reads readss ending k
  have hlength : readss.length = turns.length := by simpa using congrArg List.length hturns
  have hreadss : ((readss.take k).flatMap fun reads => padding ++ (reads.map (·.bytes)).flatten) =
      (turns.take k).flatMap fun blocks => padding ++ (blocks.map SseBlock.encode).flatten := by
    have htake := congrArg (fun bytes : List (List UInt8) => (bytes.take k).flatMap (padding ++ ·)) hturns
    simpa [← List.map_take, List.flatMap_map] using htake
  have hrest := oneShot_turns (turns.take k) 0
  rw [List.replicate_zero, List.nil_append] at hrest
  rw [itemsBy, hput, hfirst, hreadss, oneShot_encode_append, hrest, ending_ofTurns, eventsBy, List.map_append, ← hlength]
  simp only [hmore]

/-! ## What is taken off such a stream -/

/-- The end of a stream is no batch. -/
theorem Api.takeUp_ending (api : Api) (items : List Item) (ending : Ending) :
    (api.takeUp (items ++ ending.items)).1 = (api.takeUp items).1 := by
  induction items with
  | nil => rcases ending with _ | e <;> rfl
  | cons item items ih =>
    simp only [takeUp, List.cons_append]
    rcases api.decode item with _ | ev
    · rfl
    · rw [ih]

/-- The monitor streams after a turn if all of its items were batches and the stream must wait. -/
theorem WireMonitor.forget_after (good : Bool) (next : Option SseStream) :
    (WireMonitor.after good next).forget = .streaming ↔ good = true ∧ next.isSome := by
  rcases good with _ | _ <;> rcases next with _ | stream <;> simp [after, forget]

/-! ## The cached status while the stream is open -/

/-- A step that reads a stream takes the cached status on by what it takes off it. -/
theorem WireStep.Applies.status {api : Api} {t : WireStep} (h : t.Applies api) (hstream : (t.stream? api).isSome) :
    t.after.tasks.state.currentState.inner =
      statusAfter t.before.tasks.state.currentState.inner (t.taken api).flatten := by
  rw [(h hstream).1]
  exact (apply_effect _ _).currentState

/-- A step while the stream is open takes the cached status on by what it takes off the stream, if anything. -/
theorem WireStep.streaming_status {api : Api} {t : WireStep} (h : t.Valid (Wire.step api)) (hgood : t.before.bridge.Good)
    (hopen : t.before.monitor.forget = .streaming) :
    t.after.tasks.state.currentState.inner =
      statusAfter t.before.tasks.state.currentState.inner (t.taken api).flatten := by
  by_cases hstream : (t.stream? api).isSome
  · exact (WireStep.applies h).status hstream
  · have htaken : t.taken api = [] := by
      rw [Option.not_isSome_iff_eq_none] at hstream
      rw [taken, hstream]
      rfl
    rw [htaken]
    obtain ⟨⟨tasks, m⟩, l, o, w'⟩ := t
    have hdoes : Wire.StepDoes api ⟨tasks, m⟩ l w' o := Wire.step_cases h
    cases hdoes with
    | task _ hp => exact congrArg VersionedCell.inner (Bridge.task_frame hgood (Bridge.task_step hp)).2
    | monitor _ hdoes =>
      -- a monitor that streams takes only wake ups, which read the stream
      cases hdoes with
      | poll hm => rcases hm with ⟨rfl, -⟩ | ⟨rfl, -⟩ <;> cases hopen
      | polled _ => cases hopen
      | unpolled _ => cases hopen
      | subscribed _ => cases hopen
      | unsubscribed _ => cases hopen
      | woken => simp [stream?] at hstream

/-- While the stream is open the cached status follows what is taken off it, whatever commands run. -/
theorem Wire.Run.streaming_status {api : Api} {w w' : Wire} {ts : List WireStep} (h : Wire.Run api w ts w')
    (hgood : w.bridge.Good) (hopen : ∀ u ∈ ts, u.before.monitor.forget = .streaming) :
    w'.tasks.state.currentState.inner =
      statusAfter w.tasks.state.currentState.inner (ts.flatMap (·.taken api)).flatten := by
  induction h with
  | nil w => rfl
  | @cons w m w' l o ts hstep _ ih =>
    have hvalid : Lts.Transition.Valid (Wire.step api) ⟨w, l, o, m⟩ := hstep
    have hfirst := WireStep.streaming_status hvalid hgood (hopen _ List.mem_cons_self)
    have hrest := ih (Wire.step_good hvalid hgood) fun u hu => hopen u (List.mem_cons_of_mem _ hu)
    rw [hrest, hfirst, List.flatMap_cons, List.flatten_append]
    exact (LastWrite.after_append _ _ _ _).symm

/-- So it does from where a subscription is granted. -/
theorem Wire.Run.subscribed_status {api : Api} {w w' : Wire} {t : WireStep} {ts : List WireStep} {net : Network}
    {stream : SseStream} (h : Wire.Run api w (t :: ts) w') (hgood : w.bridge.Good)
    (hlabel : t.label = .monitor (.subscribed net))
    (hsse : (api.client.sse net subscribeRequest.path).outcome.2 = .done stream)
    (hopen : ∀ u ∈ ts, u.before.monitor.forget = .streaming) :
    w'.tasks.state.currentState.inner =
      statusAfter w.tasks.state.currentState.inner ((t :: ts).flatMap (·.taken api)).flatten := by
  cases h with
  | @cons _ m _ l o _ hstep hrest =>
    have hvalid : Lts.Transition.Valid (Wire.step api) ⟨w, l, o, m⟩ := hstep
    have hstream : (WireStep.stream? api ⟨w, l, o, m⟩).isSome := by
      obtain rfl : l = .monitor (.subscribed net) := hlabel
      simp [WireStep.stream?, hsse]
    have hfirst := (WireStep.applies hvalid).status hstream
    rw [Wire.Run.streaming_status hrest (Wire.step_good hvalid hgood) hopen, hfirst, List.flatMap_cons, List.flatten_append]
    exact (LastWrite.after_append _ _ _ _).symm

/-- What becomes of the blocks that a robot sends. Take any run on the wire from the start, and in it any subscription that is
granted with a stream that carries blocks, cut into ready reads in any way, with a `Pending` before each turn of blocks but the
first; and let the stream be open before every further step of the run, whatever commands are called, answered and resumed
meanwhile. If the stream was woken `k` times, the cached status is the one that was cached before, overwritten by the statuses
that the events taken up carry, up to the first that does not decode. The events taken up are those of the blocks so far, except
that the first block after one or more `Pending`s gives only its payload lines after the first line (`eventsBy`): what it carries
in its first line is lost. Where none of these blocks begins with a payload line, they are the events of all blocks so far. The
run mode and the operational state are those of the cached status; and the stream is still open exactly if all events taken up
decode and there is a turn left. -/
theorem stream_cached {api : Api} {d : Device} {w w' : Wire} {us ts : List WireStep} {t : WireStep} {net : Network}
    (first : List SseBlock) (turns : List (List SseBlock)) {reads : List Chunk} {readss : List (List Chunk)}
    {ending : Ending} (hstart : Wire.Run api (.start d) us w) (h : Wire.Run api w (t :: ts) w')
    (hlabel : t.label = .monitor (.subscribed net))
    (hsse : (api.client.sse net subscribeRequest.path).outcome.2 = .done (.new (.ofTurns reads readss ending)))
    (hfirst : (reads.map (·.bytes)).flatten = (first.map SseBlock.encode).flatten)
    (hturns : readss.map (fun reads => (reads.map (·.bytes)).flatten) =
      turns.map fun blocks => (blocks.map SseBlock.encode).flatten)
    (hopen : ∀ u ∈ ts, u.before.monitor.forget = .streaming) :
    let k := ts.countP (·.label.isWake)
    let taken := api.takeUp ((eventsBy first turns k).map .ok)
    let status := statusAfter w.tasks.state.currentState.inner taken.1.flatten
    w'.tasks.state.currentState.inner = status ∧
      RvcRunMode.currentMode w'.tasks.state = (RunMode.ofDeviceState status).toU8 ∧
      RvcOperationalState.operationalState w'.tasks.state = (OperationalState.ofDeviceState status).toU8 ∧
      (w'.monitor.forget = .streaming ↔ taken.2 = true ∧ k < turns.length) ∧
      ((∀ blocks ∈ turns.take k, ∀ b ∈ blocks.head?, (b.lines.head b.ne).payload? = none) →
        taken = api.takeUp (((first ++ (turns.take k).flatten).filterMap SseBlock.event).map .ok)) := by
  intro k taken status
  have hgood := hstart.good.1
  have hlength : readss.length = turns.length := by simpa using congrArg List.length hturns
  have hitems := Body.itemsBy_ofTurns ending hfirst hturns k
  obtain ⟨htaken, hlast⟩ := h.taken hlabel hsse hopen
  have hbatches : ((t :: ts).flatMap (·.taken api)) = taken.1 := by
    rw [htaken, hitems]
    split
    · rw [List.append_nil]
    · exact api.takeUp_ending _ ending
  have hcached := h.subscribed_status hgood hlabel hsse hopen
  rw [hbatches] at hcached
  refine ⟨hcached, ?_, ?_, ?_, ?_⟩
  · exact congrArg (fun s => (RunMode.ofDeviceState s).toU8) hcached
  · exact congrArg (fun s => (OperationalState.ofDeviceState s).toU8) hcached
  · rw [hlast, WireMonitor.forget_after, Body.waiting, Option.isSome_map, (Body.putBy_ofTurns _ _ _ _).2, hlength]
    constructor
    · rintro ⟨hgood, hlt⟩
      rw [hitems, if_pos hlt, List.append_nil] at hgood
      exact ⟨hgood, hlt⟩
    · rintro ⟨hgood, hlt⟩
      rw [hitems, if_pos hlt, List.append_nil]
      exact ⟨hgood, hlt⟩
  · intro hheads
    exact congrArg (fun events : List String => api.takeUp (events.map .ok)) (eventsBy_eq first hheads)

/-- A client to which the events say that the robot cleans, and that it is in its dock. -/
def onOffApi : Api where
  client := localClient
  fromSlice _ := .ok []
  fromStr s :=
    if s = "on" then .ok (statusAttributes .cleaning)
    else if s = "off" then .ok (statusAttributes .docked)
    else .error (.msg "expected value")

/-- The first event, and the second with a name. -/
def onBlock : SseBlock where
  lines := [.payload { text := "on", noLf := by decide, noCr := by decide }]
  ne := List.cons_ne_nil _ _

def offBlock : SseBlock where
  lines := [.other { text := "event: s", ne := by decide, noLf := by decide, notData := by decide },
    .payload { text := "off", noLf := by decide, noCr := by decide }]
  ne := List.cons_ne_nil _ _

/-- The second on the wire. -/
def offEvent : Chunk where
  bytes := [101, 118, 101, 110, 116, 58, 32, 115, 10, 100, 97, 116, 97, 58, 32, 111, 102, 102, 10, 10]
  pos := by decide
  le := by decide

/-- A network whose streams deliver the one, have the monitor wait, and deliver the other. -/
def onOffNetwork : Network :=
  .answering { status := 200, contentEncoding := none, frames := [], decoded := .ofTurns [onEvent] [[offEvent]] .eof }

/-- The program has polled a robot that reports nothing, and has asked for its stream. -/
def subscribingWire : Wire := ⟨(Bridge.start mopAndVacuumDevice).tasks, .subscribing⟩

/-- The robot starts to clean and returns to its dock, with a command in between. -/
theorem stream_cached_dock : ∃ (us ts : List WireStep) (t : WireStep) (w' : Wire),
    Wire.Run onOffApi (.start mopAndVacuumDevice) us subscribingWire ∧ Wire.Run onOffApi subscribingWire (t :: ts) w' ∧
    RvcRunMode.currentMode t.after.tasks.state = RunMode.cleaning.toU8 ∧
    RvcRunMode.currentMode w'.tasks.state = RunMode.idle.toU8 ∧ w'.monitor.forget ≠ .streaming := by
  have hbegin : ∃ us, Lts.exec (Wire.step onOffApi) (.start mopAndVacuumDevice)
      [.monitor .begin, .monitor (.polled onOffNetwork)] = some (us, subscribingWire) := ⟨_, rfl⟩
  obtain ⟨us, hus⟩ := hbegin
  have hstart : Wire.Run onOffApi (.start mopAndVacuumDevice) us subscribingWire := Lts.run_of_exec hus
  have hexec : (Lts.exec (Wire.step onOffApi) subscribingWire
      [.monitor (.subscribed onOffNetwork), .call .pause, .monitor .wake]).any
      (fun r : List WireStep × Wire => decide ((∀ u ∈ r.1.tail, u.before.monitor.forget = .streaming) ∧
        r.1.tail.countP (·.label.isWake) = 1 ∧
        r.1.head?.map (fun t => RvcRunMode.currentMode t.after.tasks.state) = some RunMode.cleaning.toU8)) = true := by
    decide +kernel
  obtain ⟨t, ts, w', hrun, hlabel, hp⟩ := Lts.exists_run_cons_of_exec hexec
  obtain ⟨hopen, hwakes, hcleaning⟩ := of_decide_eq_true hp
  have hsse : (onOffApi.client.sse onOffNetwork subscribeRequest.path).outcome.2 =
      .done (.new (.ofTurns [onEvent] [[offEvent]] .eof)) := rfl
  obtain ⟨-, hmode, -, hmonitor, -⟩ := stream_cached [onBlock] [[offBlock]] hstart hrun hlabel hsse (by decide +kernel)
    (by decide +kernel) hopen
  rw [show ts.countP (·.label.isWake) = 1 from hwakes] at hmode hmonitor
  refine ⟨us, ts, t, w', hstart, hrun, Option.some.inj hcleaning, hmode.trans (by decide +kernel), ?_⟩
  intro hstreaming
  exact absurd (hmonitor.mp hstreaming).2 (by decide)

end ValetudoMatter
