import ValetudoMatter.Bridge
import ValetudoMatter.Http.Exchange

/-!
# The program on the wire

The program with the client and the decoder in place: what reaches it are not results but exchanges, and not events but the wake
ups of a stream, whose bytes it reads until the next read is pending. Between two awaits the monitor may apply many events.
-/

namespace ValetudoMatter

open Coroutine

/-- The client, and what `serde_json` makes of a response and of an event. -/
structure Api where
  client : ValetudoClient
  fromSlice : List UInt8 → Except AnyhowError (List StateAttribute)
  fromStr : String → Except AnyhowError (List StateAttribute)

/-- Where `monitor_status` waits, with the stream that it reads. -/
inductive WireMonitor where
  | ready
  | polling
  | subscribing
  | streaming (stream : SseStream)
  | waiting

/-- What the monitor waits for: an exchange, a wake up of the stream, or the timer. -/
inductive WireEvent where
  | begin
  | polled (net : Network)
  | subscribed (net : Network)
  | wake
  | timer

/-- The loop over the items of the stream: what it applies and notifies, and where it waits or leaves. -/
def Device.readStream (api : Api) (device : Device) (stream : SseStream) : Device × List Notification × WireMonitor :=
  match _h : stream.pollNext with
  | (.pending, rest) => (device, [], .streaming rest)
  | (.ready none, _) => (device, [], .waiting)
  | (.ready (some (.error _)), _) => (device, [], .waiting)
  | (.ready (some (.ok s)), rest) =>
    match api.fromStr s with
    | .error _ => (device, [], .waiting)
    | .ok ev =>
      let (device, ns) := device.apply ev
      let (device, ms, monitor) := device.readStream api rest
      (device, ns ++ ms, monitor)
termination_by stream.weight
decreasing_by
  have := SseStream.pollNext_weight (s := stream) (by rw [_h]; simp)
  rw [_h] at this
  exact this

/-- How a segment of the monitor ends: at the next await, or in a panic. -/
inductive Progress where
  | on (device : Device) (monitor : WireMonitor) (out : Out)
  | panic

/-- `monitor_status`, from one await to the next. -/
def Device.wireStep (api : Api) (device : Device) : WireMonitor → WireEvent → Option Progress
  | .ready, .begin => some (.on device .polling ⟨[], [pollRequest], none⟩)
  | .polling, .polled net =>
    match (api.client.get api.fromSlice net pollRequest.path).outcome.2 with
    | .abort => some .panic
    | .fail _ => some (.on device .waiting ⟨[], [], none⟩)
    | .done attributes =>
      let (device, ns) := device.apply attributes
      some (.on device .subscribing ⟨ns, [subscribeRequest], none⟩)
  | .subscribing, .subscribed net =>
    match (api.client.sse net subscribeRequest.path).outcome.2 with
    | .abort => some .panic
    | .fail _ => some (.on device .waiting ⟨[], [], none⟩)
    | .done stream =>
      let (device, ns, monitor) := device.readStream api stream
      some (.on device monitor ⟨ns, [], none⟩)
  | .streaming stream, .wake =>
    let (device, ns, monitor) := device.readStream api stream
    some (.on device monitor ⟨ns, [], none⟩)
  | .waiting, .timer => some (.on device .polling ⟨[], [pollRequest], none⟩)
  | _, _ => none

structure Wire where
  tasks : Tasks
  monitor : WireMonitor

/-- A step: a command is called, the exchange of its PUT is over, it is resumed; or the monitor goes on. -/
inductive WireLabel where
  | call (c : Command)
  | answer (i : Nat) (net : Network)
  | resume (i : Nat)
  | monitor (ev : WireEvent)

namespace Wire

/-- The program after initialisation. -/
def start (device : Device) : Wire :=
  { tasks := { state := device, tasks := [], alive := true }, monitor := .ready }

/-- A step of the tasks. -/
def run (w : Wire) (e : Event (Except AnyhowError Unit) Command) : Option (Wire × Out) :=
  (w.tasks.step dmHandler e).map fun r => ({ w with tasks := r.1 }, Out.ofSegment r.2)

/-- A panic. -/
def die (w : Wire) : Wire × Out := ({ w with tasks := { w.tasks with alive := false } }, ⟨[], [], none⟩)

def step (api : Api) (w : Wire) : WireLabel → Option (Wire × Out)
  | .call c => w.run (.call c)
  | .answer i net =>
    match w.tasks.tasks[i]? with
    | some t =>
      match (api.client.put net t.request.path t.request.body).outcome.2 with
      | .abort => if w.tasks.alive ∧ t.answer.isNone then some w.die else none
      | .fail e => w.run (.answer i (.error e))
      | .done () => w.run (.answer i (.ok ()))
    | none => none
  | .resume i => w.run (.resume i)
  | .monitor ev =>
    if w.tasks.alive then
      (w.tasks.state.wireStep api w.monitor ev).map fun
        | .on device monitor out => ({ tasks := { w.tasks with state := device }, monitor := monitor }, out)
        | .panic => w.die
    else none

end Wire

/-- A step of the program on the wire. -/
abbrev WireStep : Type := Lts.Transition Wire WireLabel Out

/-- The steps `ts` of the program on the wire lead from one state to another. -/
abbrev Wire.Run (api : Api) (w : Wire) (ts : List WireStep) (w' : Wire) : Prop := Lts.Run (Wire.step api) w ts w'

end ValetudoMatter
