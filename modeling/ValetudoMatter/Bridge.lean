import ValetudoMatter.Lib.Lts
import ValetudoMatter.Node

/-!
# The bridge

The running program: the device, the commands that wait for an answer of the robot, and the background worker
`monitor_status`, which polls the state, subscribes to the event stream and applies what arrives, and starts over a second
after the stream is gone. Commands and worker share the device and interleave at their awaits.
-/

namespace ValetudoMatter

open Coroutine

/-! ## The monitor -/

/-- Where `monitor_status` waits: not yet run, for the answer to its poll, for the answer to its subscription, for the next
item of the stream, or for the timer. -/
inductive Monitor where
  | ready | polling | subscribing | streaming | waiting
  deriving DecidableEq, Repr

/-- What the monitor waits for. -/
inductive MonitorEvent where
  | begin
  | polled (attributes : Except AnyhowError (List StateAttribute))
  | subscribed (r : Except AnyhowError Unit)
  | event (ev : List StateAttribute)
  | malformed (e : AnyhowError)
  | streamError (e : AnyhowError)
  | streamEnd
  | timer
  deriving DecidableEq, Repr

/-- The request of the poll. -/
def pollRequest : HttpRequest := .get "/api/v2/robot/state/attributes"

/-- The request of the subscription. -/
def subscribeRequest : HttpRequest := .get "/api/v2/robot/state/attributes/sse"

/-- `apply_attributes`, with the clusters that `run` passes to the monitor. -/
def Device.apply (device : Device) (attrs : List StateAttribute) : Device × List Notification :=
  device.applyAttributes .rvcRunMode .rvcCleanMode .rvcOperationalState attrs

/-- What a step of the program does that others see. -/
structure Out where
  notified : List Notification
  sent : List HttpRequest
  replied : Option (Command × Exit MatterError Reply)
  deriving DecidableEq, Repr

/-- `monitor_status`, from one await to the next. Whatever ends `monitor_status_once` is followed by a second of waiting. -/
def Device.monitorStep (device : Device) : Monitor → MonitorEvent → Option (Device × Monitor × Out)
  | .ready, .begin => some (device, .polling, ⟨[], [pollRequest], none⟩)
  | .polling, .polled (.error _) => some (device, .waiting, ⟨[], [], none⟩)
  | .polling, .polled (.ok attributes) =>
    let (device, ns) := device.apply attributes
    some (device, .subscribing, ⟨ns, [subscribeRequest], none⟩)
  | .subscribing, .subscribed (.error _) => some (device, .waiting, ⟨[], [], none⟩)
  | .subscribing, .subscribed (.ok ()) => some (device, .streaming, ⟨[], [], none⟩)
  | .streaming, .event ev =>
    let (device, ns) := device.apply ev
    some (device, .streaming, ⟨ns, [], none⟩)
  | .streaming, .malformed _ => some (device, .waiting, ⟨[], [], none⟩)
  | .streaming, .streamError _ => some (device, .waiting, ⟨[], [], none⟩)
  | .streaming, .streamEnd => some (device, .waiting, ⟨[], [], none⟩)
  | .waiting, .timer => some (device, .polling, ⟨[], [pollRequest], none⟩)
  | _, _ => none

/-! ## The program -/

/-- The tasks of the program: commands that wait for the answer to a PUT. -/
abbrev Tasks : Type := Pool Device Notification HttpRequest (Except AnyhowError Unit) MatterError Reply Command

structure Bridge where
  tasks : Tasks
  monitor : Monitor

/-- A step of the program: of a command, or of the monitor. -/
inductive Label where
  | task (e : Event (Except AnyhowError Unit) Command)
  | monitor (ev : MonitorEvent)
  deriving DecidableEq, Repr

/-- The device of the program. -/
def Bridge.device (b : Bridge) : Device := b.tasks.state

/-- The program after initialisation. -/
def Bridge.start (device : Device) : Bridge :=
  { tasks := { state := device, tasks := [], alive := true }, monitor := .ready }

/-- What others see of a segment of a command. -/
def Out.ofSegment : Option (Segment Notification HttpRequest MatterError Reply Command) → Out
  | some ⟨_, ns, .await r⟩ => ⟨ns, [r], none⟩
  | some ⟨c, ns, .exit x⟩ => ⟨ns, [], some (c, x)⟩
  | none => ⟨[], [], none⟩

def Bridge.step (b : Bridge) : Label → Option (Bridge × Out)
  | .task e => (b.tasks.step dmHandler e).map fun r => ({ b with tasks := r.1 }, Out.ofSegment r.2)
  | .monitor ev =>
    if b.tasks.alive then
      (b.device.monitorStep b.monitor ev).map fun (device, monitor, out) =>
        ({ tasks := { b.tasks with state := device }, monitor := monitor }, out)
    else none

/-- A step of the program, with the states before and after it. -/
abbrev Step : Type := Lts.Transition Bridge Label Out

/-- The steps `ts` of the program lead from one state to another. -/
abbrev Bridge.Run (b : Bridge) (ts : List Step) (b' : Bridge) : Prop := Lts.Run Bridge.step b ts b'

end ValetudoMatter
