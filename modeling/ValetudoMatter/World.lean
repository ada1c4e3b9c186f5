import ValetudoMatter.Requests

/-!
# The program and the robot

The program in its surroundings, which are no part of the source: a robot with a status and a preset, that changes by what is
put to it and by others, answers PUTs and polls, and sends an event for every change on the stream that the program has
subscribed to. Answers and events take their time, and events stay in order.
-/

namespace ValetudoMatter

open Coroutine

structure Robot where
  status : DeviceState
  preset : Preset
  deriving DecidableEq, Repr

/-- A list of attributes says nothing wrong about a robot. -/
def Reports (r : Robot) (attrs : List StateAttribute) : Prop :=
  ∀ a ∈ attrs, (∀ s ∈ a.status?, s = r.status) ∧ (∀ m ∈ a.operationMode?, m = r.preset.name)

/-- A list of attributes has a status. -/
def HasStatus (attrs : List StateAttribute) : Prop := ∃ a ∈ attrs, a.status?.isSome

/-- A list of attributes has an operation mode. -/
def HasOperationMode (attrs : List StateAttribute) : Prop := ∃ a ∈ attrs, a.operationMode?.isSome

instance (r : Robot) (attrs : List StateAttribute) : Decidable (Reports r attrs) :=
  inferInstanceAs (Decidable (∀ a ∈ attrs, (∀ s ∈ a.status?, s = r.status) ∧ (∀ m ∈ a.operationMode?, m = r.preset.name)))

instance (attrs : List StateAttribute) : Decidable (HasStatus attrs) :=
  inferInstanceAs (Decidable (∃ a ∈ attrs, a.status?.isSome))

instance (attrs : List StateAttribute) : Decidable (HasOperationMode attrs) :=
  inferInstanceAs (Decidable (∃ a ∈ attrs, a.operationMode?.isSome))

/-- The event that goes with a change of the robot: it reports the new state and carries what has changed. A robot that has not
changed may send one as well, for an attribute that is not modelled. -/
def Announces (r r' : Robot) (event : Option (List StateAttribute)) : Prop :=
  match event with
  | none => r' = r
  | some attrs => Reports r' attrs ∧ (r'.status ≠ r.status → HasStatus attrs) ∧
      (r'.preset ≠ r.preset → HasOperationMode attrs)

instance (r r' : Robot) : (event : Option (List StateAttribute)) → Decidable (Announces r r' event)
  | none => inferInstanceAs (Decidable (r' = r))
  | some attrs => inferInstanceAs (Decidable (Reports r' attrs ∧ (r'.status ≠ r.status → HasStatus attrs) ∧
      (r'.preset ≠ r.preset → HasOperationMode attrs)))

/-- The preset that a request asks for. -/
def HttpRequest.preset? (r : HttpRequest) : Option Preset := Preset.all.find? fun p => r = presetRequest p

/-- A request that starts a clean. -/
def HttpRequest.Starts (r : HttpRequest) : Prop :=
  r = .put basicControlPath "\x7b\"action\": \"start\"\x7d" ∨ r.path = mapSegmentationPath

instance (r : HttpRequest) : Decidable r.Starts :=
  inferInstanceAs (Decidable (r = .put basicControlPath "\x7b\"action\": \"start\"\x7d" ∨ r.path = mapSegmentationPath))

/-- What a PUT that takes effect does to the robot. What the status is after the other controls is left open. -/
def Performs (req : HttpRequest) (r r' : Robot) : Prop :=
  match req.preset? with
  | some p => r' = { r with preset := p }
  | none => r'.preset = r.preset ∧ (req = stopRequest → r'.status.value = .idle) ∧ (req.Starts → r'.status.value = .cleaning)

instance (req : HttpRequest) (r r' : Robot) : Decidable (Performs req r r') :=
  match h : req.preset? with
  | some p => decidable_of_iff (r' = { r with preset := p }) (by simp only [Performs, h])
  | none => decidable_of_iff (r'.preset = r.preset ∧ (req = stopRequest → r'.status.value = .idle) ∧
      (req.Starts → r'.status.value = .cleaning)) (by simp only [Performs, h])

/-- A PUT that is answered with success has taken effect; one that is answered with an error may have. -/
def ActsOn (req : HttpRequest) (res : Except AnyhowError Unit) (r r' : Robot) : Prop :=
  match res with
  | .ok () => Performs req r r'
  | .error _ => Performs req r r' ∨ r' = r

instance (req : HttpRequest) (r r' : Robot) : (res : Except AnyhowError Unit) → Decidable (ActsOn req res r r')
  | .ok () => inferInstanceAs (Decidable (Performs req r r'))
  | .error _ => inferInstanceAs (Decidable (Performs req r r' ∨ r' = r))

/-- The program, the robot, the answer to a poll that is on its way, the status that the last poll was answered with, and the
events on their way, if there is a stream. -/
structure World where
  bridge : Bridge
  robot : Robot
  pollAnswer : Option (List StateAttribute)
  polled : DeviceState
  stream : Option (List (List StateAttribute))

/-- What happens: a command is called; the robot acts on a PUT and answers it; a command is resumed; the robot changes; it
answers a poll; it accepts a subscription; the monitor goes on. -/
inductive WorldLabel where
  | call (c : Command)
  | answer (i : Nat) (res : Except AnyhowError Unit) (robot : Robot) (event : Option (List StateAttribute))
  | resume (i : Nat)
  | change (robot : Robot) (event : Option (List StateAttribute))
  | pollAnswer (attrs : List StateAttribute)
  | accept
  | monitor (ev : MonitorEvent)
  deriving DecidableEq, Repr

namespace World

/-- The program after initialisation, with a robot in any state. -/
def start (d : Device) (robot : Robot) : World :=
  { bridge := .start d, robot := robot, pollAnswer := none, polled := robot.status, stream := none }

/-- The robot after a change, and its event on the stream. -/
def become (w : World) (robot : Robot) (event : Option (List StateAttribute)) : World :=
  { w with robot := robot, stream := w.stream.map (· ++ event.toList) }

/-- What reaches the monitor: the answer to its poll, the acceptance of its subscription, the first of the events; and a
connection may fail or end at any time. -/
def serve (w : World) : MonitorEvent → Option World
  | .begin => some w
  | .timer => some w
  | .polled (.ok attrs) => if w.pollAnswer = some attrs then some { w with pollAnswer := none } else none
  | .polled (.error _) => some { w with pollAnswer := none }
  | .subscribed (.ok ()) => if w.stream.isSome then some w else none
  | .subscribed (.error _) => some { w with stream := none }
  | .event attrs =>
    match w.stream with
    | some (ev :: rest) => if ev = attrs then some { w with stream := some rest } else none
    | _ => none
  | .malformed _ => some { w with stream := none }
  | .streamError _ => some { w with stream := none }
  | .streamEnd => some { w with stream := none }

/-- A step of the program that others see nothing of but `out`. -/
def run (w : World) (l : Label) : Option (World × Out) :=
  (w.bridge.step l).map fun (bridge, out) => ({ w with bridge := bridge }, out)

def step (w : World) : WorldLabel → Option (World × Out)
  | .call c => w.run (.task (.call c))
  | .answer i res robot event =>
    match w.bridge.tasks.tasks[i]? with
    | some t =>
      if ActsOn t.request res w.robot robot ∧ Announces w.robot robot event then
        (w.become robot event).run (.task (.answer i res))
      else none
    | none => none
  | .resume i => w.run (.task (.resume i))
  | .change robot event =>
    if Announces w.robot robot event then some (w.become robot event, ⟨[], [], none⟩) else none
  | .pollAnswer attrs =>
    if w.bridge.monitor = .polling ∧ w.pollAnswer = none ∧ Reports w.robot attrs ∧ HasStatus attrs then
      some ({ w with pollAnswer := some attrs, polled := w.robot.status }, ⟨[], [], none⟩)
    else none
  | .accept =>
    if w.bridge.monitor = .subscribing ∧ w.stream = none then
      some ({ w with stream := some [] }, ⟨[], [], none⟩)
    else none
  | .monitor ev => (w.serve ev).bind fun w => w.run (.monitor ev)

end World

/-- A step of the program and its surroundings. -/
abbrev WorldStep : Type := Lts.Transition World WorldLabel Out

/-- The steps `ts` lead from one state of the program and its surroundings to another. -/
abbrev World.Run (w : World) (ts : List WorldStep) (w' : World) : Prop := Lts.Run World.step w ts w'

end ValetudoMatter
