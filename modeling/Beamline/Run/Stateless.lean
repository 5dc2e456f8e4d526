import Beamline.Run.Record

namespace Beamline.Run

open Bus

/-- Where a module receives messages. A filter decides on each message alone; only one for every
type learns the name. -/
inductive Intake
  | slot (kind : SlotKind) (payload : PayloadType)
  | filter (payload : PayloadType) (accepts : Message → Bool)
  | anyFilter (accepts : Message → (name : String) → Bool)

namespace Intake

def kind : Intake → DelegateKind
  | slot .single _ => .single
  | slot .multi _ => .multi
  | filter .. => .filter
  | anyFilter _ => .anyFilter

end Intake

/-- What a module wants to receive, with options that suit. -/
structure Want where
  intake : Intake
  flags : Flags := {}
  suits : flags.incompatibility intake.kind = none := by rfl

namespace Want

/-- Binds what a module wants; the slot, if it is one. -/
def bind (want : Want) : Code Unit (Option Slot) :=
  match want.intake with
  | .slot kind payload => do
    return some (← Code.bindSlot kind payload want.flags)
  | .filter payload accepts => do
    let _ ← Code.register
      (.filter payload { accepts := fun _ message _ => accepts message }) want.flags
    return none
  | .anyFilter accepts => do
    let _ ← Code.register
      (.anyFilter { accepts := fun _ message name => accepts message (name.getD "") }) want.flags
    return none

def bindAll : List Want → Code Unit (List (Option Slot))
  | [] => return []
  | want :: rest => do
    let slot ← want.bind
    let slots ← bindAll rest
    return slot :: slots

end Want

/-- What a module without a state can do. -/
inductive Look
  /-- Looks at the messages in the slot that was wanted at a place. -/
  | received (place : Nat)
  /-- Takes the messages out of that slot. -/
  | drained (place : Nat)
  | hasReceiver (message : Message)
  /-- Dispatches under a name, or else under the module's output name; an error ends the code. -/
  | dispatch (message : Message) (name : Option String)
  /-- Dispatches, whether or not an error ends the delivery. -/
  | offer (message : Message) (name : Option String)
  | draw (draw : Random.Draw)

namespace Look

def Answer : Look → Type
  | received _ | drained _ => List Message
  | hasReceiver _ => Bool
  | dispatch .. => Report
  | offer .. => Option Report
  | draw _ => Option Random.Drawn

/-- Code that looks into the slot that was wanted at a place, if it is one. -/
def ofSlot (slots : List (Option Slot)) (place : Nat) (look : Slot → Code Unit (List Message)) :
    Code Unit (List Message) :=
  match slots[place]? with
  | some (some slot) => look slot
  | _ => pure []

/-- The code of a module that bound these slots. -/
def code (slots : List (Option Slot)) : (look : Look) → Code Unit look.Answer
  | received place => ofSlot slots place fun slot => Code.ask (.read slot)
  | drained place => ofSlot slots place fun slot => Code.ask (.drain slot)
  | hasReceiver message => Code.ask (.hasReceiver message)
  | dispatch message name => Code.dispatch message name
  | offer message name => do
    let result : Except BusError Report ← Code.ask (.dispatch message name)
    match result with
    | .ok report => (pure (some report) : Code Unit (Option Report))
    | .error _ => (pure none : Code Unit (Option Report))
  | draw wanted => Code.draw wanted

end Look

def Looks : Signature where
  Operation := Look
  Answer := Look.Answer

/-- What a module without a state does at once: it succeeds or fails. -/
abbrev Reaction := Program Looks (Except RunError Unit)

/-- The code of a module that bound these slots. -/
def Reaction.code (slots : List (Option Slot)) : Reaction → Code Unit Unit
  | .done (.ok ()) => pure ()
  | .done (.error error) => Code.fail error
  | .call look next => do
    let answer ← Look.code slots look
    code slots (next answer)

/-- A module without a state, for each lane or for each detector and lane. -/
structure Part where
  name : String
  input : String := ""
  output : String := ""
  perDetector : Bool := false
  wants : Option Detector → List Want := fun _ => []
  setUp : Option Detector → Reaction := fun _ => .done (.ok ())
  run : Option Detector → (event : UInt64) → Reaction
  finish : Option Detector → Reaction := fun _ => .done (.ok ())

namespace Part

def behaviour (part : Part) (detector : Option Detector) (slots : List (Option Slot)) :
    Behaviour Unit where
  setUp := (part.setUp detector).code slots
  run event := (part.run detector event).code slots
  finish := (part.finish detector).code slots

def blueprint (part : Part) : Blueprint Unit where
  name := part.name
  input := part.input
  output := part.output
  perDetector := part.perDetector
  construct _ detector := do
    let slots ← Want.bindAll (part.wants detector)
    return (part.behaviour detector slots, ())

end Part

/-- A simulation of modules without a state. -/
def Simulation.ofParts (config : Config) (detectors : List Detector) (parts : List Part) :
    Simulation Unit where
  config
  detectors
  blueprints := parts.map Part.blueprint

end Beamline.Run
