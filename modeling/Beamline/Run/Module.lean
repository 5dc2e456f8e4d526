import Beamline.Bus.Bindings
import Beamline.Config.Basic
import Beamline.Random.Stream
import Beamline.Run.Error
import Beamline.Run.Program

/-!
Modules: the processing steps of a chain. What a module does in a stage of its life is a program
over the requests below, together with a state of its own; it binds when it is constructed, reads
and dispatches while it runs, and releases its bindings when it is torn down.
-/

namespace Beamline.Run

open Bus

/-- What the code of a module can ask for. Every request concerns its own bindings and lane. -/
inductive Request
  /-- The module's own identity. -/
  | identity
  /-- Makes a slot and binds it. -/
  | bindSlot (kind : SlotKind) (payload : PayloadType) (flags : Flags)
  | register (binding : Binding Filter) (flags : Flags)
  /-- Makes a slot and binds it for another instance in the same lane, of the given name. The
  module's own bindings do not include it. -/
  | bindApart (name : String) (kind : SlotKind) (payload : PayloadType) (flags : Flags)
  | remove (handle : Handle)
  | release
  /-- Dispatches under a name, or else under the module's output name. -/
  | dispatch (message : Message) (name : Option String)
  | hasReceiver (message : Message)
  | read (slot : Slot)
  | drain (slot : Slot)
  | resetSlot (slot : Slot)
  | resetHandle (handle : Handle)
  | resetAll
  | handles
  | isSatisfied (handle : Handle)
  | unmetRequirements
  /-- The calls of an own filter, latest first. -/
  | calls (filter : Nat)
  /-- The counts of a tally by payload name. -/
  | counts (tally : Nat)
  /-- A random number from the stream of the event; outside an event there is no stream. -/
  | draw (draw : Random.Draw)
  | log (line : LogLine)

namespace Request

def Answer : Request → Type
  | identity => Identity
  | bindSlot .. => Except BusError Slot
  | register .. => Except BusError Handle
  | bindApart .. => Except BusError Handle
  | remove _ => Except BusError Unit
  | release => Except BusError Unit
  | dispatch .. => Except BusError Report
  | hasReceiver _ => Bool
  | read _ => List Message
  | drain _ => List Message
  | resetSlot _ => Unit
  | resetHandle _ => Unit
  | resetAll => Unit
  | handles => List Handle
  | isSatisfied _ => Bool
  | unmetRequirements => List BusError
  | calls _ => List Call
  | counts _ => List (String × Nat)
  | draw _ => Option (Except Fault Random.Drawn)
  | log _ => Unit

end Request

def Requests : Signature where
  Operation := Request
  Answer := Request.Answer

/-- Code of a module: a program over requests that changes the module's state, also where it
stops early. -/
abbrev Code (σ α : Type) := ExceptT Stop (StateT σ (Program Requests)) α

namespace Code

variable {σ τ α : Type}

def ask (request : Request) : Code σ request.Answer :=
  ExceptT.lift (StateT.lift (Program.ask (S := Requests) request))

def attempt (result : Except BusError α) : Code σ α :=
  match result with
  | .ok value => pure value
  | .error error => throw (.error (.bus error))

def fail (error : RunError) : Code σ α :=
  throw (.error error)

def orFault (result : Except Fault α) : Code σ α :=
  match result with
  | .ok value => pure value
  | .error fault => throw (.fault fault)

def bindSlot (kind : SlotKind) (payload : PayloadType) (flags : Flags) : Code σ Slot := do
  attempt (← ask (.bindSlot kind payload flags))

def register (binding : Binding Filter) (flags : Flags) : Code σ Handle := do
  attempt (← ask (.register binding flags))

/-- Dispatches under a name, or else under the module's output name. -/
def dispatch (message : Message) (name : Option String := none) : Code σ Report := do
  attempt (← ask (.dispatch message name))

/-- Dispatches a message if it would reach a delegate. -/
def dispatchWanted (message : Message) : Code σ Unit := do
  let wanted : Bool ← ask (.hasReceiver message)
  if wanted then
    let _ ← dispatch message

def release : Code σ Unit := do
  attempt (← ask .release)

/-- A random number, none outside an event. It is a fault to draw from a range without members. -/
def draw (wanted : Random.Draw) : Code σ (Option Random.Drawn) := do
  let drawn : Option (Except Fault Random.Drawn) ← ask (.draw wanted)
  match drawn with
  | none => return none
  | some (.ok value) => return some value
  | some (.error fault) => throw (.fault fault)

/-- A random number from a range; outside an event the lower end stands for it. -/
def number (low high : Float) (inclusive : Bool) : Code σ Float := do
  match ← draw (.range low high inclusive) with
  | some (.number value) => return value
  | _ => return low

/-- Code for a part of a state, run on the whole. -/
def zoom (part : σ → τ) (put : τ → σ → σ) (code : Code τ α) : Code σ α :=
  fun state => do
    let (result, inner) ← code (part state)
    return (result, put inner state)

end Code

/-- What a module does in the stages of its life. -/
structure Behaviour (σ : Type) where
  setUp : Code σ Unit := pure ()
  run : (event : UInt64) → Code σ Unit
  finish : Code σ Unit := pure ()
  tearDown : Code σ Unit := Code.release

namespace Behaviour

variable {σ τ : Type}

def zoom (part : σ → τ) (put : τ → σ → σ) (behaviour : Behaviour τ) : Behaviour σ where
  setUp := behaviour.setUp.zoom part put
  run event := (behaviour.run event).zoom part put
  finish := behaviour.finish.zoom part put
  tearDown := behaviour.tearDown.zoom part put

end Behaviour

/-- An instance of a module. -/
structure Module (σ : Type) where
  bindings : Bindings
  behaviour : Behaviour σ
  state : σ

namespace Module

variable {σ : Type}

def identity (module : Module σ) : Identity :=
  module.bindings.identity

end Module

/-- What the modules of one lane are built from. -/
structure Surroundings where
  lane : LaneId
  detectors : List Detector
  pipeline : Pipeline
  deriving Inhabited

/-- How to build the instances of one module: one for each lane, or one for each detector and
lane. Construction binds what the module wants and gives its behaviour and its first state. -/
structure Blueprint (σ : Type) where
  name : String
  input : String := ""
  output : String := ""
  perDetector : Bool := false
  construct : Surroundings → Option Detector → Code Unit (Behaviour σ × σ)

namespace Blueprint

variable {σ τ : Type}

/-- A blueprint whose instances keep their state in a part of a larger one. -/
def zoom (part : σ → τ) (put : τ → σ → σ) (start : σ) (blueprint : Blueprint τ) : Blueprint σ where
  name := blueprint.name
  input := blueprint.input
  output := blueprint.output
  perDetector := blueprint.perDetector
  construct surroundings detector := do
    let (behaviour, state) ← blueprint.construct surroundings detector
    return (behaviour.zoom part put, put state start)

end Blueprint

end Beamline.Run
