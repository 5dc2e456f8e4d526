import Beamline.Run.Module
import Beamline.Telemetry.Metrics

/-!
What the lanes of a run share, and what the operations of a lane do to it. Each operation is atomic:
lanes can take turns between operations, but not within one.
-/

namespace Beamline.Run

open Bus

structure World where
  bus : Bus := {}
  metrics : Telemetry.Metrics := {}
  /-- The lines that modules logged, latest first. -/
  lines : List LogLine := []
  /-- Whether a lane failed, so that the others shall stop. -/
  aborting : Bool := false
  deriving Inhabited

/-- An event while modules run on it: its number and what is left of its random stream. -/
structure EventContext where
  event : UInt64
  stream : Random.Stream
  deriving Inhabited

/-- What belongs to one module while its code runs. -/
structure Scope where
  bindings : Bindings
  /-- The event, none outside an event. -/
  context : Option EventContext := none
  deriving Inhabited

namespace World

/-- A new instance with a number of its own. -/
def newIdentity (world : World) (name : String) (detector : Option Detector) (lane : LaneId)
    (input output : String) : Identity × World :=
  let (number, store) := world.bus.store.fresh
  ({ number, name, detector, lane, input, output }, { world with bus.store := store })

/-- The counters, with the messages that monitors observed. -/
def exposed (world : World) : Telemetry.Metrics :=
  world.bus.store.monitored.foldl Telemetry.Metrics.observe world.metrics

end World

def drawFrom (draw : Random.Draw) :
    Option EventContext → Option (Except Fault Random.Drawn) × Option EventContext
  | none => (none, none)
  | some context =>
    let (result, stream) := draw.perform context.stream
    (some result, some { context with stream })

namespace Request

def perform (request : Request) (scope : Scope) (world : World) :
    (request.Answer × Scope) × World :=
  match request with
  | identity => ((scope.bindings.identity, scope), world)
  | bindSlot kind payload flags =>
    let (result, bindings, bus) := scope.bindings.bindSlot world.bus kind payload flags
    ((result, { scope with bindings }), { world with bus })
  | register binding flags =>
    let (result, bindings, bus) := scope.bindings.register world.bus binding flags
    ((result, { scope with bindings }), { world with bus })
  | bindApart name kind payload flags =>
    let (receiver, world) := world.newIdentity name none scope.bindings.identity.lane "" ""
    let (slot, store) := world.bus.store.newSlot kind payload
    let (result, bus) := { world.bus with store }.register receiver (.slot slot) flags
    ((result, scope), { world with bus })
  | remove handle =>
    let (result, bus) := world.bus.remove handle
    ((result, scope), { world with bus })
  | release =>
    let (result, bindings, bus) := scope.bindings.release world.bus
    ((result, { scope with bindings }), { world with bus })
  | dispatch message name =>
    let (result, bus) := scope.bindings.dispatch world.bus message name
    ((result, scope), { world with bus })
  | hasReceiver message => ((scope.bindings.hasReceiver world.bus message, scope), world)
  | read slot => ((world.bus.store.contents slot, scope), world)
  | drain slot =>
    let (messages, store) := world.bus.store.drain slot
    ((messages, scope), { world with bus.store := store })
  | resetSlot slot => (((), scope), { world with bus.store := world.bus.store.resetSlot slot })
  | resetHandle handle => (((), scope), { world with bus := world.bus.reset handle })
  | resetAll => (((), scope), { world with bus := scope.bindings.reset world.bus })
  | handles => ((scope.bindings.handles, scope), world)
  | isSatisfied handle => ((handle.isSatisfied world.bus.store, scope), world)
  | unmetRequirements => ((scope.bindings.unmetRequirements world.bus, scope), world)
  | calls filter => (((world.bus.store.filterState filter).calls, scope), world)
  | counts tally => ((world.bus.store.counts tally, scope), world)
  | draw wanted =>
    let (result, context) := drawFrom wanted scope.context
    ((result, { scope with context }), world)
  | log line => (((), scope), { world with lines := line :: world.lines })

end Request

/-- What a lane can do to the world. -/
inductive LaneOperation
  /-- Answers a request of a module. -/
  | request (scope : Scope) (wanted : Request)
  | isAborting
  | abort
  | clearSent (lane : LaneId)
  | countEvent (lane : LaneId)
  | timeEvent
  | countError (name kind : String)
  /-- How many delegates still deliver to an instance. -/
  | delegatesOf (identity : Identity)

namespace LaneOperation

/-- The type of the answer to an operation. -/
def Answer : LaneOperation → Type
  | request _ wanted => wanted.Answer × Scope
  | isAborting => Bool
  | abort => Unit
  | clearSent _ => Nat
  | countEvent _ => Unit
  | timeEvent => Unit
  | countError .. => Unit
  | delegatesOf _ => Nat

def perform (operation : LaneOperation) (world : World) : operation.Answer × World :=
  match operation with
  | request scope wanted => wanted.perform scope world
  | isAborting => (world.aborting, world)
  | abort => ((), { world with aborting := true })
  | clearSent lane =>
    let (count, messenger) := world.bus.messenger.clearSent lane
    (count, { world with bus.messenger := messenger })
  | countEvent lane => ((), { world with metrics := world.metrics.countEvent lane })
  | timeEvent => ((), { world with metrics := world.metrics.timeEvent })
  | countError name kind => ((), { world with metrics := world.metrics.countError name kind })
  | delegatesOf identity => ((world.bus.messenger.delegatesOf identity).length, world)

end LaneOperation

def LaneOperations : Signature where
  Operation := LaneOperation
  Answer := LaneOperation.Answer

/-- What a lane does, as a program over its operations. -/
abbrev Process (α : Type) := Program LaneOperations α

namespace Process

variable {α : Type}

def ask (operation : LaneOperation) : Process operation.Answer :=
  Program.ask (S := LaneOperations) operation

/-- A request of a module as an operation of its lane. -/
def request (wanted : Requests.Operation) (scope : Scope) :
    Process (Requests.Answer wanted × Scope) :=
  ask (.request scope wanted)

/-- Runs a process to its end, nothing else happening meanwhile. -/
def finish (process : Process α) (world : World) : α × World :=
  process.run LaneOperation.perform world

end Process

end Beamline.Run
