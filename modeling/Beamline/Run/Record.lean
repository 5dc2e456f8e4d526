import Beamline.Run.Chronicle

namespace Beamline.Run

open Bus

/-- An operation of a lane, with the world before and after it. -/
structure Instant where
  operation : LaneOperation
  before : World
  after : World

/-- What the lanes of a run did, in order. -/
abbrev Record := List Instant

/-- The message that a request dispatches, if it is a dispatch. -/
def Request.sent : Request → List Message
  | dispatch message _ => [message]
  | _ => []

namespace Instant

/-- The messages that a lane dispatched since it completed an event, none if it completed none. -/
def follow (lane : LaneId) (since : Option (List Message)) (instant : Instant) :
    Option (List Message) :=
  match instant.operation with
  | .countEvent other => if other = lane then some [] else since
  | .request scope wanted =>
    if scope.bindings.identity.lane = lane then since.map (· ++ wanted.sent) else since
  | _ => since

/-- The world in which a lane completed an event. -/
def closing? (lane : LaneId) (instant : Instant) : Option World :=
  match instant.operation with
  | .countEvent other => if other = lane then some instant.after else none
  | _ => none

end Instant

namespace Record

/-- The messages that a lane dispatched since it completed an event, none if it completed none. -/
def inEvent (lane : LaneId) (record : Record) : Option (List Message) :=
  record.foldl (Instant.follow lane) none

/-- The worlds in which a lane completed its events, in order. -/
def closings (lane : LaneId) (record : Record) : List World :=
  record.filterMap (Instant.closing? lane)

end Record

/-- What an event consists of, as its modules notice it. -/
inductive Sight
  /-- A module looked at the messages in one of its slots. -/
  | received (module : String) (messages : List Message)
  /-- A module dispatched a message under a name; an error may have ended the delivery. -/
  | dispatched (module : String) (message : Message) (name : String) (completed : Bool)

/-- What a module noticed or did in an event, with the lane and the number of the event. -/
def Instant.sight? (instant : Instant) : Option (LaneId × UInt64 × Sight) :=
  match instant.operation with
  | .request { bindings, context := some context } (.read slot)
  | .request { bindings, context := some context } (.drain slot) =>
    let messages := instant.before.bus.store.contents slot
    some (bindings.identity.lane, context.event, .received bindings.identity.uniqueName messages)
  | .request { bindings, context := some context } (.dispatch message name) =>
    let (result, _) := bindings.dispatch instant.before.bus message name
    some (bindings.identity.lane, context.event, .dispatched bindings.identity.uniqueName message
      (name.getD bindings.identity.output) result.isOk)
  | _ => none

namespace Record

/-- What a lane noticed and did, each with the number of the event. -/
def seenBy (lane : LaneId) (record : Record) : List (UInt64 × Sight) :=
  (record.filterMap Instant.sight?).filterMap fun (other, sight) =>
    if other = lane then some sight else none

/-- What the modules noticed and did in an event. -/
def sights (event : UInt64) (record : Record) : List Sight :=
  (record.filterMap Instant.sight?).filterMap fun (_, number, sight) =>
    if number = event then some sight else none

end Record

/-- Performs an operation and records it. -/
def LaneOperation.performRecorded (operation : LaneOperation) (state : World × Record) :
    operation.Answer × (World × Record) :=
  let (answer, world) := operation.perform state.1
  (answer, world, state.2 ++ [{ operation, before := state.1, after := world }])

namespace Simulation

variable {σ : Type}

/-- The world in which the events of a run begin, none if the run does not come to them. -/
def start? (simulation : Simulation σ) (world : World) : Option World :=
  match simulation.buildLanes simulation.config.workers.toNat 0 world with
  | (.error _, _) => none
  | (.ok lanes, world) =>
    match (stageInTurn .setUp Behaviour.setUp lanes).finish world with
    | ((.error _, _), _) => none
    | ((.ok (), _), world) => some world

/-- Nothing is received before the first event. -/
def Quiet (simulation : Simulation σ) (world : World) : Prop :=
  ∀ start ∈ simulation.start? world, ∀ handle ∈ start.bus.messenger.registry.handles,
    handle.isSatisfied start.bus.store = false

/-- What happens in the event loops of a run, lane by lane and altogether, nothing if the run does
not come to them. -/
def recorded (simulation : Simulation σ) (turns : List Nat) (world : World) :
    List (Chronicle σ) × Record :=
  match simulation.buildLanes simulation.config.workers.toNat 0 world with
  | (.error _, _) => ([], [])
  | (.ok lanes, world) =>
    match (stageInTurn .setUp Behaviour.setUp lanes).finish world with
    | ((.error _, _), _) => ([], [])
    | ((.ok (), lanes), world) =>
      let (ended, _, record) := runScheduled LaneOperation.performRecorded
        (simulation.telling lanes) turns ({ world with aborting := false }, [])
      (ended.map Prod.snd, record)

end Simulation

end Beamline.Run
