import Beamline.Run.Simulation

namespace Beamline.Run

open Bus

/-- An operation of a lane and its answer. -/
structure Note where
  operation : LaneOperation
  answer : operation.Answer

/-- A message that a module dispatched in an event, and what came of it. -/
structure Sending where
  lane : LaneId
  event : UInt64
  message : Message
  name : String
  result : Except BusError Report

namespace Note

/-- The dispatch that was noted, if it was one in an event. -/
def sending? : Note → Option Sending
  | { operation := .request scope (.dispatch message name), answer } =>
    scope.context.map fun context => {
      lane := scope.bindings.identity.lane
      event := context.event
      message
      name := name.getD scope.bindings.identity.output
      result := answer.1 }
  | _ => none

/-- The errors for required bindings that a module was found with at the end of an event. -/
def unmet : Note → List BusError
  | { operation := .request _ .unmetRequirements, answer } => answer.1
  | _ => []

end Note

/-- The messages that were dispatched, in order. -/
def sendings (notes : List Note) : List Sending :=
  notes.filterMap Note.sending?

/-- The messages that were dispatched in an event, in order and with their names. -/
def sentIn (event : UInt64) (notes : List Note) : List (Message × String) :=
  ((sendings notes).filter fun sending => sending.event == event).map fun sending =>
    (sending.message, sending.name)

def LaneOperation.performNoted (operation : LaneOperation) (state : World × List Note) :
    operation.Answer × (World × List Note) :=
  let (answer, world) := operation.perform state.1
  (answer, world, state.2 ++ [{ operation, answer }])

namespace Simulation

variable {σ : Type}

/-- What the lanes of a run do from the first event to the last, nothing if the run does not come to
that. -/
def notes (simulation : Simulation σ) (turns : List Nat) (world : World) : List Note :=
  match simulation.buildLanes simulation.config.workers.toNat 0 world with
  | (.error _, _) => []
  | (.ok lanes, world) =>
    match (stageInTurn .setUp Behaviour.setUp lanes).finish world with
    | ((.error _, _), _) => []
    | ((.ok (), lanes), world) =>
      let (_, _, notes) := runScheduled LaneOperation.performNoted (simulation.loops lanes) turns
        ({ world with aborting := false }, [])
      notes

end Simulation

end Beamline.Run
