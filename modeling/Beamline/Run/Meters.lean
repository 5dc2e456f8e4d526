import Beamline.Run.Lifecycle

namespace Beamline

namespace Telemetry

/-- A count of the events and errors of runs. -/
inductive Meter
  | timed
  | processed (lane : LaneId)
  /-- Errors by module and kind. -/
  | failed (label : String × String)
  deriving DecidableEq

def Metrics.reading (metrics : Metrics) : Meter → Nat
  | .timed => metrics.timed
  | .processed lane => metrics.processed.count lane
  | .failed label => metrics.moduleErrors.count label

end Telemetry

namespace Run

/-- Why a call failed, as its module or the check after its tear-down put it; none if it did not. -/
def StageCall.error? (call : StageCall) : Option RunError :=
  match call.result with
  | .error (.error error) => some error
  | .error (.fault _) => none
  | .ok () =>
    if call.left = 0 then none
    else some (.module call.name .tearDown (toString call.left ++ " delegates still registered"))

/-- The label under which a failed call is counted: the module, and the kind of the error. -/
def StageCall.failure? (call : StageCall) : Option (String × String) :=
  call.error?.map fun error => (call.name, error.kind)

def StageCall.failed (call : StageCall) : Bool :=
  call.failure?.isSome

namespace Round

/-- Whether an event came to its end: all modules ran, nothing required was missing, and all storage
was emptied. -/
def completed (round : Round) : Bool :=
  match round.result with
  | .ok () => true
  | .error _ => false

/-- The label under which a failed event is counted: that of the call that failed, or else the
module that did not get what it requires. -/
def failure? (round : Round) : Option (String × String) :=
  (round.calls.findSome? StageCall.failure?).or <|
    match round.result with
    | .error (.error (.bus (.unmetRequirement module payload name))) =>
      some (module, RunError.kind (.bus (.unmetRequirement module payload name)))
    | _ => none

/-- Whether one of the events of a lane failed. -/
def anyFailed (rounds : List Round) : Bool :=
  rounds.any fun round => !round.completed

end Round

namespace Life

def roundsOf (life : Life) (lane : LaneId) : List Round :=
  (life.rounds[lane.index.toNat]?).getD []

/-- How many lanes have an event of their own that failed. -/
def failedLanes (life : Life) : Nat :=
  life.rounds.countP Round.anyFailed

def failures (life : Life) : List (String × String) :=
  life.setUps.filterMap StageCall.failure? ++
    (life.rounds.flatMap fun rounds => rounds.filterMap Round.failure?) ++
    life.finishes.filterMap StageCall.failure? ++ life.tearDowns.filterMap StageCall.failure?

end Life

end Run

end Beamline
