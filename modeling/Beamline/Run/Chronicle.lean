import Beamline.Run.Simulation

/-!
Chronicles: what happens in the event loop of a lane, step by step, down to the calls of its
modules. A loop that keeps one performs the same operations as the loop that does not.
-/

namespace Beamline.Run

variable {σ : Type}

/-- A place in the chain of a lane. Every instance of a module has one. -/
structure Station where
  lane : LaneId
  place : Nat
  deriving DecidableEq

/-- A call of a module in a stage of its life. -/
structure StageCall where
  station : Station
  /-- The unique name of the module. -/
  name : String
  stage : Stage
  /-- The event in which a module runs. -/
  event : Option UInt64 := none
  result : Except Stop Unit
  /-- How many delegates of the module are left after it was torn down without an error. -/
  left : Nat := 0

/-- The calls of an event in one lane, and what the event came to there. -/
structure Round where
  event : UInt64
  calls : List StageCall
  result : Except Stop Unit

/-- A step of an event loop. -/
inductive Milestone (σ : Type)
  /-- The lane looked whether another one failed. -/
  | looked (isAborting : Bool)
  /-- The lane processed an event, and this is how it was afterwards. -/
  | processed (event : UInt64) (calls : List StageCall) (result : Except Stop Unit) (lane : Lane σ)

namespace Milestone

def round? : Milestone σ → Option Round
  | looked _ => none
  | processed event calls result _ => some { event, calls, result }

/-- The event that was processed, with its result. -/
def result? : Milestone σ → Option (UInt64 × Except Stop Unit)
  | looked _ => none
  | processed event _ result _ => some (event, result)

/-- The lane after an event that it completed. -/
def completed? : Milestone σ → Option (Lane σ)
  | processed _ _ (.ok ()) lane => some lane
  | _ => none

end Milestone

/-- What happened in the event loop of a lane, in order. -/
abbrev Chronicle (σ : Type) := List (Milestone σ)

namespace Chronicle

def rounds (chronicle : Chronicle σ) : List Round :=
  chronicle.filterMap Milestone.round?

/-- The events that were processed, with their results. -/
def results (chronicle : Chronicle σ) : List (UInt64 × Except Stop Unit) :=
  chronicle.filterMap Milestone.result?

/-- The lane after each event that it completed. -/
def completed (chronicle : Chronicle σ) : List (Lane σ) :=
  chronicle.filterMap Milestone.completed?

end Chronicle

/-- Calls modules one after the other from a place on, up to the first that stops early. -/
def tellInTurn (stage : Stage) (code : Behaviour σ → Code σ Unit) (event : Option UInt64)
    (lane : LaneId) : (place : Nat) → List (Module σ) → Option EventContext →
      Process ((Except Stop Unit × List (Module σ) × Option EventContext) × List StageCall)
  | _, [], context => return ((.ok (), [], context), [])
  | place, module :: rest, context => do
    let (result, module, context) ← module.call (code module.behaviour) context
    let call : StageCall :=
      { station := { lane, place }, name := module.identity.uniqueName, stage, event, result }
    match result with
    | .error stop =>
      let stop ← module.recordStop stage stop
      return ((.error stop, module :: rest, context), [call])
    | .ok () =>
      let ((result, rest, context), later) ← tellInTurn stage code event lane (place + 1) rest context
      return ((result, module :: rest, context), call :: later)

namespace Lane

/-- Processes one event, and tells the calls of the modules. -/
def tellEvent (lane : Lane σ) (event seed : UInt64) :
    Process ((Except Stop Unit × Lane σ) × List StageCall) := do
  let context : EventContext := { event, stream := .ofEvent seed event }
  let ((result, modules, _), calls) ← tellInTurn .run (fun behaviour => behaviour.run event)
    (some event) lane.id 0 lane.modules (some context)
  let lane := { lane with modules }
  let result ← match result with
    | .error stop => pure (Except.error stop)
    | .ok () => lane.closeEvent
  let _ ← Process.ask .timeEvent
  return ((result, lane), calls)

/-- The event loop of a lane, with a chronicle of it. -/
def tellEvents (plan : Plan) (lane : Lane σ) (event : UInt64) (processed : Nat)
    (past : Chronicle σ) : Process ((Except Stop Nat × Lane σ) × Chronicle σ) :=
  if event < plan.total then
    (Process.ask .isAborting).bind fun (isAborting : Bool) =>
      if isAborting then
        .done ((.error (.error (.aborted lane.id)), lane), past ++ [.looked true])
      else (lane.tellEvent event plan.seed).bind fun ((result, lane), calls) =>
        let past := past ++ [.looked false, .processed event calls result lane]
        match result with
        | .error (.error error) =>
          (Process.ask .abort).bind fun _ => .done ((.error (.error error), lane), past)
        | .error (.fault fault) => .done ((.error (.fault fault), lane), past)
        | .ok () =>
          if event < event + plan.stride then
            tellEvents plan lane (event + plan.stride) (processed + 1) past
          else .done ((.error (.fault .addition), lane), past)
  else .done ((.ok processed, lane), past)
  termination_by plan.total.toNat - event.toNat
  decreasing_by
    simp_all only [UInt64.lt_iff_toNat_lt]
    omega

end Lane

namespace Simulation

/-- The event loops of all lanes, with a chronicle each. -/
def telling (simulation : Simulation σ) (lanes : List (Lane σ)) :
    List (Process ((Except Stop Nat × Lane σ) × Chronicle σ)) :=
  lanes.map fun lane => lane.tellEvents (simulation.plan lanes) lane.id.index.toUInt64 0 []

/-- What happens in the event loops of all lanes, by a schedule. -/
def chronicles (simulation : Simulation σ) (turns : List Nat) (lanes : List (Lane σ))
    (world : World) : List (Chronicle σ) :=
  (runScheduled LaneOperation.perform (simulation.telling lanes) turns
    { world with aborting := false }).1.map Prod.snd

end Simulation

end Beamline.Run
