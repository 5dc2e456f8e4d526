import Beamline.Run.World

/-!
Lanes: replicas of the module chain. A lane processes every event whose number has the lane's
remainder; for each it runs the modules, checks what is required and empties all storage.
-/

namespace Beamline.Run

open Bus

variable {σ : Type}

namespace Module

/-- Runs code of a module, with its bindings and its state. -/
def call {α : Type} (module : Module σ) (code : Code σ α) (context : Option EventContext) :
    Process (Except Stop α × Module σ × Option EventContext) := do
  let program : Program Requests (Except Stop α × σ) := code module.state
  let ((result, state), scope) ←
    program.within Process.request { bindings := module.bindings, context : Scope }
  return (result, { module with state, bindings := scope.bindings }, scope.context)

/-- One request on behalf of a module, outside its code. -/
def ask (module : Module σ) (request : Request) : Process request.Answer := do
  let (answer, _) ← Process.request request { bindings := module.bindings }
  return answer

/-- Counts an error of a module and puts it into the form in which the run reports it. -/
def recordError (module : Module σ) (stage : Stage) (error : RunError) : Process RunError := do
  let name := module.identity.uniqueName
  let _ ← Process.ask (.countError name error.kind)
  return error.inModule name stage

/-- The same for anything that stops a module; a fault is not counted. -/
def recordStop (module : Module σ) (stage : Stage) : Stop → Process Stop
  | .error error => return .error (← module.recordError stage error)
  | .fault fault => return .fault fault

/-- Tears a module down. Delegates that it leaves registered are an error, too. -/
def tearDown (module : Module σ) : Process (Except Stop Unit × Module σ) := do
  let (result, module, _) ← module.call module.behaviour.tearDown none
  match result with
  | .error stop => return (.error stop, module)
  | .ok () =>
    let left : Nat ← Process.ask (.delegatesOf module.identity)
    if left = 0 then return (.ok (), module)
    else
      let message := toString left ++ " delegates still registered"
      return (.error (.error (.module module.identity.uniqueName .tearDown message)), module)

end Module

/-- Calls modules one after the other, up to the first that stops early. -/
def callInTurn (stage : Stage) (code : Behaviour σ → Code σ Unit) :
    List (Module σ) → Option EventContext →
      Process (Except Stop Unit × List (Module σ) × Option EventContext)
  | [], context => return (.ok (), [], context)
  | module :: rest, context => do
    let (result, module, context) ← module.call (code module.behaviour) context
    match result with
    | .error stop =>
      let stop ← module.recordStop stage stop
      return (.error stop, module :: rest, context)
    | .ok () =>
      let (result, rest, context) ← callInTurn stage code rest context
      return (result, module :: rest, context)

/-- The first module with a required binding that got nothing, and the error for that binding. -/
def firstUnmet : List (Module σ) → Process (Option (Module σ × BusError))
  | [] => return none
  | module :: rest => do
    let unmet : List BusError ← module.ask .unmetRequirements
    match unmet with
    | error :: _ => return some (module, error)
    | [] => firstUnmet rest

def resetModules : List (Module σ) → Process Unit
  | [] => return ()
  | module :: rest => do
    let _ ← module.ask .resetAll
    resetModules rest

/-- Tears modules down, all of them whatever fails. -/
def tearDownModules : List (Module σ) → Process (Except Stop Unit × List (Module σ))
  | [] => return (.ok (), [])
  | module :: rest => do
    let (result, module) ← module.tearDown
    match result with
    | .error (.fault fault) => return (.error (.fault fault), module :: rest)
    | .error (.error error) =>
      let error ← module.recordError .tearDown error
      let (later, rest) ← tearDownModules rest
      return (Stop.both (.error (.error error)) later, module :: rest)
    | .ok () =>
      let (later, rest) ← tearDownModules rest
      return (later, module :: rest)

/-- One replica of the chain. -/
structure Lane (σ : Type) where
  id : LaneId
  modules : List (Module σ)

/-- What all lanes know about the events of a run. -/
structure Plan where
  total : UInt64
  /-- The distance between the events of one lane. -/
  stride : UInt64
  seed : UInt64
  deriving DecidableEq, Repr, Inhabited

namespace Lane

/-- The end of an event in which all modules ran: what is required must be there, and then all
storage is emptied. -/
def closeEvent (lane : Lane σ) : Process (Except Stop Unit) := do
  match ← firstUnmet lane.modules with
  | some (module, error) =>
    let error ← module.recordError .run (.bus error)
    return .error (.error error)
  | none =>
    resetModules lane.modules
    let _ ← Process.ask (.clearSent lane.id)
    let _ ← Process.ask (.countEvent lane.id)
    return .ok ()

/-- Processes one event. It is timed also where it stops early. -/
def runEvent (lane : Lane σ) (event seed : UInt64) : Process (Except Stop Unit × Lane σ) := do
  let context : EventContext := { event, stream := .ofEvent seed event }
  let (result, modules, _) ←
    callInTurn .run (fun behaviour => behaviour.run event) lane.modules (some context)
  let lane := { lane with modules }
  let result ← match result with
    | .error stop => pure (Except.error stop)
    | .ok () => lane.closeEvent
  let _ ← Process.ask .timeEvent
  return (result, lane)

/-- Processes the lane's events from one on, until they are done, one stops early, or another lane
failed, and returns their number. Numbering a further event past the greatest word is a fault. A
fault does not stop the other lanes. -/
def runEvents (plan : Plan) (lane : Lane σ) (event : UInt64) (processed : Nat) :
    Process (Except Stop Nat × Lane σ) :=
  if event < plan.total then
    (Process.ask .isAborting).bind fun (isAborting : Bool) =>
      if isAborting then .done (.error (.error (.aborted lane.id)), lane)
      else (lane.runEvent event plan.seed).bind fun (result, lane) =>
        match result with
        | .error (.error error) =>
          (Process.ask .abort).bind fun _ => .done (.error (.error error), lane)
        | .error (.fault fault) => .done (.error (.fault fault), lane)
        | .ok () =>
          if event < event + plan.stride then
            runEvents plan lane (event + plan.stride) (processed + 1)
          else .done (.error (.fault .addition), lane)
  else .done (.ok processed, lane)
  termination_by plan.total.toNat - event.toNat
  decreasing_by
    simp_all only [UInt64.lt_iff_toNat_lt]
    omega

def processEvents (plan : Plan) (lane : Lane σ) : Process (Except Stop Nat × Lane σ) :=
  lane.runEvents plan lane.id.index.toUInt64 0

end Lane

end Beamline.Run
