import Beamline.Run.Chronicle

/-!
The life of the modules in a run: which of them are called in which stages, in order, and what the
calls come to. A run that tells this performs the same operations as the run that does not.
-/

namespace Beamline.Run

variable {σ : Type}

/-- What the run reports for a stop in a call. -/
def StageCall.report (call : StageCall) : Stop → Stop
  | .error error => .error (error.inModule call.name call.stage)
  | .fault fault => .fault fault

/-- Why a call counts as failed, none if it does not. Delegates that are left count, too. -/
def StageCall.stop? (call : StageCall) : Option Stop :=
  match call.result with
  | .error stop => some (call.report stop)
  | .ok () =>
    if call.left = 0 then none
    else some (.error (.module call.name .tearDown
      (toString call.left ++ " delegates still registered")))

/-- The calls of all modules of a run, stage by stage. -/
structure Life where
  setUps : List StageCall := []
  /-- The events of each lane, in the order of the lanes; none if the run does not come to them. -/
  rounds : List (List Round) := []
  /-- How the lanes ended after their events. -/
  ends : List (Except Stop Nat) := []
  finishes : List StageCall := []
  tearDowns : List StageCall := []

namespace Life

/-- The calls that are made in events, lane by lane. -/
def runs (life : Life) : List StageCall :=
  life.rounds.flatMap fun rounds => rounds.flatMap Round.calls

/-- All calls. Those of one instance are in order, since its events are all in the same lane. -/
def calls (life : Life) : List StageCall :=
  life.setUps ++ life.runs ++ life.finishes ++ life.tearDowns

/-- Why the events failed, none if they did not. -/
def eventStop? (life : Life) : Option Stop :=
  match LaneEnds.together life.ends with
  | .error stop => some stop
  | .ok () => none

/-- Why the life counts as failed, none if it does not: the first call of the first stage that
failed, or else the first tear-down that did. -/
def stop? (life : Life) : Option Stop :=
  (life.setUps.findSome? StageCall.stop?).or <| life.eventStop?.or <|
    (life.finishes.findSome? StageCall.stop?).or (life.tearDowns.findSome? StageCall.stop?)

end Life

/-! ## Runs that tell the calls -/

/-- Tears a module down, and tells what its code came to and how many delegates it left. -/
def Module.tellTearDown (module : Module σ) :
    Process ((Except Stop Unit × Module σ) × Except Stop Unit × Nat) := do
  let (result, module, _) ← module.call module.behaviour.tearDown none
  match result with
  | .error stop => return ((.error stop, module), .error stop, 0)
  | .ok () =>
    let left : Nat ← Process.ask (.delegatesOf module.identity)
    if left = 0 then return ((.ok (), module), .ok (), left)
    else
      let message := toString left ++ " delegates still registered"
      return ((.error (.error (.module module.identity.uniqueName .tearDown message)), module),
        .ok (), left)

/-- Tears modules down from a place on, all of them whatever fails. -/
def tellTearDowns (lane : LaneId) : (place : Nat) → List (Module σ) →
    Process ((Except Stop Unit × List (Module σ)) × List StageCall)
  | _, [] => return ((.ok (), []), [])
  | place, module :: rest => do
    let ((result, module), returned, left) ← module.tellTearDown
    let call : StageCall := {
      station := { lane, place }, name := module.identity.uniqueName, stage := .tearDown
      result := returned, left }
    match result with
    | .error (.fault fault) => return ((.error (.fault fault), module :: rest), [call])
    | .error (.error error) =>
      let error ← module.recordError .tearDown error
      let ((later, rest), calls) ← tellTearDowns lane (place + 1) rest
      return ((Stop.both (.error (.error error)) later, module :: rest), call :: calls)
    | .ok () =>
      let ((later, rest), calls) ← tellTearDowns lane (place + 1) rest
      return ((later, module :: rest), call :: calls)

/-- The modules of several lanes, one after the other, up to the first that stops early in a
stage. -/
def tellStage (stage : Stage) (code : Behaviour σ → Code σ Unit) :
    List (Lane σ) → Process ((Except Stop Unit × List (Lane σ)) × List StageCall)
  | [] => return ((.ok (), []), [])
  | lane :: rest => do
    let ((result, modules, _), calls) ← tellInTurn stage code none lane.id 0 lane.modules none
    let lane := { lane with modules }
    match result with
    | .error stop => return ((.error stop, lane :: rest), calls)
    | .ok () =>
      let ((result, rest), later) ← tellStage stage code rest
      return ((result, lane :: rest), calls ++ later)

/-- Tears lanes down, all modules whatever fails. -/
def tellLaneTearDowns :
    List (Lane σ) → Process ((Except Stop Unit × List (Lane σ)) × List StageCall)
  | [] => return ((.ok (), []), [])
  | lane :: rest => do
    let ((first, modules), calls) ← tellTearDowns lane.id 0 lane.modules
    let lane := { lane with modules }
    match first with
    | .error (.fault fault) => return ((.error (.fault fault), lane :: rest), calls)
    | _ =>
      let ((later, rest), more) ← tellLaneTearDowns rest
      return ((Stop.both first later, lane :: rest), calls ++ more)

namespace Simulation

/-- Sets the modules up, processes the events, and finishes the modules, up to the first stop. -/
def tellWork (simulation : Simulation σ) (turns : List Nat) (lanes : List (Lane σ))
    (world : World) : (Except Stop Unit × List (Lane σ) × World) × Life :=
  let (((prepared, lanes), setUps), world) :=
    (tellStage .setUp Behaviour.setUp lanes).finish world
  match prepared with
  | .error stop => ((.error stop, lanes, world), { setUps })
  | .ok () =>
    let (told, world) := runScheduled LaneOperation.perform (simulation.telling lanes) turns
      { world with aborting := false }
    let lanes := told.map fun ended => ended.1.2
    let ends := told.map fun ended => ended.1.1
    let rounds := told.map fun ended => ended.2.rounds
    match LaneEnds.together ends with
    | .error stop => ((.error stop, lanes, world), { setUps, rounds, ends })
    | .ok () =>
      let (((finished, lanes), finishes), world) :=
        (tellStage .finish Behaviour.finish lanes).finish world
      ((finished, lanes, world), { setUps, rounds, ends, finishes })

/-- The calls of the modules in a run, none if its lanes are not built. -/
def life (simulation : Simulation σ) (turns : List Nat) (world : World) : Life :=
  match simulation.buildLanes simulation.config.workers.toNat 0 world with
  | (.error _, _) => {}
  | (.ok lanes, world) =>
    match simulation.tellWork turns lanes world with
    | ((.error (.fault _), _, _), life) => life
    | ((_, lanes, world), life) =>
      { life with tearDowns := ((tellLaneTearDowns lanes).finish world).1.2 }

end Simulation

end Beamline.Run
