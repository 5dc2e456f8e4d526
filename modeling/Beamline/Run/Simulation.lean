import Beamline.Run.Schedule

/-!
Simulations: the module chain is built once for each lane, set up, run over all events, finished
and torn down. Whichever way the events end, the modules are torn down; at the end the messenger
must be consistent and empty.
-/

namespace Beamline.Run

open Bus

variable {σ : Type}

/-- How as many lanes as there are workers share the events. -/
def Config.plan (config : Config) : Plan where
  total := config.events
  stride := config.workers
  seed := config.seed

structure Simulation (σ : Type) where
  config : Config
  detectors : List Detector
  blueprints : List (Blueprint σ) := []

namespace Simulation

/-- Checks a configuration and builds its detectors. -/
def ofConfig (config : Config) : Except RunError (Simulation σ) :=
  match config.detectors with
  | .error error => .error (.config error)
  | .ok detectors => .ok { config, detectors }

def add (simulation : Simulation σ) (blueprints : List (Blueprint σ)) : Simulation σ :=
  { simulation with blueprints := simulation.blueprints ++ blueprints }

end Simulation

/-- What a completed run comes to. -/
structure Summary where
  events : UInt64
  lanes : UInt64
  modulesPerLane : Nat
  dispatched : Nat
  deliveries : Nat
  unreceived : Nat
  deriving DecidableEq, Repr, Inhabited

/-- The values of a summary under their names. -/
def Summary.entries (summary : Summary) : List (String × Nat) :=
  [("events", summary.events.toNat), ("lanes", summary.lanes.toNat),
    ("modules_per_lane", summary.modulesPerLane), ("messages_dispatched", summary.dispatched),
    ("deliveries", summary.deliveries), ("unreceived_messages", summary.unreceived)]

/-- The end of a run, the world afterwards, and the modules as they were left. -/
structure Outcome (σ : Type) where
  result : Except Stop Summary
  world : World
  lanes : List (Lane σ)

namespace Module

/-- Releases what a module holds when it goes. -/
def drop (module : Module σ) (world : World) : World :=
  let (_, bus) := module.bindings.drop world.bus
  { world with bus }

end Module

namespace Lane

def drop (lane : Lane σ) (world : World) : World :=
  lane.modules.foldl (fun world module => module.drop world) world

end Lane

def dropLanes (lanes : List (Lane σ)) (world : World) : World :=
  lanes.foldl (fun world lane => lane.drop world) world

namespace Blueprint

/-- Builds one instance. What a construction that stops early has bound is released again. -/
def build (blueprint : Blueprint σ) (surroundings : Surroundings) (detector : Option Detector)
    (world : World) : Except Stop (Module σ) × World :=
  let (identity, world) :=
    world.newIdentity blueprint.name detector surroundings.lane blueprint.input blueprint.output
  let program : Program Requests (Except Stop (Behaviour σ × σ) × Unit) :=
    blueprint.construct surroundings detector ()
  let process : Process ((Except Stop (Behaviour σ × σ) × Unit) × Scope) :=
    program.within Process.request { bindings := { identity } }
  let (((result, _), scope), world) := process.finish world
  match result with
  | .error stop =>
    let (_, bus) := scope.bindings.drop world.bus
    (.error stop, { world with bus })
  | .ok (behaviour, state) => (.ok { bindings := scope.bindings, behaviour, state }, world)

/-- The instances to be built for one lane, each with its detector. -/
def instances (blueprints : List (Blueprint σ)) (detectors : List Detector) :
    List (Blueprint σ × Option Detector) :=
  blueprints.flatMap fun blueprint =>
    if blueprint.perDetector then detectors.map fun detector => (blueprint, some detector)
    else [(blueprint, none)]

end Blueprint

/-- Builds the modules of one lane in order. If one stops early, those before it are dropped. -/
def buildModules (surroundings : Surroundings) :
    List (Blueprint σ × Option Detector) → World → Except Stop (List (Module σ)) × World
  | [], world => (.ok [], world)
  | (blueprint, detector) :: rest, world =>
    match blueprint.build surroundings detector world with
    | (.error stop, world) => (.error stop, world)
    | (.ok module, world) =>
      match buildModules surroundings rest world with
      | (.error stop, world) => (.error stop, module.drop world)
      | (.ok modules, world) => (.ok (module :: modules), world)

/-- The modules of several lanes, one after the other, up to the first that stops early in a
stage. -/
def stageInTurn (stage : Stage) (code : Behaviour σ → Code σ Unit) :
    List (Lane σ) → Process (Except Stop Unit × List (Lane σ))
  | [] => return (.ok (), [])
  | lane :: rest => do
    let (result, modules, _) ← callInTurn stage code lane.modules none
    let lane := { lane with modules }
    match result with
    | .error stop => return (.error stop, lane :: rest)
    | .ok () =>
      let (result, rest) ← stageInTurn stage code rest
      return (result, lane :: rest)

/-- Tears lanes down, all modules whatever fails. -/
def tearDownLanes : List (Lane σ) → Process (Except Stop Unit × List (Lane σ))
  | [] => return (.ok (), [])
  | lane :: rest => do
    let (first, modules) ← tearDownModules lane.modules
    let lane := { lane with modules }
    match first with
    | .error (.fault fault) => return (.error (.fault fault), lane :: rest)
    | _ =>
      let (later, rest) ← tearDownLanes rest
      return (Stop.both first later, lane :: rest)

namespace LaneEnds

/-- The first fault of a lane, if there is one. -/
def fault? (ends : List (Except Stop Nat)) : Option Fault :=
  ends.findSome? fun
    | .error (.fault fault) => some fault
    | _ => none

/-- The error of the first lane that failed by itself. -/
def ownError? (ends : List (Except Stop Nat)) : Option RunError :=
  ends.findSome? fun
    | .error (.error (.aborted _)) => none
    | .error (.error error) => some error
    | _ => none

/-- The error of the first lane that failed, by itself or because another one did. -/
def anyError? (ends : List (Except Stop Nat)) : Option RunError :=
  ends.findSome? fun
    | .error (.error error) => some error
    | _ => none

/-- How the event loops of all lanes end together: faults come first, then errors of lanes' own
events, then aborted lanes. -/
def together (ends : List (Except Stop Nat)) : Except Stop Unit :=
  match fault? ends, ownError? ends, anyError? ends with
  | some fault, _, _ => .error (.fault fault)
  | none, some error, _ => .error (.error error)
  | none, none, some error => .error (.error error)
  | none, none, none => .ok ()

end LaneEnds

namespace Simulation

/-- The lane with a number, which has to fit the numbering of lanes. -/
def buildLane (simulation : Simulation σ) (number : Nat) (world : World) :
    Except Stop (Lane σ) × World :=
  if ConfigError.maxWorkers < number then
    (.error (.error (.config (.tooManyWorkers simulation.config.workers.toNat))), world)
  else
    let id : LaneId := ⟨UInt16.ofNat number⟩
    let surroundings : Surroundings := {
      lane := id, detectors := simulation.detectors, pipeline := simulation.config.pipeline }
    match buildModules surroundings
        (Blueprint.instances simulation.blueprints simulation.detectors) world with
    | (.error stop, world) => (.error stop, world)
    | (.ok modules, world) => (.ok { id, modules }, world)

/-- Builds `count` lanes from a number on. If one stops early, those before it are dropped. -/
def buildLanes (simulation : Simulation σ) :
    (count number : Nat) → World → Except Stop (List (Lane σ)) × World
  | 0, _, world => (.ok [], world)
  | count + 1, number, world =>
    match simulation.buildLane number world with
    | (.error stop, world) => (.error stop, world)
    | (.ok lane, world) =>
      match buildLanes simulation count (number + 1) world with
      | (.error stop, world) => (.error stop, lane.drop world)
      | (.ok lanes, world) => (.ok (lane :: lanes), world)

/-- What the lanes of a run know about its events. -/
def plan (simulation : Simulation σ) (lanes : List (Lane σ)) : Plan :=
  { Config.plan simulation.config with stride := UInt64.ofNat lanes.length }

theorem plan_of_length {simulation : Simulation σ} {lanes : List (Lane σ)}
    (length : lanes.length = simulation.config.workers.toNat) :
    simulation.plan lanes = Config.plan simulation.config := by
  rw [plan, length, UInt64.ofNat_toNat]
  rfl

def loops (simulation : Simulation σ) (lanes : List (Lane σ)) :
    List (Process (Except Stop Nat × Lane σ)) :=
  lanes.map fun lane => lane.processEvents (simulation.plan lanes)

/-- The event loops of all lanes, interleaved by a schedule. -/
def processEvents (simulation : Simulation σ) (turns : List Nat) (lanes : List (Lane σ))
    (world : World) : Except Stop Unit × List (Lane σ) × World :=
  let (results, world) := runScheduled LaneOperation.perform (simulation.loops lanes) turns
    { world with aborting := false }
  (LaneEnds.together (results.map Prod.fst), results.map Prod.snd, world)

/-- Sets the modules up, processes the events, and finishes the modules, up to the first stop. -/
def work (simulation : Simulation σ) (turns : List Nat) (lanes : List (Lane σ)) (world : World) :
    Except Stop Unit × List (Lane σ) × World :=
  let ((prepared, lanes), world) := (stageInTurn .setUp Behaviour.setUp lanes).finish world
  match prepared with
  | .error stop => (.error stop, lanes, world)
  | .ok () =>
    match simulation.processEvents turns lanes world with
    | (.error stop, lanes, world) => (.error stop, lanes, world)
    | (.ok (), lanes, world) =>
      let ((finished, lanes), world) := (stageInTurn .finish Behaviour.finish lanes).finish world
      (finished, lanes, world)

/-- The last checks of a run in which every stage succeeded: the totals are published if the
messenger is consistent and empty. -/
def conclude (simulation : Simulation σ) (modulesPerLane : Nat) (world : World) :
    Except RunError Summary × World :=
  let messenger := world.bus.messenger
  match messenger.verify with
  | .error error => (.error (.bus error), world)
  | .ok () =>
    if messenger.isEmpty then
      (.ok {
        events := simulation.config.events
        lanes := simulation.config.workers
        modulesPerLane
        dispatched := messenger.stats.dispatched
        deliveries := messenger.stats.deliveries
        unreceived := messenger.stats.unreceived },
        { world with metrics := world.metrics.publish messenger.stats })
    else (.error (.leakedDelegates messenger.delegateCount), world)

/-- Runs a simulation on a world, the lanes' operations being interleaved by a schedule. After a
fault the modules are dropped without being torn down. -/
def run (simulation : Simulation σ) (turns : List Nat) (world : World) : Outcome σ :=
  match simulation.buildLanes simulation.config.workers.toNat 0 world with
  | (.error stop, world) => { result := .error stop, world, lanes := [] }
  | (.ok lanes, world) =>
    let modulesPerLane := match lanes with
      | [] => 0
      | lane :: _ => lane.modules.length
    match simulation.work turns lanes world with
    | (.error (.fault fault), lanes, world) =>
      { result := .error (.fault fault), world := dropLanes lanes world, lanes }
    | (worked, lanes, world) =>
      let ((tornDown, lanes), world) := (tearDownLanes lanes).finish world
      let world := dropLanes lanes world
      match Stop.both worked tornDown with
      | .error stop => { result := .error stop, world, lanes }
      | .ok () =>
        let (result, world) := simulation.conclude modulesPerLane world
        { result := result.mapError .error, world, lanes }

end Simulation

end Beamline.Run
