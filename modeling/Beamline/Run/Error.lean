import Beamline.Bus.Error
import Beamline.Bus.Identity
import Beamline.Config.Error
import Beamline.Fault

namespace Beamline

/-- The stages in the life of a module. -/
inductive Stage
  | setUp
  | run
  | finish
  | tearDown
  deriving DecidableEq, Repr

namespace Stage

def name : Stage → String
  | setUp => "initialize"
  | run => "run"
  | finish => "finalize"
  | tearDown => "teardown"

def ofName? (name : String) : Option Stage :=
  [setUp, run, finish, tearDown].find? fun stage => stage.name == name

end Stage

inductive RunError
  | bus (error : Bus.BusError)
  | config (error : ConfigError)
  | geometry (error : GeometryError)
  /-- A module failed in a stage. -/
  | module (name : String) (stage : Stage) (message : String)
  /-- A lane stopped because another one failed. -/
  | aborted (lane : LaneId)
  | threadPool (message : String)
  /-- Delegates that are still registered although every module is torn down. -/
  | leakedDelegates (count : Nat)
  deriving DecidableEq

namespace RunError

def message : RunError → String
  | bus error => error.message
  | config error => "Configuration error: " ++ error.message
  | geometry error => "Geometry error: " ++ error.message
  | module name stage message =>
    "Module " ++ name ++ " failed in " ++ stage.name ++ ": " ++ message
  | aborted lane => lane.display ++ " aborted after another lane failed"
  | threadPool message => "Failed to build worker pool: " ++ message
  | leakedDelegates count =>
    toString count ++ " delegates still registered after teardown"

/-- Whether the run was set up wrong rather than failing on its data. -/
def isConfiguration : RunError → Bool
  | bus error => error.isConfiguration
  | config _ | geometry _ => true
  | _ => false

/-- The label under which an error is counted. -/
def kind : RunError → String
  | bus (.invalidBinding ..) => "invalid_binding"
  | bus (.unmetRequirement ..) => "unmet_requirement"
  | bus (.consistency _) => "consistency"
  | config _ => "config"
  | geometry _ => "geometry"
  | module .. => "module"
  | aborted _ => "aborted"
  | threadPool _ => "thread_pool"
  | leakedDelegates _ => "leaked_delegates"

/-- The error as the run reports it: those of modules, of the bus and of aborted lanes as they
are, any other as a failure of the module in the stage. -/
def inModule (error : RunError) (name : String) (stage : Stage) : RunError :=
  match error with
  | module .. | bus _ | aborted _ => error
  | other => .module name stage other.message

end RunError

/-- Why something stops before its end. -/
inductive Stop
  /-- It failed; the run goes on to tear its modules down. -/
  | error (error : RunError)
  /-- It did what has no meaning, which ends the run at once. -/
  | fault (fault : Fault)
  deriving DecidableEq

namespace Stop

/-- How two things end together of which the second is done also if the first one failed: a fault
comes first, then the first error. -/
def both : Except Stop Unit → Except Stop Unit → Except Stop Unit
  | .ok (), later => later
  | .error (.error _), .error (.fault reason) => .error (.fault reason)
  | stopped, _ => stopped

end Stop

end Beamline
