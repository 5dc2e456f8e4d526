import Beamline.Fault
import Beamline.Run.Error
import Beamline.Telemetry.Error

namespace Beamline.Cli

inductive Failure
  | telemetry (error : Telemetry.TelemetryError)
  | configuration (error : ConfigError)
  | setUp (error : RunError)
  | run (error : RunError)
  | fault (reason : Fault)

namespace Failure

/-- What failed, in words. A fault ends the command in the middle of its run. -/
def title : Failure → String
  | telemetry _ => "Failed to initialize telemetry"
  | configuration _ => "Invalid run configuration"
  | setUp _ => "Failed to set up simulation"
  | run _ => "Simulation failed"
  | fault _ => "Simulation stopped"

/-- An error of a run and the error it was made from, if that has a text of its own. -/
def runCauses : RunError → List String
  | .config error => [(RunError.config error).message, error.message]
  | .geometry error => [(RunError.geometry error).message, error.message]
  | error => [error.message]

/-- The texts of the causes, the immediate one first. -/
def causes : Failure → List String
  | telemetry error => [error.message]
  | configuration error => [error.message]
  | setUp error => runCauses error
  | run error => runCauses error
  | fault reason => [reason.message]

def status : Failure → UInt32
  | fault _ => 101
  | _ => 1

/-- A text whose further lines are indented as much as its first. -/
def hanging (first further text : String) : String :=
  first ++ String.join (text.toList.map fun c => if c = '\n' then "\n" ++ further else c.toString)

/-- A number at the end of a field of five characters. -/
def numbered (number : Nat) : String :=
  let digits := toString number
  String.ofList (List.replicate (5 - digits.length) ' ') ++ digits ++ ": "

/-- The causes below each other, numbered if there are several. -/
def causeLines : List String → List String
  | [cause] => [hanging "    " "    " cause]
  | causes => causes.mapIdx fun number cause => hanging (numbered number) "       " cause

/-- What the command prints when it fails. -/
def report (failure : Failure) : String :=
  "Error: " ++ failure.title ++ "\n\nCaused by:\n" ++
    "\n".intercalate (causeLines failure.causes) ++ "\n"

end Failure

end Beamline.Cli
