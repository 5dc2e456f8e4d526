import Beamline.Cli.Failure
import Beamline.Cli.Report
import Beamline.Config.Environment
import Beamline.Demo.Chain
import Beamline.Telemetry.Level

namespace Beamline.Cli

/-- What the command leaves behind: what it logged to the console before its report, and the
report. -/
structure Ending where
  log : List LogLine := []
  result : Except Failure Report

namespace Ending

def logged (ending : Ending) : Bool :=
  !ending.log.isEmpty

end Ending

/-- Runs the demonstration chain with a configuration, and returns the lines it logged as well. -/
def simulate (config : Config) : Except Failure Report × List LogLine :=
  match Run.Simulation.ofConfig (σ := Demo.Counters) config with
  | .error error => (.error (.setUp error), [])
  | .ok simulation =>
    let outcome := (simulation.add (Demo.chain Demo.mainTally)).run [] {}
    let messages := outcome.world.bus.store.counts Demo.mainTally
    let result := match outcome.result with
      | .ok summary => .ok { summary, messages }
      | .error (.error error) => .error (.run error)
      | .error (.fault fault) => .error (.fault fault)
    (result, outcome.world.lines.reverse)

def loggingLine (telemetry : Telemetry.Config) : LogLine where
  message := "Logging initialized"
  fields := [("service", telemetry.serviceName), ("log_level", telemetry.logLevel),
    ("json_logs", toString telemetry.jsonLogs)]

/-- The line that tells what is going to be run. -/
def configurationLine (config : Config) : LogLine where
  message := "Configuration loaded"
  fields := [("events", toString config.events), ("workers", toString config.workers),
    ("seed", toString config.seed), ("detectors", toString config.planes.length)]

/-- Runs the command in an environment on a machine with a number of processors. -/
def command (lookup : String → Option String) (processors : UInt64) : Ending :=
  let telemetry := Telemetry.Config.ofEnvironment lookup
  match Telemetry.LogFilter.read telemetry.logLevel with
  | .error error => { result := .error (.telemetry error) }
  | .ok filter =>
    let shown (target : String) (lines : List LogLine) : List LogLine :=
      if telemetry.consoleOutput && filter.admits target .info then lines else []
    let first := shown "pixsim_telemetry" [loggingLine telemetry]
    match Config.ofEnvironment lookup processors with
    | .error error => { log := first, result := .error (.configuration error) }
    | .ok config =>
      let (result, lines) := simulate config
      { log := first ++ shown "pixsim" [configurationLine config] ++
          shown "pixsim_runtime" lines
        result }

end Beamline.Cli
