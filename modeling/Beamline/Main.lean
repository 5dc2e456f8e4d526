import Beamline.Cli.Command

namespace Beamline

def environmentKeys : List String :=
  ["PIXSIM_SERVICE_NAME", "PIXSIM_LOG_LEVEL", "RUST_LOG", "PIXSIM_CONSOLE_OUTPUT",
    "PIXSIM_JSON_LOGS", "PIXSIM_THREAD_IDS", "PIXSIM_EVENTS", "PIXSIM_WORKERS", "PIXSIM_SEED",
    "PIXSIM_PARTICLES", "PIXSIM_THRESHOLD", "PIXSIM_DETECTORS"]

/-- The variables that are set, with their values. -/
def readVariables : List String → IO (List (String × String))
  | [] => return []
  | key :: rest => do
    let others ← readVariables rest
    match ← IO.getEnv key with
    | some value => return (key, value) :: others
    | none => return others

/-- How many processors the machine has, or one if it does not tell. -/
def countProcessors : IO UInt64 := do
  try
    let lines ← IO.FS.lines "/proc/cpuinfo"
    return UInt64.ofNat (lines.countP fun line => line.startsWith "processor")
  catch _ => return 1

/-- Prints the log and then the report, or why there is none, and returns the exit status. -/
def present (ending : Cli.Ending) (milliseconds : Nat) : IO UInt32 := do
  for line in ending.log do
    IO.println (" INFO " ++ line.render)
  match ending.result with
  | .ok report =>
    IO.println (report.render (some milliseconds))
    return 0
  | .error failure =>
    IO.eprint failure.report
    return failure.status

end Beamline

def main : IO UInt32 := do
  let environment ← Beamline.readVariables Beamline.environmentKeys
  let processors ← Beamline.countProcessors
  let start ← IO.monoMsNow
  let ending := Beamline.Cli.command (fun key => environment.lookup key) processors
  let stop ← IO.monoMsNow
  Beamline.present ending (stop - start)
