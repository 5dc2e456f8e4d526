import Beamline.Config.Basic
import Beamline.Number.Decimal
import Beamline.Text.Blank

namespace Beamline.Config

/-- The value of a variable read without the white space around it; the error quotes it whole. -/
def override {α : Type} (lookup : String → Option String) (key : String)
    (read : String → Option α) (preset : α) : Except ConfigError α :=
  match lookup key with
  | none => .ok preset
  | some value =>
    match read (Text.trim value) with
    | some given => .ok given
    | none => .error (.invalidValue key value)

/-- The planes named by a variable, in its order. -/
def namedPlanes (lookup : String → Option String) (preset : List Plane) : List Plane :=
  match lookup "PIXSIM_DETECTORS" with
  | none => preset
  | some list => Plane.row (Text.names list)

/-- The configuration with the variables that are set. Without one the run has a lane for each of
the machine's processors. -/
def ofEnvironment (lookup : String → Option String) (processors : UInt64) :
    Except ConfigError Config := do
  let preset : Config := { workers := max processors 1 }
  let events ← override lookup "PIXSIM_EVENTS" Number.word? preset.events
  let workers ← override lookup "PIXSIM_WORKERS" Number.word? preset.workers
  let seed ← override lookup "PIXSIM_SEED" Number.word? preset.seed
  let particlesPerEvent ←
    override lookup "PIXSIM_PARTICLES" Number.word? preset.pipeline.particlesPerEvent
  let threshold ← override lookup "PIXSIM_THRESHOLD" Number.float? preset.pipeline.threshold
  return { events, workers, seed
           planes := namedPlanes lookup preset.planes
           pipeline := { preset.pipeline with particlesPerEvent, threshold } }

end Beamline.Config
