import Beamline.Config.Error
import Beamline.Geometry.Detector

/-!
The configuration of a run: how many events and lanes, the seed, the detector planes and the
parameters of the pipeline; its checks, and the detectors built from it.
-/

namespace Beamline

/-- Distance between consecutive planes along the beam, in mm. -/
def planeSpacing : Float := 20

/-- The geometry of one detector plane. -/
structure Plane where
  name : String
  model : String
  pixels : UInt32 × UInt32
  /-- Pixel pitch in mm. -/
  pitch : Float × Float
  /-- Sensor thickness in mm. -/
  thickness : Float
  /-- Position of the sensor's centre along the beam, in mm. -/
  z : Float
  deriving BEq, Inhabited

namespace Plane

/-- The standard plane at a place in the row. -/
def standard (name : String) (index : Nat) : Plane where
  name
  model := "timepix"
  pixels := (256, 256)
  pitch := (0.055, 0.055)
  thickness := 0.3
  z := Float.ofNat index * planeSpacing

def row (names : List String) : List Plane :=
  names.mapIdx fun index name => standard name index

def build (plane : Plane) : Except GeometryError Detector :=
  Detector.build plane.name plane.model { z := plane.z } plane.pixels plane.pitch plane.thickness

end Plane

/-- The parameters of the demonstration modules. -/
structure Pipeline where
  particlesPerEvent : UInt64 := 2
  /-- Points of deposit along a particle's path through a sensor. -/
  depositsPerParticle : UInt64 := 10
  /-- Mean number of electron-hole pairs per micrometre of path. -/
  pairsPerMicrometre : Float := 80
  /-- Charge below which a pixel is not read out, in electrons. -/
  threshold : Float := 600
  /-- Electrons per count of the converter. -/
  gain : Float := 10
  deriving BEq, Inhabited

structure Config where
  events : UInt64 := 100
  /-- Number of lanes. -/
  workers : UInt64 := 1
  seed : UInt64 := 42
  /-- Detector planes in beam order. -/
  planes : List Plane := Plane.row ["telescope0", "dut", "telescope1"]
  pipeline : Pipeline := {}
  deriving BEq, Inhabited

/-- The first name that occurs a second time. -/
def firstRepeated (seen : List String) : List String → Option String
  | [] => none
  | name :: rest => if name ∈ seen then some name else firstRepeated (name :: seen) rest

namespace Pipeline

/-- The first parameter out of range. Not-a-number is out of every range. -/
def fault (pipeline : Pipeline) : Option ParameterFault :=
  if pipeline.depositsPerParticle == 0 then some .depositsNotPositive
  else if !(pipeline.pairsPerMicrometre > 0) then some .pairsNotPositive
  else if !(pipeline.threshold ≥ 0) then some .thresholdNegative
  else if !(pipeline.gain > 0) then some .gainNotPositive
  else none

end Pipeline

namespace Config

/-- The first thing wrong with a configuration. -/
def validate (config : Config) : Except ConfigError Unit :=
  if config.workers == 0 then .error .noWorkers
  else if ConfigError.maxWorkers < config.workers.toNat then
    .error (.tooManyWorkers config.workers.toNat)
  else if config.planes.isEmpty then .error .noDetectors
  else match firstRepeated [] (config.planes.map Plane.name) with
    | some name => .error (.geometry (.duplicateDetector name))
    | none =>
      match config.pipeline.fault with
      | some fault => .error (.invalidParameter fault)
      | none => .ok ()

/-- The planes built one after the other, up to the first that cannot be. -/
def buildPlanes : List Plane → Except GeometryError (List Detector)
  | [] => .ok []
  | plane :: rest => do
    let detector ← plane.build
    let others ← buildPlanes rest
    return detector :: others

/-- The detectors of a valid configuration. -/
def detectors (config : Config) : Except ConfigError (List Detector) := do
  config.validate
  (buildPlanes config.planes).mapError .geometry

end Config

end Beamline
