import Beamline.Demo.Counters

/-!
A particle gun that shoots straight tracks through all detectors. In each event it sends one
message of tracks, and for each detector one of particles and one of the charge they deposit, each
only if someone would receive it. What it draws at random does not depend on that.
-/

namespace Beamline.Demo.Generator

open Bus Run

/-- Speed of light in mm/ns. -/
def speedOfLight : Float := 299.792458

def pion : Int32 := -211

/-- Half the width of the beam spot, in mm. -/
def beamSpot : Float := 2

/-- Greatest slope of a track against the beam axis. -/
def maxSlope : Float := 0.002

/-- Beam energy, in keV. -/
def beamEnergy : Float := 120000000

/-- Distance from the start of the tracks to the first detector, in mm. -/
def runUp : Float := 10

/-- A straight track through a point. -/
structure Trajectory where
  origin : Position
  slopeX : Float
  slopeY : Float
  deriving BEq, Inhabited

namespace Trajectory

/-- The point of a track at a place along the beam. -/
def pointAt (trajectory : Trajectory) (z : Float) : Position :=
  let dz := z - trajectory.origin.z
  { x := trajectory.origin.x + trajectory.slopeX * dz
    y := trajectory.origin.y + trajectory.slopeY * dz
    z }

end Trajectory

/-- The least position of a detector along the beam. -/
def firstZ (detectors : List Detector) : Float :=
  detectors.foldl (fun least detector =>
    if detector.position.z < least then detector.position.z else least) (1 / 0)

/-- Draws a track that starts at a place along the beam. -/
def drawTrajectory (z : Float) : DemoCode Trajectory := do
  let x ← Code.number (-beamSpot) beamSpot true
  let y ← Code.number (-beamSpot) beamSpot true
  let slopeX ← Code.number (-maxSlope) maxSlope true
  let slopeY ← Code.number (-maxSlope) maxSlope true
  return { origin := { x, y, z }, slopeX, slopeY }

def drawTrajectories (z : Float) (count : Nat) : DemoCode (List Trajectory) :=
  (List.replicate count z).mapM drawTrajectory

/-- The passage of a track through the planes at the sensor's surfaces. -/
def passage (detector : Detector) (trajectory : Trajectory) : Particle :=
  let half := detector.thickness / 2
  let centre := detector.position
  let globalBegin := trajectory.pointAt (centre.z - half)
  let globalEnd := trajectory.pointAt (centre.z + half)
  { localBegin := { x := globalBegin.x - centre.x, y := globalBegin.y - centre.y, z := -half }
    globalBegin
    localEnd := { x := globalEnd.x - centre.x, y := globalEnd.y - centre.y, z := half }
    globalEnd
    particleId := pion
    parent := none }

/-- Whether a passage begins and ends inside the sensor. -/
def crosses (detector : Detector) (particle : Particle) : Bool :=
  detector.contains particle.localBegin && detector.contains particle.localEnd

/-- The deposit in the middle of one of `steps` parts of a path, for a fluctuation of the charge. -/
def depositAt (detector : Detector) (pipeline : Pipeline) (trajectory : Trajectory)
    (particle : Particle) (index step : Nat) (fluctuation : Float) : Deposit :=
  let steps := pipeline.depositsPerParticle.toFloat
  let length := particle.localBegin.distance particle.localEnd * 1000 / steps
  let fraction := (Float.ofNat step + 0.5) / steps
  let place := particle.localBegin.between particle.localEnd fraction
  let globalPosition := detector.toGlobal place
  { localPosition := place
    globalPosition
    carrier := .electron
    charge := Number.roundWord (pipeline.pairsPerMicrometre * length * fluctuation)
    time := (globalPosition.z - trajectory.origin.z) / speedOfLight
    particle := some (UInt64.ofNat index) }

/-- The tracks that cross a detector, with their passages. -/
def passages (detector : Detector) (trajectories : List Trajectory) :
    List (Trajectory × Particle) :=
  (trajectories.map fun trajectory => (trajectory, passage detector trajectory)).filter
    fun (_, particle) => crosses detector particle

/-- Draws the deposits of a passage, which point at its particle by index. -/
def drawDeposits (detector : Detector) (pipeline : Pipeline) :
    (Trajectory × Particle) × Nat → DemoCode (List Deposit)
  | ((trajectory, particle), index) =>
    (List.range pipeline.depositsPerParticle.toNat).mapM fun step => do
      let fluctuation ← Code.number 0.7 1.6 false
      return depositAt detector pipeline trajectory particle index step fluctuation

/-- Draws the deposits of passages, one passage after the other. -/
def drawAllDeposits (detector : Detector) (pipeline : Pipeline)
    (passages : List (Trajectory × Particle)) : DemoCode (List Deposit) := do
  return (← passages.zipIdx.mapM (drawDeposits detector pipeline)).flatten

def track (trajectory : Trajectory) : Track where
  particleId := pion
  origin := trajectory.origin
  energy := beamEnergy
  parent := none

def sendPassages (pipeline : Pipeline) (trajectories : List Trajectory) (detector : Detector) :
    DemoCode Unit := do
  let passages := passages detector trajectories
  let deposits ← drawAllDeposits detector pipeline passages
  Code.dispatchWanted { payload := .particles (passages.map Prod.snd), detector := some detector }
  let message : Message := { payload := .deposits deposits, detector := some detector }
  let wanted : Bool ← Code.ask (.hasReceiver message)
  if wanted then
    modify fun counters =>
      { counters with depositsSent := counters.depositsSent + deposits.length }
    let _ ← Code.dispatch message

def run (detectors : List Detector) (pipeline : Pipeline) : DemoCode Unit := do
  let trajectories ←
    drawTrajectories (firstZ detectors - runUp) pipeline.particlesPerEvent.toNat
  Code.dispatchWanted { payload := .tracks (trajectories.map track) }
  detectors.forM (sendPassages pipeline trajectories)

def behaviour (detectors : List Detector) (pipeline : Pipeline) : Behaviour Counters where
  run _ := run detectors pipeline
  finish := do
    logFinished "Deposition finished" [("deposits", toString (← get).depositsSent)]

def blueprint : Blueprint Counters where
  name := "DepositionGenerator"
  construct surroundings _ :=
    return (behaviour surroundings.detectors surroundings.pipeline, {})

end Beamline.Demo.Generator
