import Beamline.Geometry.Position

namespace Beamline

/-- A primary or secondary track as the particle generator sees it. -/
structure Track where
  /-- Particle code of the Particle Data Group. -/
  particleId : Int32
  /-- Production vertex in global coordinates. -/
  origin : Position
  /-- Kinetic energy at production, in keV. -/
  energy : Float
  /-- Index of the parent track in the same message. -/
  parent : Option UInt64
  deriving BEq, Inhabited

/-- The passage of a particle through one detector. -/
structure Particle where
  localBegin : Position
  globalBegin : Position
  localEnd : Position
  globalEnd : Position
  particleId : Int32
  /-- Index of the parent particle in the same message. -/
  parent : Option UInt64
  deriving BEq, Inhabited

namespace Particle

/-- The length of the path through the sensor. -/
def pathLength (particle : Particle) : Float :=
  particle.localBegin.distance particle.localEnd

end Particle

inductive Carrier
  | electron
  | hole
  deriving DecidableEq, Repr, Inhabited

namespace Carrier

def display : Carrier → String
  | electron => "electron"
  | hole => "hole"

end Carrier

/-- Charge carriers deposited at one point of a sensor. -/
structure Deposit where
  localPosition : Position
  globalPosition : Position
  carrier : Carrier
  /-- Number of carriers. -/
  charge : UInt32
  /-- Time since the start of the event, in ns. -/
  time : Float
  /-- Index of the particle in the particle message of the same detector. -/
  particle : Option UInt64
  deriving BEq, Inhabited

/-- The charge collected at one pixel. -/
structure PixelCharge where
  pixel : PixelIndex
  charge : Float
  deriving BEq, Inhabited

/-- A digitized pixel above threshold. -/
structure PixelHit where
  pixel : PixelIndex
  /-- Time of arrival, in ns. -/
  time : Float
  /-- Signal in counts of the converter. -/
  signal : UInt32
  deriving BEq, Inhabited

end Beamline
