import Beamline.Fault
import Beamline.Geometry.Error
import Beamline.Geometry.Position

/-!
Pixel sensors placed in the setup. Local coordinates have their origin at the sensor's centre;
a point of the sensor belongs to the pixel of the matrix that covers it.
-/

namespace Beamline

structure Detector where
  name : String
  model : String
  /-- Centre of the sensor in global coordinates. -/
  position : Position
  /-- Numbers of pixel columns and rows. -/
  pixels : UInt32 × UInt32
  /-- Pixel pitch in millimetres. -/
  pitch : Float × Float
  /-- Sensor thickness in millimetres. -/
  thickness : Float
  deriving BEq, Inhabited

namespace Detector

/-- Checks a description. Dimensions are refused by comparison with zero, so that not-a-number
passes. -/
def build (name model : String) (position : Position) (pixels : UInt32 × UInt32)
    (pitch : Float × Float) (thickness : Float) : Except GeometryError Detector :=
  if name.isEmpty then .error .emptyName
  else if pixels.1 == 0 || pixels.2 == 0 then .error (.emptyMatrix name)
  else if pitch.1 ≤ 0 || pitch.2 ≤ 0 || thickness ≤ 0 then .error (.nonPositiveDimension name)
  else .ok { name, model, position, pixels, pitch, thickness }

def display (detector : Detector) : String :=
  detector.name ++ " (" ++ detector.model ++ ")"

/-- Half the extent of the sensor along each axis. -/
def halfSize (detector : Detector) : Position where
  x := detector.pixels.1.toFloat * detector.pitch.1 / 2
  y := detector.pixels.2.toFloat * detector.pitch.2 / 2
  z := detector.thickness / 2

/-- A local position in global coordinates. -/
def toGlobal (detector : Detector) (place : Position) : Position where
  x := place.x + detector.position.x
  y := place.y + detector.position.y
  z := place.z + detector.position.z

/-- Whether a local position lies inside the sensor or on its surface. -/
def contains (detector : Detector) (place : Position) : Bool :=
  place.x.abs ≤ detector.halfSize.x && place.y.abs ≤ detector.halfSize.y &&
    place.z.abs ≤ detector.halfSize.z

/-- The number of the last of `count` pixels in a line. -/
def lastPixel (count : UInt32) : Except Fault UInt32 :=
  if count == 0 then .error .subtraction else .ok (count - 1)

/-- The pixel over a local position, none outside the sensor. The upper edge belongs to the last
pixel; a matrix without pixels has no last one. -/
def pixelAt (detector : Detector) (place : Position) : Except Fault (Option PixelIndex) :=
  if detector.contains place then do
    let half := detector.halfSize
    let column := Number.floorWord ((place.x + half.x) / detector.pitch.1)
    let row := Number.floorWord ((place.y + half.y) / detector.pitch.2)
    return some { x := min column (← lastPixel detector.pixels.1)
                  y := min row (← lastPixel detector.pixels.2) }
  else .ok none

end Detector

end Beamline
