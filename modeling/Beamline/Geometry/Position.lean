import Beamline.Number.Binary64
import Std.Data.TreeMap

namespace Beamline

structure Position where
  x : Float := 0
  y : Float := 0
  z : Float := 0
  deriving BEq, Inhabited

namespace Position

/-- The Euclidean distance between two points. -/
def distance (first second : Position) : Float :=
  let dx := first.x - second.x
  let dy := first.y - second.y
  let dz := first.z - second.z
  (dx * dx + dy * dy + dz * dz).sqrt

/-- The text of a point, with five places. -/
def display (point : Position) : String :=
  "(" ++ Number.fixed 5 point.x ++ "mm," ++ Number.fixed 5 point.y ++ "mm," ++
    Number.fixed 5 point.z ++ "mm)"

/-- The point at a fraction of the way between two points. -/
def between (first second : Position) (fraction : Float) : Position where
  x := first.x + (second.x - first.x) * fraction
  y := first.y + (second.y - first.y) * fraction
  z := first.z + (second.z - first.z) * fraction

end Position

/-- Column and row of a pixel. -/
structure PixelIndex where
  x : UInt32
  y : UInt32
  deriving DecidableEq, Hashable, Inhabited

namespace PixelIndex

/-- Pixels are ordered by column, then by row. -/
instance : Ord PixelIndex where
  compare := compareLex (compareOn x) (compareOn y)

instance : Std.TransOrd PixelIndex :=
  inferInstanceAs (Std.TransCmp (compareLex (compareOn x) (compareOn y)))

instance : Std.LawfulEqOrd PixelIndex where
  eq_of_compare {first second} equal := by
    have parts : compare first.x second.x = .eq ∧ compare first.y second.y = .eq :=
      compareLex_eq_eq.mp equal
    cases first
    cases second
    simp_all

end PixelIndex

end Beamline
