namespace Beamline

inductive GeometryError
  | emptyName
  | emptyMatrix (detector : String)
  | nonPositiveDimension (detector : String)
  | duplicateDetector (name : String)
  deriving DecidableEq, Repr

namespace GeometryError

def message : GeometryError → String
  | emptyName => "Detector name must not be empty"
  | emptyMatrix detector => "Detector " ++ detector ++ " has an empty pixel matrix"
  | nonPositiveDimension detector =>
    "Detector " ++ detector ++ " has a non-positive pitch or thickness"
  | duplicateDetector name => "Duplicate detector name: " ++ name

def kind : GeometryError → String
  | emptyName => "empty_name"
  | emptyMatrix _ => "empty_matrix"
  | nonPositiveDimension _ => "non_positive_dimension"
  | duplicateDetector _ => "duplicate_detector"

end GeometryError

end Beamline
