import Beamline.Geometry.Error

namespace Beamline

/-- A parameter of the pipeline outside its range. -/
inductive ParameterFault
  | depositsNotPositive
  | pairsNotPositive
  | thresholdNegative
  | gainNotPositive
  | stated (reason : String)
  deriving DecidableEq, Repr

namespace ParameterFault

def message : ParameterFault → String
  | depositsNotPositive => "deposits_per_particle must be positive"
  | pairsNotPositive => "pairs_per_um must be positive"
  | thresholdNegative => "threshold_electrons must not be negative"
  | gainNotPositive => "adc_gain must be positive"
  | stated reason => reason

end ParameterFault

inductive ConfigError
  | invalidValue (key value : String)
  | noWorkers
  | tooManyWorkers (count : Nat)
  | noDetectors
  | invalidParameter (fault : ParameterFault)
  | geometry (error : GeometryError)
  deriving DecidableEq, Repr

namespace ConfigError

def maxWorkers : Nat := 65535

def message : ConfigError → String
  | invalidValue key value => "Invalid value '" ++ value ++ "' for " ++ key
  | noWorkers => "At least one worker is required"
  | tooManyWorkers count =>
    toString count ++ " workers requested, at most " ++ toString maxWorkers ++
      " lanes are supported"
  | noDetectors => "At least one detector is required"
  | invalidParameter fault => "Invalid pipeline parameter: " ++ fault.message
  | geometry error => error.message

/-- The label of an error; one of the geometry keeps its own. -/
def kind : ConfigError → String
  | invalidValue .. => "invalid_value"
  | noWorkers => "no_workers"
  | tooManyWorkers _ => "too_many_workers"
  | noDetectors => "no_detectors"
  | invalidParameter _ => "invalid_parameter"
  | geometry error => error.kind

end ConfigError

end Beamline
