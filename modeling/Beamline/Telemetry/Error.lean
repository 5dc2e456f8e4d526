namespace Beamline.Telemetry

inductive TelemetryError
  | logging (reason : String)
  | metrics (reason : String)
  | config (reason : String)
  deriving DecidableEq, Repr

namespace TelemetryError

def message : TelemetryError → String
  | logging reason => "Failed to initialize logging: " ++ reason
  | metrics reason => "Failed to initialize Prometheus metrics: " ++ reason
  | config reason => "Invalid configuration: " ++ reason

end TelemetryError

end Beamline.Telemetry
