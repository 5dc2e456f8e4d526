import Beamline.Bus.Identity
import Beamline.Bus.Messenger
import Beamline.Number.Binary64
import Std.Data.HashMap

namespace Beamline.Telemetry

abbrev Counts (κ : Type) [BEq κ] [Hashable κ] := Std.HashMap κ Nat

namespace Counts

variable {κ : Type} [BEq κ] [Hashable κ]

def count (counts : Counts κ) (label : κ) : Nat :=
  counts.getD label 0

def increase (counts : Counts κ) (label : κ) : Counts κ :=
  counts.insert label (counts.count label + 1)

end Counts

/-- Counters as exact numbers. A counter that is exported as a binary64 value stops growing at
`2 ^ 53`, which counts by one cannot pass. -/
structure Metrics where
  dispatched : Nat := 0
  deliveries : Nat := 0
  failed : Nat := 0
  unreceived : Nat := 0
  /-- The registered delegates when totals were last published. -/
  delegates : Nat := 0
  /-- Messages seen by monitors, by payload name. -/
  observed : Counts String := ∅
  /-- Completed events by lane. -/
  processed : Counts LaneId := ∅
  /-- Events that were timed, whether they completed or not. -/
  timed : Nat := 0
  /-- Errors by module and kind. -/
  moduleErrors : Counts (String × String) := ∅
  deriving Inhabited

namespace Metrics

/-- Adds what a messenger did to the counters. -/
def publish (metrics : Metrics) (stats : Bus.Stats) : Metrics :=
  { metrics with
    dispatched := metrics.dispatched + stats.dispatched
    deliveries := metrics.deliveries + stats.deliveries
    failed := metrics.failed + stats.failed
    unreceived := metrics.unreceived + stats.unreceived
    delegates := stats.active }

def observe (metrics : Metrics) (payload : String) : Metrics :=
  { metrics with observed := Counts.increase metrics.observed payload }

def countEvent (metrics : Metrics) (lane : LaneId) : Metrics :=
  { metrics with processed := Counts.increase metrics.processed lane }

def timeEvent (metrics : Metrics) : Metrics :=
  { metrics with timed := metrics.timed + 1 }

def countError (metrics : Metrics) (name kind : String) : Metrics :=
  { metrics with moduleErrors := Counts.increase metrics.moduleErrors (name, kind) }

end Metrics

/-- The types of metrics. -/
inductive MetricType
  | counter
  | gauge
  | histogram
  deriving DecidableEq, Repr

namespace MetricType

def name : MetricType → String
  | counter => "counter"
  | gauge => "gauge"
  | histogram => "histogram"

end MetricType

/-- A metric: its name, what it says, and the labels that tell its samples apart. -/
structure Family where
  name : String
  help : String
  type : MetricType
  labels : List String := []
  deriving DecidableEq, Repr

namespace Family

def delegates : Family where
  name := "pixsim_bus_delegates_registered"
  help := "Number of delegates currently registered"
  type := .gauge

def deliveries : Family where
  name := "pixsim_bus_deliveries_total"
  help := "Total number of messages stored or accepted by delegates"
  type := .counter

def failed : Family where
  name := "pixsim_bus_failed_dispatches_total"
  help := "Total number of dispatches aborted by a delegate error"
  type := .counter

def dispatched : Family where
  name := "pixsim_bus_messages_dispatched_total"
  help := "Total number of messages dispatched without error"
  type := .counter

def observed : Family where
  name := "pixsim_bus_messages_observed_total"
  help := "Messages observed by monitors"
  type := .counter
  labels := ["payload"]

def unreceived : Family where
  name := "pixsim_bus_unreceived_messages_total"
  help := "Total number of dispatched messages no delegate accepted"
  type := .counter

def timed : Family where
  name := "pixsim_runtime_event_duration_seconds"
  help := "Time spent running all modules for one event"
  type := .histogram

def processed : Family where
  name := "pixsim_runtime_events_processed_total"
  help := "Events processed"
  type := .counter
  labels := ["lane"]

def moduleErrors : Family where
  name := "pixsim_runtime_module_errors_total"
  help := "Errors by module and type"
  type := .counter
  labels := ["error_type", "module"]

/-- Every metric, in the order of exposition, which is that of their names. -/
def all : List Family :=
  [delegates, deliveries, failed, dispatched, observed, unreceived, timed, processed, moduleErrors]

/-- The lines that introduce a metric's samples. -/
def head (family : Family) : List String :=
  ["# HELP " ++ family.name ++ " " ++ family.help,
    "# TYPE " ++ family.name ++ " " ++ family.type.name]

/-- A label's value with the characters escaped that would end it. -/
def labelText (value : String) : String :=
  String.join (value.toList.map fun c =>
    if c = '\\' then "\\\\" else if c = '"' then "\\\"" else if c = '\n' then "\\n"
    else c.toString)

/-- The name of a sample with the given values of the labels. -/
def sample (family : Family) (values : List String) : String :=
  let pairs := (family.labels.zip values).map fun (label, value) =>
    label ++ "=\"" ++ labelText value ++ "\""
  if pairs.isEmpty then family.name
  else family.name ++ "\x7b" ++ ",".intercalate pairs ++ "\x7d"

end Family

namespace Metrics

/-- A count as it is exposed: as the nearest binary64 number, but no more than the greatest signed
64-bit word. -/
def exposed (count : Nat) : Nat :=
  min (Number.nearestNatural count) 0x7FFFFFFFFFFFFFFF

/-- The number of registered delegates, as it is exposed. -/
def gauge (metrics : Metrics) : Nat :=
  exposed metrics.delegates

/-- The samples of counters, and how many events were timed. -/
def samples (metrics : Metrics) : List (String × Nat) :=
  [(Family.deliveries.sample [], metrics.deliveries), (Family.failed.sample [], metrics.failed),
    (Family.dispatched.sample [], metrics.dispatched)] ++
  metrics.observed.toList.map (fun (payload, count) => (Family.observed.sample [payload], count)) ++
  [(Family.unreceived.sample [], metrics.unreceived),
    (Family.timed.sample [] ++ "_count", metrics.timed)] ++
  metrics.processed.toList.map (fun (lane, count) =>
    (Family.processed.sample [lane.display], count)) ++
  metrics.moduleErrors.toList.map fun ((name, kind), count) =>
    (Family.moduleErrors.sample [kind, name], count)

/-- The samples that differ from zero, as they are exposed. -/
def changed (metrics : Metrics) : List (String × Nat) :=
  (metrics.samples.filter fun sample => sample.2 != 0).map fun (name, count) =>
    (name, exposed count)

end Metrics

end Beamline.Telemetry
