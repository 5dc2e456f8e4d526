import Beamline.Bus.Predicate
import Beamline.Json.Reader
import Beamline.Json.Writer
import Beamline.Main
import Beamline.Proofs.Accounting
import Beamline.Proofs.DeliveryCount
import Beamline.Proofs.ForeignRemoval
import Beamline.Proofs.LaneIsolation
import Beamline.Proofs.RegistrationAtomicity
import Beamline.Proofs.Satisfaction
import Beamline.Proofs.SlotContents
import Beamline.Script.Blueprint
import Beamline.Session.Action
import Beamline.Run.Trace
import Beamline.Proofs.Interleaving
import Beamline.Proofs.LaneView
import Beamline.Proofs.ModuleCode
import Beamline.Proofs.DemoEvent
import Beamline.Proofs.DemoLane
import Beamline.Proofs.LaneEvents
import Beamline.Proofs.DemoBuild
import Beamline.Proofs.TearDown
import Beamline.Proofs.DemoRun
import Beamline.Proofs.DemoTotals
import Beamline.Proofs.DemoIndependence
import Beamline.Proofs.AbortProtocol
import Beamline.Proofs.UnitsOfWork
import Beamline.Proofs.WorkerIndependence
import Beamline.Proofs.NothingLeft
import Beamline.Proofs.EventPartition
import Beamline.Proofs.DemoAccounts
import Beamline.Proofs.DelegateNames
import Beamline.Proofs.EventSeeds
import Beamline.Proofs.EventOverflow
import Beamline.Proofs.Lifecycle
import Beamline.Proofs.Asides
import Beamline.Proofs.Benches
import Beamline.Proofs.BenchCode
import Beamline.Proofs.Contributions
import Beamline.Proofs.EventScript
import Beamline.Proofs.Lineups
import Beamline.Proofs.LineupEvents
import Beamline.Proofs.LineupBuild
import Beamline.Proofs.LineupRuns
import Beamline.Proofs.Observation
import Beamline.Proofs.Verification
import Beamline.Proofs.MetricsBalance
import Beamline.Proofs.Publication
import Beamline.Proofs.Releases
import Beamline.Proofs.EventOutcome
import Beamline.Proofs.ChargeGrouping
import Beamline.Proofs.Deposition
import Beamline.Proofs.SensorGeometry
import Beamline.Proofs.Matrices
import Beamline.Proofs.NameLists
import Beamline.Proofs.Numerals
import Beamline.Proofs.Overrides
import Beamline.Proofs.DetectorNames
import Beamline.Proofs.FloatRange
import Beamline.Proofs.JsonCodecs
import Beamline.Proofs.RecordJson
import Beamline.Proofs.JsonText
