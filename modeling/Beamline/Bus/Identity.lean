import Beamline.Geometry.Detector
import Beamline.Json.Value

namespace Beamline

/-- Index of a lane: one replica of the module chain, with one event in flight at a time. -/
structure LaneId where
  index : UInt16 := 0
  deriving DecidableEq, Hashable, Inhabited

namespace LaneId

def display (lane : LaneId) : String :=
  "lane-" ++ toString lane.index.toNat

def toJson (lane : LaneId) : Json :=
  .ofNat lane.index.toNat

def ofJson? (json : Json) : Option LaneId :=
  json.word16?.map LaneId.mk

end LaneId

namespace Bus

/-- Identity of one module instance. Instances are told apart by their number alone. -/
structure Identity where
  number : Nat
  name : String
  detector : Option Detector := none
  lane : LaneId := {}
  /-- The name that its bindings listen to. -/
  input : String := ""
  /-- The name that its messages are dispatched under. -/
  output : String := ""
  deriving Inhabited

namespace Identity

/-- Whether two identities are of the same instance. -/
def same (first second : Identity) : Bool :=
  first.number == second.number

/-- The name, followed by the detector's if there is one. -/
def uniqueName (identity : Identity) : String :=
  match identity.detector with
  | some detector => identity.name ++ ":" ++ detector.name
  | none => identity.name

def display (identity : Identity) : String :=
  identity.uniqueName ++ "@" ++ identity.lane.display

end Identity

end Bus

end Beamline
