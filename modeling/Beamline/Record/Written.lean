import Beamline.Geometry.Detector
import Beamline.Json.Value
import Beamline.Record.Basic

/-!
Records as JSON. Writing gives an object with every field in order. Reading also takes an array of
all fields and objects with further members, in any order; an optional field may be null or, in an
object, missing. Reading checks the shape and the ranges of integers, nothing else.
-/

namespace Beamline

open Json (required optional)

namespace Position

def toJson (point : Position) : Json :=
  .obj [("x", .ofFloat point.x), ("y", .ofFloat point.y), ("z", .ofFloat point.z)]

def ofJson? (json : Json) : Option Position :=
  match json.fields? ["x", "y", "z"] with
  | some [x, y, z] => do
    return { x := ← required Json.float? x
             y := ← required Json.float? y
             z := ← required Json.float? z }
  | _ => none

end Position

namespace PixelIndex

def toJson (pixel : PixelIndex) : Json :=
  .obj [("x", .ofNat pixel.x.toNat), ("y", .ofNat pixel.y.toNat)]

def ofJson? (json : Json) : Option PixelIndex :=
  match json.fields? ["x", "y"] with
  | some [x, y] => do
    return { x := ← required Json.word32? x
             y := ← required Json.word32? y }
  | _ => none

end PixelIndex

namespace Carrier

def toJson : Carrier → Json
  | electron => .str "Electron"
  | hole => .str "Hole"

def ofName? (name : String) : Option Carrier :=
  if name = "Electron" then some .electron
  else if name = "Hole" then some .hole
  else none

/-- A carrier is written as its name, or as an object with null under its name. -/
def ofJson? : Json → Option Carrier
  | .str name => ofName? name
  | .obj [(name, .null)] => ofName? name
  | _ => none

end Carrier

/-- An index into a message, written as a number. -/
def writtenIndex (index : Option UInt64) : Json :=
  .ofOption (fun value => .ofNat value.toNat) index

namespace Track

def toJson (track : Track) : Json :=
  .obj [("particle_id", .int track.particleId.toInt), ("origin", track.origin.toJson),
    ("initial_kinetic_energy_kev", .ofFloat track.energy), ("parent", writtenIndex track.parent)]

def ofJson? (json : Json) : Option Track :=
  match json.fields? ["particle_id", "origin", "initial_kinetic_energy_kev", "parent"] with
  | some [particleId, origin, energy, parent] => do
    return { particleId := ← required Json.int32? particleId
             origin := ← required Position.ofJson? origin
             energy := ← required Json.float? energy
             parent := ← optional Json.word64? parent }
  | _ => none

end Track

namespace Particle

def toJson (particle : Particle) : Json :=
  .obj [("local_begin_point", particle.localBegin.toJson),
    ("global_begin_point", particle.globalBegin.toJson),
    ("local_end_point", particle.localEnd.toJson),
    ("global_end_point", particle.globalEnd.toJson),
    ("particle_id", .int particle.particleId.toInt), ("parent", writtenIndex particle.parent)]

def ofJson? (json : Json) : Option Particle :=
  match json.fields? ["local_begin_point", "global_begin_point", "local_end_point",
      "global_end_point", "particle_id", "parent"] with
  | some [localBegin, globalBegin, localEnd, globalEnd, particleId, parent] => do
    return { localBegin := ← required Position.ofJson? localBegin
             globalBegin := ← required Position.ofJson? globalBegin
             localEnd := ← required Position.ofJson? localEnd
             globalEnd := ← required Position.ofJson? globalEnd
             particleId := ← required Json.int32? particleId
             parent := ← optional Json.word64? parent }
  | _ => none

end Particle

namespace Deposit

def toJson (deposit : Deposit) : Json :=
  .obj [("local_position", deposit.localPosition.toJson),
    ("global_position", deposit.globalPosition.toJson), ("carrier", deposit.carrier.toJson),
    ("charge", .ofNat deposit.charge.toNat), ("event_time_ns", .ofFloat deposit.time),
    ("mc_particle", writtenIndex deposit.particle)]

def ofJson? (json : Json) : Option Deposit :=
  match json.fields? ["local_position", "global_position", "carrier", "charge", "event_time_ns",
      "mc_particle"] with
  | some [localPosition, globalPosition, carrier, charge, time, particle] => do
    return { localPosition := ← required Position.ofJson? localPosition
             globalPosition := ← required Position.ofJson? globalPosition
             carrier := ← required Carrier.ofJson? carrier
             charge := ← required Json.word32? charge
             time := ← required Json.float? time
             particle := ← optional Json.word64? particle }
  | _ => none

end Deposit

namespace PixelCharge

def toJson (record : PixelCharge) : Json :=
  .obj [("pixel", record.pixel.toJson), ("charge", .ofFloat record.charge)]

def ofJson? (json : Json) : Option PixelCharge :=
  match json.fields? ["pixel", "charge"] with
  | some [pixel, charge] => do
    return { pixel := ← required PixelIndex.ofJson? pixel
             charge := ← required Json.float? charge }
  | _ => none

end PixelCharge

namespace PixelHit

def toJson (hit : PixelHit) : Json :=
  .obj [("pixel", hit.pixel.toJson), ("time_ns", .ofFloat hit.time),
    ("signal", .ofNat hit.signal.toNat)]

def ofJson? (json : Json) : Option PixelHit :=
  match json.fields? ["pixel", "time_ns", "signal"] with
  | some [pixel, time, signal] => do
    return { pixel := ← required PixelIndex.ofJson? pixel
             time := ← required Json.float? time
             signal := ← required Json.word32? signal }
  | _ => none

end PixelHit

namespace Json

/-- A pair is an array of exactly two items. -/
def pair? {α : Type} (decode : Json → Option α) : Json → Option (α × α)
  | .arr [first, second] => do return (← decode first, ← decode second)
  | _ => none

end Json

namespace Detector

def toJson (detector : Detector) : Json :=
  .obj [("name", .str detector.name), ("model", .str detector.model),
    ("position", detector.position.toJson),
    ("pixels", .arr [.ofNat detector.pixels.1.toNat, .ofNat detector.pixels.2.toNat]),
    ("pitch", .arr [.ofFloat detector.pitch.1, .ofFloat detector.pitch.2]),
    ("thickness", .ofFloat detector.thickness)]

/-- Reads a description without checking it. -/
def ofJson? (json : Json) : Option Detector :=
  match json.fields? ["name", "model", "position", "pixels", "pitch", "thickness"] with
  | some [name, model, position, pixels, pitch, thickness] => do
    return { name := ← required Json.text? name
             model := ← required Json.text? model
             position := ← required Position.ofJson? position
             pixels := ← required (Json.pair? Json.word32?) pixels
             pitch := ← required (Json.pair? Json.float?) pitch
             thickness := ← required Json.float? thickness }
  | _ => none

end Detector

end Beamline
