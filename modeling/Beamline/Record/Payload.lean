import Beamline.Record.Written

namespace Beamline

/-- The type of the records in a message. Two types may share a name and still differ. -/
inductive PayloadType
  | track
  | particle
  | deposit
  | pixelCharge
  | pixelHit
  | declared (tag : Nat) (name : String)
  deriving DecidableEq, Hashable, Repr, Inhabited

namespace PayloadType

def name : PayloadType → String
  | track => "MCTrack"
  | particle => "MCParticle"
  | deposit => "DepositedCharge"
  | pixelCharge => "PixelCharge"
  | pixelHit => "PixelHit"
  | declared _ name => name

end PayloadType

/-- Records of one type. -/
inductive Payload
  | tracks (records : List Track)
  | particles (records : List Particle)
  | deposits (records : List Deposit)
  | pixelCharges (records : List PixelCharge)
  | pixelHits (records : List PixelHit)
  | declared (tag : Nat) (name : String) (records : List Json)
  deriving Inhabited

namespace Payload

def type : Payload → PayloadType
  | tracks _ => .track
  | particles _ => .particle
  | deposits _ => .deposit
  | pixelCharges _ => .pixelCharge
  | pixelHits _ => .pixelHit
  | declared tag name _ => .declared tag name

def size : Payload → Nat
  | tracks records => records.length
  | particles records => records.length
  | deposits records => records.length
  | pixelCharges records => records.length
  | pixelHits records => records.length
  | declared _ _ records => records.length

def written : Payload → List Json
  | tracks records => records.map Track.toJson
  | particles records => records.map Particle.toJson
  | deposits records => records.map Deposit.toJson
  | pixelCharges records => records.map PixelCharge.toJson
  | pixelHits records => records.map PixelHit.toJson
  | declared _ _ records => records

/-- The deposits in a message that carries some. -/
def deposits? : Payload → List Deposit
  | deposits records => records
  | _ => []

/-- The pixel charges in a message that carries some. -/
def pixelCharges? : Payload → List PixelCharge
  | pixelCharges records => records
  | _ => []

end Payload

end Beamline
