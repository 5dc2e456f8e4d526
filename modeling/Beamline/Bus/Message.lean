import Beamline.Bus.Identity
import Beamline.Record.Payload
import Beamline.Text.Quoted

namespace Beamline.Bus

structure Message where
  payload : Payload
  detector : Option Detector := none
  deriving Inhabited

namespace Message

def type (message : Message) : PayloadType :=
  message.payload.type

def size (message : Message) : Nat :=
  message.payload.size

def isEmpty (message : Message) : Bool :=
  message.size == 0

def display (message : Message) : String :=
  let detector := match message.detector with
    | some detector => "Some(" ++ Text.quoted detector.name ++ ")"
    | none => "None"
  "Message \x7b payload: " ++ Text.quoted message.type.name ++ ", records: " ++
    toString message.size ++ ", detector: " ++ detector ++ " \x7d"

end Message

end Beamline.Bus
