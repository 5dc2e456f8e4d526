import Beamline.Bus.Store

namespace Beamline.Bus

/-- What a filter accepts. -/
inductive Predicate
  | everything
  | nothing
  | sizeAtLeast (least : Nat)
  /-- The size leaves this remainder on division. -/
  | sizeModulo (divisor remainder : Nat)
  | isEmpty (wanted : Bool)
  /-- Messages of the detector with a name, or else those of no detector. -/
  | detector (name : Option String)
  /-- Messages under a name, for filters that learn the name. -/
  | calledBy (name : String)
  | payloadName (name : String)
  | payload (type : PayloadType)
  /-- Every so many calls one. -/
  | every (count : Nat)
  /-- A field of some record is a number above the limit. -/
  | fieldAbove (key : String) (limit : Float)

namespace Predicate

/-- Whether a field of a written record is a number above a limit. -/
def isAbove (key : String) (limit : Float) (record : Json) : Bool :=
  ((record.member? key).bind Json.float?).any fun value => value > limit

/-- The answer to a call after earlier ones. -/
def accepts (predicate : Predicate) (earlier : List Call) (message : Message)
    (called : Option String) : Bool :=
  match predicate with
  | everything => true
  | nothing => false
  | sizeAtLeast least => least ≤ message.size
  | sizeModulo divisor remainder => message.size % divisor == remainder
  | isEmpty wanted => message.isEmpty == wanted
  | detector name => message.detector.map Detector.name == name
  | calledBy name => called == some name
  | payloadName name => message.type.name == name
  | payload type => message.type == type
  | every count => (earlier.length + 1) % count == 0
  | fieldAbove key limit => message.payload.written.any (isAbove key limit)

/-- The filter that accepts what a predicate holds of. -/
def filter (predicate : Predicate) : Filter :=
  { accepts := predicate.accepts }

end Predicate

end Beamline.Bus
