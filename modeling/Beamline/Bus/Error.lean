import Beamline.Bus.Flags

namespace Beamline.Bus

/-- Why a binding is refused, or a message to it. -/
inductive Refusal
  | exclusiveNames
  | overwriteWithoutSingle
  | alreadyBound
  | alreadyFilled
  | stated (reason : String)
  deriving DecidableEq, Repr

namespace Refusal

def message : Refusal → String
  | exclusiveNames => "IGNORE_NAME and UNNAMED_ONLY are mutually exclusive"
  | overwriteWithoutSingle => "ALLOW_OVERWRITE only applies to single-slot bindings"
  | alreadyBound => "the same receiver storage is already bound"
  | alreadyFilled =>
    "single-slot binding already received a message in this unit of work"
  | stated reason => reason

end Refusal

/-- The options that a kind of delegate cannot have. -/
def Flags.incompatibility (flags : Flags) (kind : DelegateKind) : Option Refusal :=
  if flags.ignoreName && flags.unnamedOnly then some .exclusiveNames
  else if flags.allowOverwrite && kind != .single then some .overwriteWithoutSingle
  else none

/-- How the registry contradicts itself, or a call contradicts the registry. -/
inductive Inconsistency
  | notRegistered (delegate : String)
  | missingType (delegate : String)
  | missingDelegate (delegate : String)
  | misrouted (delegate payload : String)
  | emptyType (type : String)
  | emptyBucket (type name : String)
  | notIndexed (delegate type name : String)
  | countsDiffer (delegates indexed : Nat)
  | stated (reason : String)
  deriving DecidableEq, Repr

namespace Inconsistency

def message : Inconsistency → String
  | notRegistered delegate => "delegate " ++ delegate ++ " is not registered"
  | missingType delegate => "reverse index of " ++ delegate ++ " points at a missing type bucket"
  | missingDelegate delegate => "reverse index of " ++ delegate ++ " points at a missing delegate"
  | misrouted delegate payload => delegate ++ " was routed a " ++ payload ++ " message"
  | emptyType type => "empty name map retained for " ++ type
  | emptyBucket type name => "empty bucket retained for " ++ type ++ "/" ++ name
  | notIndexed delegate type name => delegate ++ " is not indexed at " ++ type ++ "/" ++ name
  | countsDiffer delegates indexed =>
    "forward map holds " ++ toString delegates ++ " delegates, reverse index " ++
      toString indexed
  | stated reason => reason

end Inconsistency

inductive BusError
  /-- A binding that cannot be made, or a message that a binding refuses. -/
  | invalidBinding (delegate payload name : String) (reason : Refusal)
  /-- A required binding without a message at the end of a unit of work. -/
  | unmetRequirement (module payload name : String)
  | consistency (cause : Inconsistency)
  deriving DecidableEq, Repr

namespace BusError

def message : BusError → String
  | invalidBinding delegate payload name reason =>
    "Invalid binding " ++ delegate ++ " for " ++ payload ++ " message (name '" ++ name ++ "'): " ++
      reason.message
  | unmetRequirement module payload name =>
    "Module " ++ module ++ " did not receive a required " ++ payload ++ " message (input '" ++
      name ++ "')"
  | consistency cause => "Messenger consistency violation: " ++ cause.message

/-- Whether the run was set up wrong rather than failing on its data. -/
def isConfiguration : BusError → Bool
  | invalidBinding .. | unmetRequirement .. => true
  | consistency _ => false

end BusError

end Beamline.Bus
