import Beamline.Text.Quoted

namespace Beamline

inductive Fault
  /-- A difference of words below zero. -/
  | subtraction
  /-- A sum of words above the greatest word. -/
  | addition
  /-- A random number was asked for from a range without members. -/
  | emptyRange
  /-- A messenger was dropped while these delegates were registered. -/
  | droppedRegistered (delegates : List String)
  deriving DecidableEq, Repr

namespace Fault

/-- How many delegates were registered with a dropped messenger. -/
def droppedCount (count : Nat) : String :=
  "messenger dropped with " ++ toString count ++ " registered delegates"

def message : Fault → String
  | subtraction => "attempt to subtract with overflow"
  | addition => "attempt to add with overflow"
  | emptyRange => "cannot sample empty range"
  | droppedRegistered delegates =>
    droppedCount delegates.length ++ ": " ++ Text.quotedList delegates

end Fault

/-- The sum of two words, which has to be a word. -/
def Number.sum (first second : UInt64) : Except Fault UInt64 :=
  if first ≤ first + second then .ok (first + second) else .error .addition

end Beamline
