import Beamline.Run.Module

/-!
Scripts: modules given as data. A script lists what a module binds, what it does in which events
and where it fails. What the module observes while it runs is noted in the order of its actions.
-/

namespace Beamline

open Bus Run

namespace Script

/-- What a script fails with. -/
inductive Failure
  /-- An error of the module's own, in the stage that it is in. -/
  | own (message : String)
  /-- As if another lane had failed. -/
  | aborted
  | stated (error : RunError)

/-- The detector of a message. -/
inductive Origin
  | nowhere
  | own
  | numbered (index : Nat)

/-- A message to be dispatched. -/
structure Outgoing where
  payload : Payload
  origin : Origin := .nowhere
  /-- The name to dispatch under instead of the module's output name. -/
  name : Option String := none
  /-- Only if a delegate would receive it under the output name. -/
  ifWanted : Bool := false

inductive Action
  | dispatch (outgoing : Outgoing)
  /-- Notes what the bindings hold. -/
  | record
  | noteHandles
  | noteUnmet
  | reset
  | draw (draw : Random.Draw)
  | noteEvent
  | fail (failure : Failure)

/-- An action and the events that it belongs to. -/
structure Step where
  action : Action
  /-- The only events it belongs to, if there are such. -/
  only : Option (List UInt64) := none
  except : List UInt64 := []

namespace Step

def applies (step : Step) (event : UInt64) : Bool :=
  (match step.only with
    | some events => events.contains event
    | none => true) && !step.except.contains event

end Step

/-- What a script binds. -/
inductive Target
  | slot (kind : SlotKind) (payload : PayloadType)
  | filter (binding : Binding Filter)

/-- A binding of a script, under a label. -/
structure Wanted where
  label : String
  target : Target
  flags : Flags

end Script

structure Script where
  name : String
  input : String := ""
  output : String := ""
  perDetector : Bool := false
  wanted : List Script.Wanted := []
  /-- Receivers that slots for hits are bound for apart from the module, which never removes
  them. -/
  leaks : List String := []
  constructFailure : Option Script.Failure := none
  setUpFailure : Option Script.Failure := none
  steps : List Script.Step := []
  finishFailure : Option Script.Failure := none
  /-- Whether the bindings are not released when the module is torn down. -/
  keepsBindings : Bool := false
  tearDownFailure : Option Script.Failure := none

namespace Script

/-- What is under a label of a script. -/
inductive Held
  | single (message : Option Message)
  | multi (messages : List Message)
  /-- How often a filter was asked, and how often it accepted. -/
  | calls (asked accepted : Nat)

/-- A handle and the state of its delegate. -/
structure HandleState where
  handle : Handle
  satisfied : Bool
  unmet : Option BusError

/-- What a script notes. -/
inductive Note
  | dispatched (report : Report)
  | unwanted
  | held (contents : List (String × Held))
  | handles (states : List HandleState)
  | unmet (errors : List BusError)
  | drawn (value : Option Random.Drawn)
  | event (number : UInt64)

/-- The notes of a module with the events they were made in, latest first. -/
abbrev Notes := List (UInt64 × Note)

end Script

end Beamline
