import Beamline.Script.Basic

namespace Beamline.Script

open Bus Run

/-- What a label of a script stands for once it is bound. -/
inductive Bound
  | slot (storage : Slot)
  | filter (handle : Handle)

variable {σ : Type}

namespace Failure

def raise (failure : Failure) (stage : Stage) : Code σ Unit := do
  let identity : Identity ← Code.ask .identity
  match failure with
  | own message => Code.fail (.module identity.uniqueName stage message)
  | aborted => Code.fail (.aborted identity.lane)
  | stated error => Code.fail error

end Failure

/-- Fails in a stage if there is something to fail with. -/
def raiseIf (failure : Option Failure) (stage : Stage) : Code σ Unit :=
  match failure with
  | some failure => failure.raise stage
  | none => return ()

/-- The message that an outgoing one stands for. -/
def Outgoing.message (outgoing : Outgoing) (detectors : List Detector) : Code σ Message := do
  let identity : Identity ← Code.ask .identity
  let detector := match outgoing.origin with
    | .nowhere => none
    | .own => identity.detector
    | .numbered index => detectors[index]?
  return { payload := outgoing.payload, detector }

/-- Dispatches a message and notes how it was received. -/
def dispatch (outgoing : Outgoing) (detectors : List Detector) : Code σ Note := do
  let message ← outgoing.message detectors
  let wanted : Bool ←
    if outgoing.ifWanted then Code.ask (.hasReceiver message) else pure true
  if wanted then
    return .dispatched (← Code.dispatch message outgoing.name)
  else
    return .unwanted

def Bound.held (bound : Bound) : Code σ Held := do
  match bound with
  | slot storage =>
    let messages : List Message ← Code.ask (.read storage)
    return match storage.kind with
      | .single => .single messages.head?
      | .multi => .multi messages
  | filter handle =>
    match handle.delegate.binding.installed? with
    | none => return .calls 0 0
    | some installed =>
      let calls : List Call ← Code.ask (.calls installed.number)
      return .calls calls.length (calls.countP Call.accepted)

/-- The state of a delegate: if it is required and got nothing, this is one of the module's unmet
requirements. -/
def stateOf (handle : Handle) : Code σ HandleState := do
  let satisfied : Bool ← Code.ask (.isSatisfied handle)
  return { handle, satisfied
           unmet := if handle.isRequired && !satisfied then some handle.unmet else none }

/-- Performs an action and returns what is to be noted, if anything is. -/
def Action.perform (action : Action) (detectors : List Detector) (bound : List (String × Bound))
    (event : UInt64) : Code σ (Option Note) := do
  match action with
  | dispatch outgoing => return some (← Script.dispatch outgoing detectors)
  | record => return some (.held (← bound.mapM fun (label, bound) => return (label, ← bound.held)))
  | noteHandles =>
    let handles : List Handle ← Code.ask .handles
    return some (.handles (← handles.mapM stateOf))
  | noteUnmet => return some (.unmet (← Code.ask .unmetRequirements))
  | reset =>
    let _ ← Code.ask .resetAll
    return none
  | draw wanted => return some (.drawn (← Code.draw wanted))
  | noteEvent => return some (.event event)
  | fail failure =>
    failure.raise .run
    return none

/-- Performs a step if it belongs to an event, and keeps what is to be noted. -/
def Step.perform (step : Step) (detectors : List Detector) (bound : List (String × Bound))
    (event : UInt64) : Code Notes Unit := do
  if step.applies event then
    if let some note ← step.action.perform detectors bound event then
      modify fun notes => (event, note) :: notes

def Wanted.bind (wanted : Wanted) : Code σ (String × Bound) := do
  match wanted.target with
  | .slot kind payload => return (wanted.label, .slot (← Code.bindSlot kind payload wanted.flags))
  | .filter binding => return (wanted.label, .filter (← Code.register binding wanted.flags))

/-- Binds a slot for hits for a receiver that is not a module. -/
def leak (name : String) : Code σ Unit := do
  let _ ← Code.attempt (← Code.ask (.bindApart name .multi .pixelHit {}))

def behaviour (script : Script) (detectors : List Detector) (bound : List (String × Bound)) :
    Behaviour Notes where
  setUp := raiseIf script.setUpFailure .setUp
  run event := script.steps.forM fun step => step.perform detectors bound event
  finish := raiseIf script.finishFailure .finish
  tearDown := do
    if !script.keepsBindings then Code.release
    raiseIf script.tearDownFailure .tearDown

def blueprint (script : Script) : Blueprint Notes where
  name := script.name
  input := script.input
  output := script.output
  perDetector := script.perDetector
  construct surroundings _ := do
    let bound ← script.wanted.mapM Wanted.bind
    script.leaks.forM leak
    raiseIf script.constructFailure .setUp
    return (script.behaviour surroundings.detectors bound, [])

end Beamline.Script
