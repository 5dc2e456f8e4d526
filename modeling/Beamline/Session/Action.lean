import Beamline.Session.Basic

namespace Beamline.Session

open Bus Run

/-! ## Messengers -/

/-- Drops a messenger that lost a label or a user, unless it has others. It is a fault if delegates
are registered with it then. -/
def release (number : Nat) : Act Unit := do
  let session ← get
  unless session.isKept number do
    if let some fault := (session.messenger number).dropFault then throw fault

/-- A new messenger, under a label that another one may lose. -/
def newMessenger (label : String) : Act Unit := do
  let replaced := (← get).labels.lookup label
  let number ← makeMessenger
  modify fun session => { session with labels := session.labels.put label number }
  replaced.forM release

/-- Drops a messenger unless bindings or modules use it, and says whether it did. -/
def dropMessenger (label : String) : Act Bool := do
  let number ← messengerAt label
  if (← get).isShared number then return false
  modify fun session => { session with labels := session.labels.drop label }
  release number
  return true

/-- Keeps a handle that was registered, under its label. -/
def keepRegistered (label : String) (result : Except BusError Handle) :
    Act (Except BusError Handle) := do
  if let .ok handle := result then
    keepHandle label handle
    if let some installed := handle.delegate.binding.installed? then
      modify fun session => { session with filters := (installed.number, label) :: session.filters }
  return result

/-- Registers a binding with a messenger. -/
def register (messenger : Nat) (label : String) (receiver : Identity) (binding : Binding Filter)
    (flags : Flags) : Act (Except BusError Handle) := do
  keepRegistered label (← onBus messenger fun bus => bus.register receiver binding flags)

/-- The calls of labelled filters since there were so many calls, in order. -/
def callsSince (session : Session) (mark : Nat) : List (String × Call) :=
  let calls := session.filters.flatMap fun (number, label) =>
    let state := session.store.filterState number
    ((state.places.zip state.calls).takeWhile fun entry => mark ≤ entry.1).map
      fun (place, call) => (place, label, call)
  (calls.mergeSort fun first second => first.1 ≤ second.1).map Prod.snd

/-! ## Bindings -/

/-- Does something with bindings and the bus of their messenger. -/
def onBindings {α : Type} (label : String) (act : Bindings → Bus → α × Bindings × Bus) :
    Act α := do
  let held ← bindingsAt label
  let (result, value) ← onBus held.messenger fun bus =>
    let (result, bindings, bus) := act held.value bus
    ((result, bindings), bus)
  modify fun session => { session with
    bindings := session.bindings.put label { held with value } }
  return result

/-- Asks something of bindings and the bus of their messenger. -/
def askBindings {α : Type} (label : String) (question : Bindings → Bus → α) : Act α := do
  let held ← bindingsAt label
  askBus held.messenger (question held.value)

/-- Drops bindings that lost their label, and then what they kept of their messenger. -/
def partWith (held : Attached Bindings) : Act (List LogLine) := do
  let lines ← onBus held.messenger held.value.drop
  release held.messenger
  return lines

/-- Drops the bindings under a label, if there are any. -/
def dropBindings (label : String) : Act (List LogLine) := do
  match (← get).bindings.lookup label with
  | none => return []
  | some held =>
    modify fun session => { session with bindings := session.bindings.drop label }
    partWith held

/-- New bindings of an instance, under a label whose old ones are dropped. -/
def newBindings (messenger : Nat) (label : String) (identity : Identity) : Act Unit := do
  let replaced := (← get).bindings.lookup label
  modify fun session => { session with
    bindings := session.bindings.put label { messenger, value := { identity } } }
  if let some held := replaced then discard (partWith held)

/-! ## Modules -/

def moduleAt? (label : String) : Act (Option (Attached (Module Demo.Counters))) := do
  return (← get).modules.lookup label

def keepModule (label : String) (module : Attached (Module Demo.Counters)) : Act Unit :=
  modify fun session => { session with modules := session.modules.put label module }

def bindingsOf (held : Attached (Module Demo.Counters)) : Attached Bindings :=
  { held with value := held.value.bindings }

/-- Drops the module under a label, if there is one. -/
def dropModule (label : String) : Act (List LogLine) := do
  match ← moduleAt? label with
  | none => return []
  | some held =>
    modify fun session => { session with modules := session.modules.drop label }
    partWith (bindingsOf held)

/-- Builds a module for the detector with a number, if it is one that belongs to a detector. Once it
is built, the one that had its label is dropped. -/
def newModule (messenger : Nat) (label : String) (blueprint : Blueprint Demo.Counters)
    (lane : LaneId) (detector : Nat) : Act (Except Stop (Module Demo.Counters)) := do
  let session ← get
  let surroundings : Surroundings := {
    lane, detectors := session.setup, pipeline := session.pipeline }
  let own := if blueprint.perDetector then session.setup[detector]? else none
  let result ← onBus messenger fun bus =>
    let (result, world) := blueprint.build surroundings own { bus }
    (result, world.bus)
  if let .ok module := result then
    keepModule label { messenger, value := module }
    if let some held := session.modules.lookup label then discard (partWith (bindingsOf held))
  return result

/-- What comes of calling code of a module. -/
structure Called where
  result : Except Stop Unit
  lines : List LogLine
  /-- The event afterwards. -/
  context : Option EventContext

/-- Calls code of the module under a label. -/
def callModule (label : String) (code : Behaviour Demo.Counters → Run.Code Demo.Counters Unit)
    (context : Option EventContext) : Act Called := do
  match ← moduleAt? label with
  | none => return { result := .ok (), lines := [], context }
  | some held =>
    let (called, value) ← onBus held.messenger fun bus =>
      let ((result, module, context), world) :=
        (held.value.call (code held.value.behaviour) context).finish { bus }
      (({ result, lines := world.lines.reverse, context }, module), world.bus)
    keepModule label { held with value }
    return called

/-- Runs the module under a label on an event, which goes on with its stream. -/
def runModule (label event : String) : Act Called := do
  match (← get).events.lookup event with
  | none => return { result := .ok (), lines := [], context := none }
  | some current =>
    let called ← callModule label (fun behaviour => behaviour.run current.number)
      (some current.context)
    keepEvent event { current with stream := (called.context.getD current.context).stream }
    return called

end Beamline.Session
