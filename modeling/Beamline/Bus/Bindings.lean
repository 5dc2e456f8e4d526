import Beamline.Bus.Messenger
import Beamline.LogLine

namespace Beamline.Bus

structure Bindings where
  identity : Identity
  /-- The delegates, in the order of registration. -/
  handles : List Handle := []
  deriving Inhabited

namespace Bindings

/-- Registers a binding and keeps its handle. -/
def register (bindings : Bindings) (bus : Bus) (binding : Binding Filter) (flags : Flags) :
    Except BusError Handle × Bindings × Bus :=
  match bus.register bindings.identity binding flags with
  | (.error error, bus) => (.error error, bindings, bus)
  | (.ok handle, bus) =>
    (.ok handle, { bindings with handles := bindings.handles ++ [handle] }, bus)

def bindSlot (bindings : Bindings) (bus : Bus) (kind : SlotKind) (payload : PayloadType)
    (flags : Flags) : Except BusError Slot × Bindings × Bus :=
  let (slot, store) := bus.store.newSlot kind payload
  match bindings.register { bus with store } (.slot slot) flags with
  | (.error error, bindings, bus) => (.error error, bindings, bus)
  | (.ok _, bindings, bus) => (.ok slot, bindings, bus)

/-- Dispatches under a name, or else under the module's output name. -/
def dispatch (bindings : Bindings) (bus : Bus) (message : Message) (name : Option String) :
    Except BusError Report × Bus :=
  bus.dispatch bindings.identity message (name.getD bindings.identity.output)

/-- Whether a message under the module's output name would reach a delegate. -/
def hasReceiver (bindings : Bindings) (bus : Bus) (message : Message) : Bool :=
  bus.messenger.hasReceiver bindings.identity message bindings.identity.output

def reset (bindings : Bindings) (bus : Bus) : Bus :=
  bindings.handles.foldl Bus.reset bus

/-- One error for each required binding that got nothing. -/
def unmetRequirements (bindings : Bindings) (bus : Bus) : List BusError :=
  bindings.handles.filterMap fun handle => handle.unmetRequirement bus.store

/-- Removes delegates one after the other, all of them whatever happens, and returns the first
error. -/
def removeAll (bus : Bus) : List Handle → Option BusError × Bus
  | [] => (none, bus)
  | handle :: rest =>
    let (result, bus) := bus.remove handle
    let (later, bus) := removeAll bus rest
    match result with
    | .error error => (some error, bus)
    | .ok () => (later, bus)

/-- Removes every delegate and forgets the handles. -/
def release (bindings : Bindings) (bus : Bus) : Except BusError Unit × Bindings × Bus :=
  let (fault, bus) := removeAll bus bindings.handles
  (match fault with
    | some error => .error error
    | none => .ok (), { bindings with handles := [] }, bus)

/-- Releases what is left when a module goes, and warns if something was. -/
def drop (bindings : Bindings) (bus : Bus) : List LogLine × Bus :=
  if bindings.handles.isEmpty then ([], bus)
  else
    let dropped : LogLine := {
      message := "Bindings dropped without release"
      fields := [("module", bindings.identity.display),
        ("delegates", toString bindings.handles.length)] }
    match bindings.release bus with
    | (.ok (), _, bus) => ([dropped], bus)
    | (.error error, _, bus) =>
      ([dropped, {
        message := "Failed to release bindings on drop"
        fields := [("module", bindings.identity.display), ("error", error.message)] }], bus)

def display (bindings : Bindings) : String :=
  "Bindings \x7b module: " ++ Text.quoted bindings.identity.uniqueName ++ ", delegates: " ++
    toString bindings.handles.length ++ " \x7d"

end Bindings

end Beamline.Bus
