import Beamline.Bus.Error
import Beamline.Bus.Store

/-!
Delegates: what the messenger keeps for each binding of a receiver. A delegate knows where it
delivers to, under which type and name it is listed, and how it handles a message.
-/

namespace Beamline.Bus

/-- What a receiver binds: a slot to be filled, or a filter to be asked. -/
inductive Binding (F : Type)
  | slot (storage : Slot)
  | filter (payload : PayloadType) (filter : F)
  | anyFilter (filter : F)
  deriving Inhabited

namespace Binding

variable {F : Type}

def kind : Binding F → DelegateKind
  | slot { kind := .single, .. } => .single
  | slot { kind := .multi, .. } => .multi
  | filter .. => .filter
  | anyFilter _ => .anyFilter

/-- The type of messages it takes, none if it takes every type. -/
def payload : Binding F → Option PayloadType
  | slot storage => some storage.payload
  | filter payload _ => some payload
  | anyFilter _ => none

/-- The name of the type of messages it takes. -/
def payloadName (binding : Binding F) : String :=
  match binding.payload with
  | some payload => payload.name
  | none => "*"

def slot? : Binding F → Option Slot
  | slot storage => some storage
  | _ => none

end Binding

/-- A filter whose state is kept under a number in the store. -/
structure Installed where
  number : Nat
  filter : Filter
  deriving Inhabited

/-- First key of the registry. -/
inductive TypeKey
  | any
  | payload (type : PayloadType)
  deriving DecidableEq, Hashable, Inhabited

namespace TypeKey

def display : TypeKey → String
  | any => "Any"
  | payload type => "Payload(" ++ type.name ++ ")"

end TypeKey

/-- Second key of the registry. The key for any name differs from that of every name. -/
inductive NameKey
  | any
  | exact (name : String)
  deriving DecidableEq, Hashable, Inhabited

namespace NameKey

def display : NameKey → String
  | any => "*"
  | exact name => name

/-- The names that a receiver's binding listens to. -/
def ofReceiver (receiver : Identity) (flags : Flags) : NameKey :=
  if flags.ignoreName then .any
  else if flags.unnamedOnly then .exact ""
  else .exact receiver.input

end NameKey

def Binding.installed? : Binding Installed → Option Installed
  | filter _ installed | anyFilter installed => some installed
  | slot _ => none

structure Delegate where
  receiver : Identity
  flags : Flags
  binding : Binding Installed
  deriving Inhabited

namespace Delegate

def typeKey (delegate : Delegate) : TypeKey :=
  match delegate.binding.payload with
  | some payload => .payload payload
  | none => .any

def nameKey (delegate : Delegate) : NameKey :=
  .ofReceiver delegate.receiver delegate.flags

/-- Whether the lane and the detectors of a message from `source` suit the receiver. -/
def inScope (delegate : Delegate) (source : Identity) (message : Message) : Bool :=
  delegate.receiver.lane == source.lane &&
    match delegate.receiver.detector, message.detector with
    | some mine, some origin => mine.name == origin.name
    | _, _ => true

/-- Whether the receiver got something since its storage was last emptied. -/
def isSatisfied (delegate : Delegate) (store : Store) : Bool :=
  match delegate.binding with
  | .slot slot => store.isFilled slot
  | .filter _ installed | .anyFilter installed => (store.filterState installed.number).delivered

/-- Empties the receiver's storage, or takes back that the filter accepted something. -/
def reset (delegate : Delegate) (store : Store) : Store :=
  match delegate.binding with
  | .slot slot => store.resetSlot slot
  | .filter _ installed | .anyFilter installed => store.resetFilter installed.number

end Delegate

/-- The text that names a binding of a receiver. -/
def bindingName {F : Type} (receiver : Identity) (binding : Binding F) : String :=
  receiver.display ++ "/" ++ binding.kind.name ++ "<" ++ binding.payloadName ++ ">"

/-- A delegate with the number it was registered under. -/
structure Handle where
  id : Nat
  delegate : Delegate
  deriving Inhabited

namespace Handle

def idText (handle : Handle) : String :=
  "#" ++ toString handle.id

def uniqueName (handle : Handle) : String :=
  bindingName handle.delegate.receiver handle.delegate.binding ++ handle.idText

def display (handle : Handle) : String :=
  "DelegateHandle(" ++ Text.quoted handle.uniqueName ++ ")"

def isRequired (handle : Handle) : Bool :=
  handle.delegate.flags.required

def isSatisfied (handle : Handle) (store : Store) : Bool :=
  handle.delegate.isSatisfied store

/-- The error of a required binding that got nothing. -/
def unmet (handle : Handle) : BusError :=
  .unmetRequirement handle.delegate.receiver.uniqueName handle.delegate.binding.payloadName
    handle.delegate.nameKey.display

/-- The error of a binding if it is required and got nothing. -/
def unmetRequirement (handle : Handle) (store : Store) : Option BusError :=
  if !handle.isRequired || handle.isSatisfied store then none else some handle.unmet

/-- A message of a type that the delegate does not take. -/
def misrouted (handle : Handle) (message : Message) : BusError :=
  .consistency (.misrouted handle.uniqueName message.type.name)

/-- A message for a filled slot that must not be overwritten. -/
def refused (handle : Handle) (name : String) : BusError :=
  .invalidBinding handle.uniqueName handle.delegate.binding.payloadName name .alreadyFilled

/-- Delivers a message. The answer is whether the receiver accepted it. -/
def process (handle : Handle) (store : Store) (message : Message) (name : String) :
    Except BusError Bool × Store :=
  match handle.delegate.binding with
  | .slot slot =>
    if slot.payload ≠ message.type then (.error (handle.misrouted message), store)
    else match store.put slot message handle.delegate.flags.allowOverwrite with
      | none => (.error (handle.refused name), store)
      | some store => (.ok true, store)
  | .filter payload installed =>
    if payload ≠ message.type then (.error (handle.misrouted message), store)
    else
      let (accepted, store) := store.ask installed.number installed.filter message none
      (.ok accepted, store)
  | .anyFilter installed =>
    let (accepted, store) := store.ask installed.number installed.filter message (some name)
    (.ok accepted, store)

end Handle

end Beamline.Bus
