import Beamline.Demo.Chain
import Beamline.Number.Natural
import Beamline.Run.Simulation

/-!
Sessions: messengers, receivers and modules kept under labels and used one operation at a time.
Everything in a session shares one store, so an object under several labels, or bound with several
messengers, is the same object everywhere. A messenger lives on without its label as long as
bindings or modules use it. An unknown label stands for a default object that has no label.
-/

namespace Beamline

open Bus Run

namespace Session

/-- Values under labels, the latest first. -/
abbrev Labels (α : Type) := List (String × α)

namespace Labels

variable {α : Type}

def drop (table : Labels α) (label : String) : Labels α :=
  table.filter fun entry => entry.1 != label

/-- Puts a value under a label instead of the one that was there. -/
def put (table : Labels α) (label : String) (value : α) : Labels α :=
  (label, value) :: table.drop label

end Labels

/-- Something that uses a messenger, which is known by its number. -/
structure Attached (α : Type) where
  messenger : Nat
  value : α

/-- An event, with what is left of its random stream. -/
structure Event where
  number : UInt64
  lane : LaneId
  stream : Random.Stream

def Event.context (event : Event) : EventContext where
  event := event.number
  stream := event.stream

end Session

structure Session where
  store : Store := {}
  /-- The messengers made so far; the place of one is its number. -/
  messengers : List Messenger := [{}]
  /-- The numbers of the messengers under labels. -/
  labels : Session.Labels Nat := [("m", 0)]
  detectors : Session.Labels Detector := []
  identities : Session.Labels Identity := []
  slots : Session.Labels Slot := []
  handles : Session.Labels Handle := []
  bindings : Session.Labels (Session.Attached Bindings) := []
  modules : Session.Labels (Session.Attached (Module Demo.Counters)) := []
  events : Session.Labels Session.Event := []
  /-- Labels of tallies; the place of a label is the number of its tally. -/
  tallies : List String := []
  /-- Filters that were registered under labels, by the number of their state. -/
  filters : List (Nat × String) := []
  /-- The detectors and the pipeline that modules are built for. -/
  setup : List Detector := []
  pipeline : Pipeline := {}

namespace Session

def messenger (session : Session) (number : Nat) : Messenger :=
  session.messengers.getD number {}

def labelled (session : Session) : Labels Messenger :=
  session.labels.map fun (label, number) => (label, session.messenger number)

/-- Whether bindings or modules use a messenger. -/
def isShared (session : Session) (number : Nat) : Bool :=
  session.bindings.any (fun entry => entry.2.messenger == number) ||
    session.modules.any fun entry => entry.2.messenger == number

/-- Whether a messenger has a label or is used, so that it stays. -/
def isKept (session : Session) (number : Nat) : Bool :=
  session.labels.any (fun entry => entry.2 == number) || session.isShared number

/-- Something done in a session. After a fault, what was done before it stays done. -/
abbrev Act := ExceptT Fault (StateM Session)

/-- Makes a messenger without a label and returns its number. -/
def makeMessenger : Act Nat := do
  let session ← get
  set { session with messengers := session.messengers ++ [({} : Messenger)] }
  return session.messengers.length

/-- The number of the messenger under a label. -/
def messengerAt (label : String) : Act Nat := do
  match (← get).labels.lookup label with
  | some number => return number
  | none => makeMessenger

/-- Does something in the store that all objects share. -/
def onStore {α : Type} (act : Store → α × Store) : Act α := do
  let session ← get
  let (result, store) := act session.store
  set { session with store }
  return result

/-- Does something on the bus of the messenger with a number. -/
def onBus {α : Type} (number : Nat) (act : Bus → α × Bus) : Act α := do
  let session ← get
  let (result, bus) := act { messenger := session.messenger number, store := session.store }
  set { session with
    store := bus.store, messengers := session.messengers.set number bus.messenger }
  return result

/-- Asks something of the bus of the messenger with a number. -/
def askBus {α : Type} (number : Nat) (question : Bus → α) : Act α :=
  onBus number fun bus => (question bus, bus)

/-- A detector by its label, or by `#` and its place in the setup. -/
def detectorAt? (label : String) : Act (Option Detector) := do
  let session ← get
  match label.toList with
  | '#' :: digits => return (Number.natural? digits).bind fun index => session.setup[index]?
  | _ => return session.detectors.lookup label

def identityAt (label : String) : Act Identity := do
  return ((← get).identities.lookup label).getD default

def slotAt (label : String) : Act Slot := do
  return ((← get).slots.lookup label).getD default

def handleAt (label : String) : Act Handle := do
  return ((← get).handles.lookup label).getD default

def bindingsAt (label : String) : Act (Attached Bindings) := do
  match (← get).bindings.lookup label with
  | some held => return held
  | none => return { messenger := ← makeMessenger, value := default }

def keepDetector (label : String) (detector : Detector) : Act Unit :=
  modify fun session => { session with detectors := session.detectors.put label detector }

def keepIdentity (label : String) (identity : Identity) : Act Unit :=
  modify fun session => { session with identities := session.identities.put label identity }

def keepSlot (label : String) (slot : Slot) : Act Unit :=
  modify fun session => { session with slots := session.slots.put label slot }

def keepEvent (label : String) (event : Event) : Act Unit :=
  modify fun session => { session with events := session.events.put label event }

/-- Keeps a handle under a further label. -/
def keepHandle (label : String) (handle : Handle) : Act Unit :=
  modify fun session => { session with handles := session.handles.put label handle }

/-- A new instance, numbered by the session. -/
def newIdentity (label : String) (make : (number : Nat) → Identity) : Act Identity := do
  let identity := make (← onStore Store.fresh)
  keepIdentity label identity
  return identity

def newSlot (label : String) (kind : SlotKind) (payload : PayloadType) : Act Unit := do
  keepSlot label (← onStore fun store => store.newSlot kind payload)

/-- The number of a tally, which a new label gets when it first comes up. -/
def tally (label : String) : Act Nat := do
  let session ← get
  match session.tallies.idxOf? label with
  | some number => return number
  | none =>
    set { session with tallies := session.tallies ++ [label] }
    return session.tallies.length

end Session

end Beamline
