import Beamline.Bus.Registry
import Beamline.Fault

/-!
The messenger: it registers delegates, routes messages to them and keeps, for each lane, a log of
the messages dispatched. Together with the store of the receivers it makes up a bus, and every
operation is a function from a bus to its answer and the bus afterwards.
-/

namespace Beamline

namespace Bus

/-- What happened on a messenger so far. -/
structure Stats where
  /-- Dispatches that completed. -/
  dispatched : Nat := 0
  /-- Deliveries that delegates accepted in completed dispatches. -/
  deliveries : Nat := 0
  /-- Dispatches that a delegate's error ended. -/
  failed : Nat := 0
  /-- Completed dispatches that no delegate accepted. -/
  unreceived : Nat := 0
  registered : Nat := 0
  removed : Nat := 0
  deriving DecidableEq, Repr, Inhabited

namespace Stats

/-- The delegates that were registered and not removed. -/
def active (stats : Stats) : Nat :=
  stats.registered - stats.removed

def entries (stats : Stats) : List (String × Nat) :=
  [("dispatched", stats.dispatched), ("deliveries", stats.deliveries), ("failed", stats.failed),
    ("unreceived", stats.unreceived), ("registered", stats.registered),
    ("removed", stats.removed), ("active", stats.active)]

end Stats

/-- The outcome of a dispatch. -/
structure Report where
  /-- The delegates that were handed the message. -/
  invoked : Nat
  /-- The delegates that accepted it. -/
  accepted : Nat
  deriving DecidableEq, Repr, Inhabited

namespace Report

def wasReceived (report : Report) : Bool :=
  0 < report.accepted

end Report

structure Messenger where
  registry : Registry := {}
  /-- The number of the next delegate. -/
  nextId : Nat := 0
  stats : Stats := {}
  /-- The messages of completed dispatches by lane, in order. -/
  sent : Std.HashMap LaneId (List Message) := ∅
  deriving Inhabited

namespace Messenger

def delegateCount (messenger : Messenger) : Nat :=
  messenger.registry.index.size

def isEmpty (messenger : Messenger) : Bool :=
  messenger.delegateCount == 0

def candidates (messenger : Messenger) (source : Identity) (message : Message) (name : String) :
    List Handle :=
  messenger.registry.candidates source message name

/-- Whether dispatching a message under a name would reach a delegate. -/
def hasReceiver (messenger : Messenger) (source : Identity) (message : Message) (name : String) :
    Bool :=
  !(messenger.candidates source message name).isEmpty

def delegatesOf (messenger : Messenger) (receiver : Identity) : List Handle :=
  messenger.registry.delegatesOf receiver

/-- The messages dispatched in a lane since its log was last cleared. -/
def sentMessages (messenger : Messenger) (lane : LaneId) : List Message :=
  messenger.sent.getD lane []

/-- Forgets the messages dispatched in a lane and returns how many there were. -/
def clearSent (messenger : Messenger) (lane : LaneId) : Nat × Messenger :=
  ((messenger.sentMessages lane).length, { messenger with sent := messenger.sent.erase lane })

def verify (messenger : Messenger) : Except BusError Unit :=
  match messenger.registry.inconsistency with
  | some fault => .error (.consistency fault)
  | none => .ok ()

def remove (messenger : Messenger) (handle : Handle) : Except BusError Unit × Messenger :=
  match messenger.registry.erase handle with
  | (some fault, registry) => (.error (.consistency fault), { messenger with registry })
  | (none, registry) =>
    (.ok (), { messenger with
      registry
      stats := { messenger.stats with removed := messenger.stats.removed + 1 } })

/-- What dropping the messenger leads to: a fault if delegates are registered. It names them bucket by
bucket, an order that says nothing. -/
def dropFault (messenger : Messenger) : Option Fault :=
  if messenger.isEmpty then none
  else some (.droppedRegistered (messenger.registry.handles.map Handle.uniqueName))

def display (messenger : Messenger) : String :=
  "Messenger \x7b delegates: " ++ toString messenger.delegateCount ++ " \x7d"

end Messenger

/-- Why a binding cannot be made: its options do not suit its kind, or its slot is taken. -/
def Messenger.refusal (messenger : Messenger) (binding : Binding Filter) (flags : Flags) :
    Option Refusal :=
  match flags.incompatibility binding.kind with
  | some reason => some reason
  | none =>
    match binding.slot? with
    | some slot => if messenger.registry.fills slot then some .alreadyBound else none
    | none => none

end Bus

/-- A messenger and what its receivers own. -/
structure Bus where
  messenger : Bus.Messenger := {}
  store : Bus.Store := {}
  deriving Inhabited

namespace Bus

/-- Gives a filter its place in the store. -/
def install (store : Store) : Binding Filter → Binding Installed × Store
  | .slot slot => (.slot slot, store)
  | .filter payload filter =>
    let (number, store) := store.newFilter filter
    (.filter payload { number, filter }, store)
  | .anyFilter filter =>
    let (number, store) := store.newFilter filter
    (.anyFilter { number, filter }, store)

/-- Registers a binding of a receiver. A refused binding changes nothing. -/
def register (bus : Bus) (receiver : Identity) (binding : Binding Filter) (flags : Flags) :
    Except BusError Handle × Bus :=
  match bus.messenger.refusal binding flags with
  | some reason =>
    (.error (.invalidBinding (bindingName receiver binding) binding.payloadName
      (NameKey.ofReceiver receiver flags).display reason), bus)
  | none =>
    let (binding, store) := install bus.store binding
    let handle : Handle := { id := bus.messenger.nextId, delegate := { receiver, flags, binding } }
    (.ok handle, {
      messenger := { bus.messenger with
        registry := bus.messenger.registry.insert handle
        nextId := bus.messenger.nextId + 1
        stats := { bus.messenger.stats with registered := bus.messenger.stats.registered + 1 } }
      store })

/-- Removes a delegate from the messenger; its storage stays as it is. -/
def remove (bus : Bus) (handle : Handle) : Except BusError Unit × Bus :=
  let (result, messenger) := bus.messenger.remove handle
  (result, { bus with messenger })

/-- Delivers a message to delegates one after the other and counts who accepts it. The first error
ends the delivery; what earlier delegates stored stays. -/
def deliver (store : Store) (message : Message) (name : String) :
    List Handle → Except BusError Nat × Store
  | [] => (.ok 0, store)
  | handle :: rest =>
    match handle.process store message name with
    | (.error error, store) => (.error error, store)
    | (.ok accepted, store) =>
      match deliver store message name rest with
      | (.error error, store) => (.error error, store)
      | (.ok count, store) => (.ok (if accepted then count + 1 else count), store)

/-- Dispatches a message under a name to every candidate. Only a completed dispatch is logged. -/
def dispatch (bus : Bus) (source : Identity) (message : Message) (name : String) :
    Except BusError Report × Bus :=
  let candidates := bus.messenger.candidates source message name
  let stats := bus.messenger.stats
  match deliver bus.store message name candidates with
  | (.error error, store) =>
    (.error error, {
      messenger := { bus.messenger with stats := { stats with failed := stats.failed + 1 } }
      store })
  | (.ok accepted, store) =>
    (.ok { invoked := candidates.length, accepted }, {
      messenger := { bus.messenger with
        stats := { stats with
          dispatched := stats.dispatched + 1
          deliveries := stats.deliveries + accepted
          unreceived := if accepted = 0 then stats.unreceived + 1 else stats.unreceived }
        sent := bus.messenger.sent.insert source.lane
          (bus.messenger.sentMessages source.lane ++ [message]) }
      store })

def reset (bus : Bus) (handle : Handle) : Bus :=
  { bus with store := handle.delegate.reset bus.store }

end Bus

end Beamline
