import Beamline.Bus.Messenger

/-!
Histories of a bus: what its users do with it, one operation after the other, and what they get to
see. Users keep the handles of their delegates under labels of their own choice.
-/

namespace Beamline.Bus

/-- What a user does with a bus. A label stands for the handle that was kept under it last. -/
inductive Operation
  | register (label : String) (receiver : Identity) (binding : Binding Filter) (flags : Flags)
  | remove (label : String)
  /-- Empties the storage of a delegate. -/
  | reset (label : String)
  /-- Asks whether a delegate is satisfied, and for the error if it is required and is not. -/
  | inspect (label : String)
  | dispatch (source : Identity) (message : Message) (name : String)
  | hasReceiver (source : Identity) (message : Message) (name : String)
  | read (slot : Slot)
  | drain (slot : Slot)
  | resetSlot (slot : Slot)
  | sentMessages (lane : LaneId)
  | clearSent (lane : LaneId)

/-- What a user gets to see of an operation. -/
inductive Answer
  | registered (result : Except BusError Handle)
  | removed (handle : Handle) (result : Except BusError Unit)
  | inspected (satisfied : Bool) (unmet : Option BusError)
  | dispatched (result : Except BusError Report)
  | reachable (hasReceiver : Bool)
  | messages (messages : List Message)
  | cleared (count : Nat)
  | done
  /-- No handle was kept under the label. -/
  | unknown

/-- A bus in use, with the handles that its users keep. -/
structure Usage where
  bus : Bus := {}
  kept : Std.HashMap String Handle := ∅

namespace Usage

/-- A messenger that was not used before, with whatever its users own already. -/
def fresh (store : Store) : Usage :=
  { bus := { store } }

/-- Does something with the handle under a label, if there is one. -/
def withHandle (usage : Usage) (label : String) (act : Handle → Answer × Bus) : Answer × Usage :=
  match usage.kept[label]? with
  | none => (.unknown, usage)
  | some handle =>
    let (answer, bus) := act handle
    (answer, { usage with bus })

def register (usage : Usage) (label : String) (receiver : Identity) (binding : Binding Filter)
    (flags : Flags) : Answer × Usage :=
  match usage.bus.register receiver binding flags with
  | (.error error, bus) => (.registered (.error error), { usage with bus })
  | (.ok handle, bus) =>
    (.registered (.ok handle), { bus, kept := usage.kept.insert label handle })

def step (usage : Usage) : Operation → Answer × Usage
  | .register label receiver binding flags => usage.register label receiver binding flags
  | .remove label => usage.withHandle label fun handle =>
    let (result, bus) := usage.bus.remove handle
    (.removed handle result, bus)
  | .reset label => usage.withHandle label fun handle => (.done, usage.bus.reset handle)
  | .inspect label => usage.withHandle label fun handle =>
    (.inspected (handle.isSatisfied usage.bus.store) (handle.unmetRequirement usage.bus.store),
      usage.bus)
  | .dispatch source message name =>
    let (result, bus) := usage.bus.dispatch source message name
    (.dispatched result, { usage with bus })
  | .hasReceiver source message name =>
    (.reachable (usage.bus.messenger.hasReceiver source message name), usage)
  | .read slot => (.messages (usage.bus.store.contents slot), usage)
  | .drain slot =>
    let (messages, store) := usage.bus.store.drain slot
    (.messages messages, { usage with bus := { usage.bus with store } })
  | .resetSlot slot =>
    (.done, { usage with bus := { usage.bus with store := usage.bus.store.resetSlot slot } })
  | .sentMessages lane => (.messages (usage.bus.messenger.sentMessages lane), usage)
  | .clearSent lane =>
    let (count, messenger) := usage.bus.messenger.clearSent lane
    (.cleared count, { usage with bus := { usage.bus with messenger } })

/-- Performs operations one after the other. -/
def run (usage : Usage) : List Operation → List Answer × Usage
  | [] => ([], usage)
  | operation :: rest =>
    let (answer, usage) := usage.step operation
    let (answers, usage) := usage.run rest
    (answer :: answers, usage)

def answers (usage : Usage) (operations : List Operation) : List Answer :=
  (usage.run operations).1

def after (usage : Usage) (operations : List Operation) : Usage :=
  (usage.run operations).2

end Usage

namespace Answer

/-- The delegate that a registration returned. -/
def handle? : Answer → Option Handle
  | registered (.ok handle) => some handle
  | _ => none

/-- Keeps a plain list of the registered delegates up to date: a new one goes to the end, and
one whose removal was asked for goes. -/
def follow (live : List Handle) : Answer → List Handle
  | registered (.ok handle) => live ++ [handle]
  | removed handle _ => live.filter fun other => other.id != handle.id
  | _ => live

end Answer

/-- The delegates that registrations returned, in order. -/
def issued (answers : List Answer) : List Handle :=
  answers.filterMap Answer.handle?

/-- The delegates that were returned and not removed since, in the order of registration. -/
def live (answers : List Answer) : List Handle :=
  answers.foldl Answer.follow []

end Beamline.Bus
