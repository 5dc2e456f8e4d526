import Beamline.Bus.Bindings
import Beamline.Bus.Exchange

/-!
Messengers and the bindings of modules on them. Modules register through their bindings; others use
the messengers directly, also with handles that a module shared with them.
-/

namespace Beamline.Bus

/-- What is done through bindings. -/
inductive Use
  | bindSlot (kind : SlotKind) (payload : PayloadType) (flags : Flags)
  | register (binding : Binding Filter) (flags : Flags)
  | dispatch (message : Message) (name : Option String)
  | hasReceiver (message : Message)
  | unmetRequirements
  | reset
  /-- Keeps one of the handles under a label, where others find it. -/
  | share (position : Nat) (label : String)
  | release
  | drop

namespace Use

/-- The bindings and the bus afterwards. Bindings that were dropped are as if they were made anew. -/
def perform (use : Use) (bindings : Bindings) (bus : Bus) : Bindings × Bus :=
  match use with
  | bindSlot kind payload flags => (bindings.bindSlot bus kind payload flags).2
  | register binding flags => (bindings.register bus binding flags).2
  | dispatch message name => (bindings, (bindings.dispatch bus message name).2)
  | reset => (bindings, bindings.reset bus)
  | release => (bindings.release bus).2
  | drop => ({ identity := bindings.identity }, (bindings.drop bus).2)
  | hasReceiver _ | unmetRequirements | share .. => (bindings, bus)

/-- The handles that are kept afterwards. -/
def keep (use : Use) (bindings : Bindings) (kept : Std.HashMap String Handle) :
    Std.HashMap String Handle :=
  match use with
  | share position label =>
    match bindings.handles[position]? with
    | some handle => kept.insert label handle
    | none => kept
  | _ => kept

def created (use : Use) (bindings : Bindings) (bus : Bus) : List Handle :=
  (use.perform bindings bus).1.handles.drop bindings.handles.length

end Use

/-- What is done with messengers. -/
inductive Deed
  /-- A request that is made to a messenger directly. -/
  | direct (request : Request)
  /-- Makes bindings of an instance on a messenger. -/
  | bind (messenger : Nat) (identity : Identity)
  /-- Uses the bindings that were made as the one with an index. -/
  | through (index : Nat) (use : Use)

/-- The delegate that a removal was asked for, if it succeeded. -/
def Answer.removal? : Answer → Option Handle
  | removed handle (.ok ()) => some handle
  | _ => none

/-- A delegate that was registered: on which messenger, and through which bindings if through any. -/
structure Registration where
  messenger : Nat
  through : Option Nat
  handle : Handle

/-- Messengers, and the bindings that were made on them, each with the number of its messenger. -/
structure Clients where
  exchange : Exchange := {}
  bindings : List (Nat × Bindings) := []

namespace Clients

def fresh : Clients := {}

def bus (clients : Clients) (number : Nat) : Bus :=
  clients.exchange.bus number

def use (clients : Clients) (index number : Nat) (bindings : Bindings) (use : Use) : Clients :=
  let (later, bus) := use.perform bindings (clients.bus number)
  { exchange := {
      messengers := fun other =>
        if other = number then bus.messenger else clients.exchange.messengers other
      store := bus.store
      kept := use.keep bindings clients.exchange.kept }
    bindings := clients.bindings.set index (number, later) }

def perform (clients : Clients) : Deed → Clients
  | .direct request => { clients with exchange := (clients.exchange.perform request).2 }
  | .bind messenger identity =>
    { clients with bindings := clients.bindings ++ [(messenger, { identity })] }
  | .through index use =>
    match clients.bindings[index]? with
    | some (number, bindings) => clients.use index number bindings use
    | none => clients

def registered (clients : Clients) : Deed → List Registration
  | .direct request =>
    (clients.exchange.perform request).1.handle?.toList.map fun handle =>
      { messenger := request.messenger, through := none, handle }
  | .bind .. => []
  | .through index use =>
    match clients.bindings[index]? with
    | some (number, bindings) => (use.created bindings (clients.bus number)).map fun handle =>
        { messenger := number, through := some index, handle }
    | none => []

/-- The delegates that a deed removes other than by releasing bindings, by their messengers and
numbers. -/
def removed (clients : Clients) : Deed → List (Nat × Nat)
  | .direct request =>
    (clients.exchange.perform request).1.removal?.toList.map fun handle =>
      (request.messenger, handle.id)
  | .bind .. | .through .. => []

/-- The clients after deeds, one after the other. -/
def after (clients : Clients) (deeds : List Deed) : Clients :=
  deeds.foldl perform clients

/-- Each deed, with the clients as it finds them. -/
def stages (clients : Clients) : List Deed → List (Clients × Deed)
  | [] => []
  | deed :: rest => (clients, deed) :: (clients.perform deed).stages rest

def registrations (clients : Clients) (deeds : List Deed) : List Registration :=
  (clients.stages deeds).flatMap fun stage => stage.1.registered stage.2

/-- The delegates that were removed other than by releasing bindings. -/
def removals (clients : Clients) (deeds : List Deed) : List (Nat × Nat) :=
  (clients.stages deeds).flatMap fun stage => stage.1.removed stage.2

end Clients

end Beamline.Bus
