import Beamline.Bus.History

/-!
Messengers side by side. Their users share what they own and keep the handles of all of them under
the same labels, so a messenger may be given a handle that another one returned.
-/

namespace Beamline.Bus

/-- An operation, and the number of the messenger that is to perform it. -/
structure Request where
  messenger : Nat
  operation : Operation

structure Exchange where
  messengers : Nat → Messenger := fun _ => {}
  store : Store := {}
  kept : Std.HashMap String Handle := ∅

namespace Exchange

/-- Messengers that were not used before, and users who own nothing yet. -/
def fresh : Exchange := {}

/-- One messenger, and what the users share. -/
def bus (exchange : Exchange) (number : Nat) : Bus where
  messenger := exchange.messengers number
  store := exchange.store

def usage (exchange : Exchange) (number : Nat) : Usage where
  bus := exchange.bus number
  kept := exchange.kept

def perform (exchange : Exchange) (request : Request) : Answer × Exchange :=
  let (answer, usage) := (exchange.usage request.messenger).step request.operation
  (answer, {
    messengers := fun number =>
      if number = request.messenger then usage.bus.messenger else exchange.messengers number
    store := usage.bus.store
    kept := usage.kept })

/-- The exchange after requests, one after the other. -/
def after (exchange : Exchange) (requests : List Request) : Exchange :=
  requests.foldl (fun exchange request => (exchange.perform request).2) exchange

/-- Each request, with the exchange that it is made to. -/
def stages (exchange : Exchange) : List Request → List (Exchange × Request)
  | [] => []
  | request :: rest => (exchange, request) :: (exchange.perform request).2.stages rest

/-- What is seen of the requests to one messenger. -/
def answers (exchange : Exchange) (requests : List Request) (number : Nat) : List Answer :=
  ((exchange.stages requests).filter fun stage => stage.2.messenger == number).map fun stage =>
    (stage.1.perform stage.2).1

/-- The delegates that registrations returned, each with the number of its messenger. -/
def registrations (exchange : Exchange) (requests : List Request) : List (Nat × Handle) :=
  (exchange.stages requests).filterMap fun stage =>
    (stage.1.perform stage.2).1.handle?.map fun handle => (stage.2.messenger, handle)

end Exchange

end Beamline.Bus
