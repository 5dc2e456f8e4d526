import Beamline.Run.Module

/-!
What the demonstration modules keep from event to event: counters only, and each module uses its
own. Sums of charge are words and can overflow. The others grow by one for each record that is
handled, so no run brings them to the end of the words.
-/

namespace Beamline.Demo

structure Counters where
  /-- Deposits that a generator dispatched. -/
  depositsSent : Nat := 0
  /-- Charge that a transfer found outside the pixel matrix. -/
  lost : UInt64 := 0
  /-- Pixels that a digitizer read out. -/
  hits : Nat := 0
  /-- Pixels that a digitizer did not read out. -/
  belowThreshold : Nat := 0
  /-- Deposits that a reader received. -/
  depositsRead : Nat := 0
  /-- Charge of the deposits that a reader received. -/
  received : UInt64 := 0
  deriving DecidableEq, Repr, Inhabited

namespace Counters

def lostCharge (counters : Counters) : Nat :=
  counters.lost.toNat

def chargeRead (counters : Counters) : Nat :=
  counters.received.toNat

end Counters

abbrev DemoCode (α : Type) := Run.Code Counters α

/-- A sum of charge with that of one more deposit. -/
def addCharge (sum : UInt64) (deposit : Deposit) : DemoCode UInt64 :=
  Run.Code.orFault (Number.sum sum deposit.charge.toUInt64)

def depositsOf (messages : List Bus.Message) : List Deposit :=
  messages.flatMap fun message => message.payload.deposits?

/-- Logs that a module is finished, with values of its own. -/
def logFinished (message : String) (values : List (String × String)) : DemoCode Unit := do
  let identity : Bus.Identity ← Run.Code.ask .identity
  let _ ← Run.Code.ask (.log { message, fields := ("module", identity.display) :: values })

end Beamline.Demo
