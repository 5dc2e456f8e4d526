import Beamline.Demo.Counters

namespace Beamline.Demo.Reader

open Bus Run

def countCharge (deposit : Deposit) : DemoCode Unit := do
  let received ← addCharge (← get).received deposit
  modify fun counters => { counters with received }

def count (message : Message) : DemoCode Unit := do
  message.payload.deposits?.forM countCharge
  modify fun counters => { counters with
    depositsRead := counters.depositsRead + message.payload.deposits?.length }

def run (deposits : Slot) : DemoCode Unit := do
  let messages : List Message ← Code.ask (.read deposits)
  messages.forM count

def behaviour (deposits : Slot) : Behaviour Counters where
  run _ := run deposits
  finish := do
    let counters ← get
    logFinished "Deposit reading finished"
      [("deposits", toString counters.depositsRead), ("charge", toString counters.chargeRead)]

def blueprint : Blueprint Counters where
  name := "DepositReader"
  construct _ _ := do
    let deposits ← Code.bindSlot .multi .deposit {}
    let _ ← Code.bindSlot .multi .particle {}
    return (behaviour deposits, {})

end Beamline.Demo.Reader
