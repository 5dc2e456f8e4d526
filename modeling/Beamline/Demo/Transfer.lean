import Beamline.Demo.Counters

/-!
Projects the charge deposited in one detector onto its pixels. In each event it sends exactly one
message of pixel charges, which is empty if nothing was deposited.
-/

namespace Beamline.Demo.Transfer

open Bus Run

abbrev Charges := Std.TreeMap PixelIndex Float

namespace Charges

def add (charges : Charges) (pixel : PixelIndex) (deposit : Deposit) : Charges :=
  charges.insert pixel (charges.getD pixel 0 + deposit.charge.toFloat)

/-- The pixels that collected charge, in their order. -/
def records (charges : Charges) : List PixelCharge :=
  charges.toList.map fun (pixel, charge) => { pixel, charge }

end Charges

/-- Adds a deposit to the charge of its pixel, or else to the charge that is lost. -/
def collect (detector : Detector) (charges : Charges) (deposit : Deposit) : DemoCode Charges := do
  match ← Code.orFault (detector.pixelAt deposit.localPosition) with
  | some pixel => return charges.add pixel deposit
  | none =>
    let lost ← addCharge (← get).lost deposit
    modify fun counters => { counters with lost }
    return charges

def run (detector : Detector) (deposits : Slot) : DemoCode Unit := do
  let messages : List Message ← Code.ask (.read deposits)
  let charges : Charges ← (depositsOf messages).foldlM (collect detector) ∅
  let _ ← Code.dispatch { payload := .pixelCharges charges.records, detector := some detector }

def behaviour (detector : Detector) (deposits : Slot) : Behaviour Counters where
  run _ := run detector deposits

/-- The behaviour for a detector; without one there is nothing to do. -/
def blueprint : Blueprint Counters where
  name := "ChargeTransfer"
  perDetector := true
  construct _ detector := do
    let deposits ← Code.bindSlot .multi .deposit {}
    match detector with
    | some detector => return (behaviour detector deposits, {})
    | none => return ({ run := fun _ => return () }, {})

end Beamline.Demo.Transfer
