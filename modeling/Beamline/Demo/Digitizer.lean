import Beamline.Demo.Counters

namespace Beamline.Demo.Digitizer

open Bus Run

/-- Period of the readout clock, in ns. -/
def clockPeriod : Float := 25

/-- The charges that are not below the threshold. -/
def aboveThreshold (pipeline : Pipeline) (charges : List PixelCharge) : List PixelCharge :=
  charges.filter fun record => !(record.charge < pipeline.threshold)

/-- The hit of a pixel, at a random time. -/
def digitize (pipeline : Pipeline) (record : PixelCharge) : DemoCode PixelHit := do
  let time ← Code.number 0 clockPeriod false
  return { pixel := record.pixel, time
           signal := Number.roundWord (record.charge / pipeline.gain) }

/-- Digitizes the charges of the event; without a message there is nothing to send. -/
def run (detector : Detector) (pipeline : Pipeline) (charges : Slot) : DemoCode Unit := do
  let messages : List Message ← Code.ask (.read charges)
  match messages with
  | [] => return ()
  | message :: _ =>
    let records := message.payload.pixelCharges?
    let hits ← (aboveThreshold pipeline records).mapM (digitize pipeline)
    modify fun counters => { counters with
      hits := counters.hits + hits.length
      belowThreshold := counters.belowThreshold + (records.length - hits.length) }
    let _ ← Code.dispatch { payload := .pixelHits hits, detector := some detector }

def behaviour (detector : Detector) (pipeline : Pipeline) (charges : Slot) :
    Behaviour Counters where
  run _ := run detector pipeline charges
  finish := do
    let counters ← get
    logFinished "Digitization finished"
      [("hits", toString counters.hits), ("below_threshold", toString counters.belowThreshold)]

/-- The behaviour for a detector; without one there is nothing to do. -/
def blueprint : Blueprint Counters where
  name := "PixelDigitizer"
  perDetector := true
  construct surroundings detector := do
    let charges ← Code.bindSlot .single .pixelCharge { required := true }
    match detector with
    | some detector => return (behaviour detector surroundings.pipeline charges, {})
    | none => return ({ run := fun _ => return () }, {})

end Beamline.Demo.Digitizer
