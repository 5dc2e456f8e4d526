import Beamline.Demo.Digitizer
import Beamline.Demo.Generator
import Beamline.Demo.Monitor
import Beamline.Demo.Reader
import Beamline.Demo.Transfer

/-!
The demonstration chain: deposits are generated, transferred to the pixels of each detector and
digitized, while a reader counts the deposits and a monitor observes every message.
-/

namespace Beamline.Demo

/-- The modules of the chain in order; the monitors count in a tally. -/
def chain (tally : Nat) : List (Run.Blueprint Counters) :=
  [Generator.blueprint, Transfer.blueprint, Digitizer.blueprint, Reader.blueprint,
    Monitor.blueprint tally]

def blueprint? (tally : Nat) (name : String) : Option (Run.Blueprint Counters) :=
  (chain tally).find? fun blueprint => blueprint.name == name

/-- The tally that the chain counts in by itself. -/
def mainTally : Nat := 0

end Beamline.Demo
