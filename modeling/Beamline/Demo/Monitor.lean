import Beamline.Demo.Counters

namespace Beamline.Demo.Monitor

open Bus Run

/-- Accepts everything and counts in a tally. -/
def watcher (tally : Nat) : Filter where
  accepts _ _ _ := true
  tally := some tally

def countsText (counts : List (String × Nat)) : String :=
  "\x7b" ++ ", ".intercalate (counts.map fun (name, count) =>
    Text.quoted name ++ ": " ++ toString count) ++ "\x7d"

def behaviour (tally : Nat) : Behaviour Counters where
  run _ := return ()
  finish := do
    let counts : List (String × Nat) ← Code.ask (.counts tally)
    logFinished "Monitoring finished" [("counts", countsText counts)]

def blueprint (tally : Nat) : Blueprint Counters where
  name := "MessageMonitor"
  construct _ _ := do
    let _ ← Code.register (.anyFilter (watcher tally)) { ignoreName := true }
    return (behaviour tally, {})

end Beamline.Demo.Monitor
