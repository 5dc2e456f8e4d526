import Beamline.Run.Simulation

namespace Beamline.Cli

structure Report where
  summary : Run.Summary
  /-- Counts by payload name, in increasing order of the names. -/
  messages : List (String × Nat)
  deriving Inhabited

namespace Report

/-- The entries of the summary, in increasing order of their names, with the time that the run took
if it was measured. -/
def summaryEntries (report : Report) (duration : Option Nat) : List (String × Nat) :=
  let timed := match duration with
    | some milliseconds => [("duration_ms", milliseconds)]
    | none => []
  (report.summary.entries ++ timed).mergeSort fun first second => first.1 ≤ second.1

def entry (indent key value : String) : String :=
  indent ++ "\"" ++ key ++ "\": " ++ value

def block (entries : List (String × Nat)) : String :=
  if entries.isEmpty then "\x7b\x7d"
  else "\x7b\n" ++
    ",\n".intercalate (entries.map fun (key, value) => entry "    " key (toString value)) ++
    "\n  \x7d"

def render (report : Report) (duration : Option Nat) : String :=
  "\x7b\n" ++ entry "  " "messages_by_payload" (block report.messages) ++ ",\n" ++
    entry "  " "summary" (block (report.summaryEntries duration)) ++ "\n\x7d"

end Report

end Beamline.Cli
