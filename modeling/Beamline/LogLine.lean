namespace Beamline

structure LogLine where
  message : String
  fields : List (String × String) := []
  deriving DecidableEq, Repr, Inhabited

namespace LogLine

/-- The message followed by the named values. -/
def render (line : LogLine) : String :=
  " ".intercalate (line.message :: line.fields.map fun (name, value) => name ++ "=" ++ value)

end LogLine

end Beamline
