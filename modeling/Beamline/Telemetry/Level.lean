import Beamline.Number.Natural
import Beamline.Telemetry.Config
import Beamline.Telemetry.Error

namespace Beamline.Telemetry

inductive Level
  | off
  | error
  | warn
  | info
  | debug
  | trace
  deriving DecidableEq, Repr, Inhabited

namespace Level

/-- The levels from the least talkative on. -/
def all : List Level := [off, error, warn, info, debug, trace]

def name : Level → String
  | off => "off"
  | error => "error"
  | warn => "warn"
  | info => "info"
  | debug => "debug"
  | trace => "trace"

def rank : Level → Nat
  | off => 0
  | error => 1
  | warn => 2
  | info => 3
  | debug => 4
  | trace => 5

/-- Whether a filter at one level admits lines of another. -/
def admits (filter line : Level) : Bool :=
  line.rank ≤ filter.rank

/-- A level by its name in any case or by its place. -/
def ofText? (text : String) : Option Level :=
  match Number.natural? text.toList with
  | some rank => all.find? fun level => level.rank == rank
  | none => all.find? fun level => level.name == Config.lower text

end Level

/-- The log lines that are admitted: those of one target, or of all. -/
structure LogFilter where
  target : Option String := none
  level : Level
  deriving DecidableEq, Repr, Inhabited

namespace LogFilter

/-- What is wrong with a filter whose level is none. -/
def levelFault : String :=
  "error parsing level filter: expected one of \"off\", \"error\", \"warn\", \"info\", " ++
    "\"debug\", \"trace\", or a number 0-5"

def read (text : String) : Except TelemetryError LogFilter :=
  match Level.ofText? text with
  | some level => .ok { level }
  | none =>
    let target := text.toList.takeWhile (· != '=')
    match text.toList.drop target.length with
    | [] =>
      if target.isEmpty then .ok { level := .error }
      else .ok { target := some text, level := .trace }
    | _ :: level =>
      match Level.ofText? (String.ofList level) with
      | some level => .ok { target := some (String.ofList target), level }
      | none => .error (.config ("invalid log filter '" ++ text ++ "': " ++ levelFault))

/-- Whether lines of a level are admitted from a target, given by its path. -/
def admits (filter : LogFilter) (path : String) (line : Level) : Bool :=
  filter.level.admits line && match filter.target with
    | none => true
    | some target => target.toList.isPrefixOf path.toList

end LogFilter

end Beamline.Telemetry
