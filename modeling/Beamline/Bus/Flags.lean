namespace Beamline.Bus

/-- The variants of delegates. -/
inductive DelegateKind
  /-- Keeps one message in a slot of the receiver. -/
  | single
  /-- Adds every message to a slot of the receiver. -/
  | multi
  /-- Asks the receiver about every message of one type. -/
  | filter
  /-- Asks the receiver about every message. -/
  | anyFilter
  deriving DecidableEq, Repr, Inhabited

namespace DelegateKind

def name : DelegateKind → String
  | single => "single"
  | multi => "multi"
  | filter => "filter"
  | anyFilter => "any-filter"

def all : List DelegateKind := [single, multi, filter, anyFilter]

end DelegateKind

structure Flags where
  /-- The binding must receive a message in every unit of work. -/
  required : Bool := false
  /-- A filled single slot may be filled again; the newer message replaces the older one. -/
  allowOverwrite : Bool := false
  /-- Messages match whatever name they are dispatched under. -/
  ignoreName : Bool := false
  /-- Only messages dispatched under the empty name match, whatever the receiver's input. -/
  unnamedOnly : Bool := false
  deriving DecidableEq, Repr, Inhabited

namespace Flags

/-- The options set in a byte; its upper half is ignored. -/
def ofBits (bits : UInt8) : Flags where
  required := bits &&& 1 != 0
  allowOverwrite := bits &&& 2 != 0
  ignoreName := bits &&& 4 != 0
  unnamedOnly := bits &&& 8 != 0

/-- Whether every bit of a byte stands for an option. -/
def isKnown (bits : UInt8) : Bool :=
  bits &&& 0xF0 == 0

def toBits (flags : Flags) : UInt8 :=
  (if flags.required then 1 else 0) + (if flags.allowOverwrite then 2 else 0) +
    (if flags.ignoreName then 4 else 0) + (if flags.unnamedOnly then 8 else 0)

/-- The names of the options that are set, in the order of their bits. -/
def names (flags : Flags) : List String :=
  (if flags.required then ["REQUIRED"] else []) ++
    (if flags.allowOverwrite then ["ALLOW_OVERWRITE"] else []) ++
    (if flags.ignoreName then ["IGNORE_NAME"] else []) ++
    (if flags.unnamedOnly then ["UNNAMED_ONLY"] else [])

def display (flags : Flags) : String :=
  if flags.names.isEmpty then "MsgFlags(0x0)"
  else "MsgFlags(" ++ " | ".intercalate flags.names ++ ")"

def ofName? (name : String) : Option Flags :=
  if name = "REQUIRED" then some { required := true }
  else if name = "ALLOW_OVERWRITE" then some { allowOverwrite := true }
  else if name = "IGNORE_NAME" then some { ignoreName := true }
  else if name = "UNNAMED_ONLY" then some { unnamedOnly := true }
  else none

def union (first second : Flags) : Flags where
  required := first.required || second.required
  allowOverwrite := first.allowOverwrite || second.allowOverwrite
  ignoreName := first.ignoreName || second.ignoreName
  unnamedOnly := first.unnamedOnly || second.unnamedOnly

end Flags

end Beamline.Bus
