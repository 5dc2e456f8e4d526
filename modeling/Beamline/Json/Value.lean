namespace Beamline

inductive Json
  | null
  | bool (value : Bool)
  | int (value : Int)
  | float (value : Float)
  | str (value : String)
  | arr (items : List Json)
  | obj (members : List (String × Json))
  deriving Inhabited

namespace Json

/-- The written form of a floating-point number: JSON has no infinities and no not-a-number. -/
def ofFloat (x : Float) : Json :=
  if x.isFinite then .float x else .null

def ofNat (value : Nat) : Json := .int value

/-- The written form of an optional value. -/
def ofOption {α : Type} (encode : α → Json) : Option α → Json
  | none => .null
  | some value => encode value

def member? (key : String) : Json → Option Json
  | .obj members => members.lookup key
  | _ => none

/-- The fields of a record under their names: an object may hold them in any order, among other
members; an array holds exactly all of them, in this order. -/
def fields? (names : List String) : Json → Option (List (Option Json))
  | .obj members => some (names.map fun name => members.lookup name)
  | .arr items => if items.length = names.length then some (items.map some) else none
  | _ => none

/-- Every number is a floating-point number. -/
def float? : Json → Option Float
  | .int value => some (Float.ofInt value)
  | .float value => some value
  | _ => none

/-- An integer in the given range; a number written with a point or an exponent is not one. -/
def integer? (least greatest : Int) : Json → Option Int
  | .int value => if least ≤ value ∧ value ≤ greatest then some value else none
  | _ => none

def text? : Json → Option String
  | .str value => some value
  | _ => none

def items? : Json → Option (List Json)
  | .arr items => some items
  | _ => none

def word16? (json : Json) : Option UInt16 :=
  (json.integer? 0 0xFFFF).map fun value => UInt16.ofNat value.toNat

def word32? (json : Json) : Option UInt32 :=
  (json.integer? 0 0xFFFFFFFF).map fun value => UInt32.ofNat value.toNat

def word64? (json : Json) : Option UInt64 :=
  (json.integer? 0 0xFFFFFFFFFFFFFFFF).map fun value => UInt64.ofNat value.toNat

def int32? (json : Json) : Option Int32 :=
  (json.integer? (-0x80000000) 0x7FFFFFFF).map Int32.ofInt

def required {α : Type} (decode : Json → Option α) (field : Option Json) : Option α :=
  field.bind decode

def optional {α : Type} (decode : Json → Option α) : Option Json → Option (Option α)
  | none | some .null => some none
  | some json => (decode json).map some

end Json

end Beamline
