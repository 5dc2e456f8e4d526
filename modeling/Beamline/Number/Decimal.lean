import Beamline.Number.Natural

/-!
Reading decimal numbers into binary64, correctly rounded. The grammar is an optional sign, then
`inf`, `infinity` or `nan` in any case, or digits with an optional point (at least one digit on
one side) and an optional exponent.
-/

namespace Beamline.Number

/-- The binary64 number nearest to `mantissa * 10 ^ exponent`. Far outside the range the answer is
known without forming the power. -/
def ofDecimal (mantissa : Nat) (exponent : Int) : Float :=
  let magnitude := exponent + (toString mantissa).length
  if mantissa = 0 || magnitude < -400 then 0
  else if magnitude > 400 then 1 / 0
  else Float.ofScientific mantissa (exponent < 0) exponent.natAbs

/-- The exponent part of a number, where the empty text means 0. -/
def exponent? : List Char → Option Int
  | [] => some 0
  | mark :: rest =>
    if mark = 'e' || mark = 'E' then
      match rest with
      | '-' :: digits => (natural? digits).map fun value => -(value : Int)
      | '+' :: digits => (natural? digits).map fun value => (value : Int)
      | digits => (natural? digits).map fun value => (value : Int)
    else none

/-- A number without sign in positional or scientific form. -/
def unsigned? (text : List Char) : Option Float := do
  let whole := text.takeWhile Char.isDigit
  let (fraction, rest) := match text.dropWhile Char.isDigit with
    | '.' :: tail => (tail.takeWhile Char.isDigit, tail.dropWhile Char.isDigit)
    | other => ([], other)
  let mantissa ← natural? (whole ++ fraction)
  let exponent ← exponent? rest
  return ofDecimal mantissa (exponent - fraction.length)

/-- A number without sign, or the name of a special one. -/
def magnitude? (text : List Char) : Option Float :=
  let lower := String.ofList (text.map Char.toLower)
  if lower = "inf" || lower = "infinity" then some (1 / 0)
  else if lower = "nan" then some (0 / 0)
  else unsigned? text

/-- The number a text denotes, if it follows the grammar. -/
def float? (text : String) : Option Float :=
  match text.toList with
  | '-' :: rest => (magnitude? rest).map fun x => -x
  | '+' :: rest => magnitude? rest
  | rest => magnitude? rest

end Beamline.Number
