import Beamline.Json.Value
import Beamline.Number.Decimal

/-!
Reading JSON text. A number without point and exponent that fits 64 bits is an integer, every
other number is rounded to binary64 and must not be too large for it; of two members with the same
key the later one counts.
-/

namespace Beamline.Json.Reader

def isSpace (c : Char) : Bool :=
  c = ' ' || c = '\n' || c = '\r' || c = '\t'

def skipSpace (text : List Char) : List Char :=
  text.dropWhile isSpace

def hexDigit? (c : Char) : Option Nat :=
  if '0' ≤ c ∧ c ≤ '9' then some (c.toNat - '0'.toNat)
  else if 'a' ≤ c ∧ c ≤ 'f' then some (c.toNat - 'a'.toNat + 10)
  else if 'A' ≤ c ∧ c ≤ 'F' then some (c.toNat - 'A'.toNat + 10)
  else none

def unit? : List Char → Option (Nat × List Char)
  | a :: b :: c :: d :: rest => do
    let value := 4096 * (← hexDigit? a) + 256 * (← hexDigit? b) + 16 * (← hexDigit? c) +
      (← hexDigit? d)
    return (value, rest)
  | _ => none

/-- The character of an escaped code unit, of which a high surrogate needs its partner. -/
def escapedUnit? (text : List Char) : Option (Char × List Char) := do
  let (first, rest) ← unit? text
  if 0xD800 ≤ first ∧ first < 0xDC00 then
    match rest with
    | '\\' :: 'u' :: tail =>
      let (second, rest) ← unit? tail
      if 0xDC00 ≤ second ∧ second < 0xE000 then
        return (Char.ofNat (0x10000 + (first - 0xD800) * 0x400 + (second - 0xDC00)), rest)
      else none
    | _ => none
  else if 0xDC00 ≤ first ∧ first < 0xE000 then none
  else return (Char.ofNat first, rest)

/-- The character for the letter after a backslash. -/
def shortEscape? : Char → Option Char
  | '"' => some '"'
  | '\\' => some '\\'
  | '/' => some '/'
  | 'b' => some (Char.ofNat 8)
  | 'f' => some (Char.ofNat 12)
  | 'n' => some '\n'
  | 'r' => some '\r'
  | 't' => some '\t'
  | _ => none

/-- The rest of a string literal, after the opening quote. -/
def string? (fuel : Nat) (text read : List Char) : Option (String × List Char) :=
  match fuel, text with
  | _, '"' :: rest => some (String.ofList read.reverse, rest)
  | fuel + 1, '\\' :: 'u' :: rest => do
    let (c, rest) ← escapedUnit? rest
    string? fuel rest (c :: read)
  | fuel + 1, '\\' :: letter :: rest => do
    string? fuel rest ((← shortEscape? letter) :: read)
  | fuel + 1, c :: rest => if c.toNat < 0x20 ∨ c = '\\' then none else string? fuel rest (c :: read)
  | _, _ => none

/-- The characters that numbers are made of. -/
def isNumberPart (c : Char) : Bool :=
  c.isDigit || c = '+' || c = '-' || c = '.' || c = 'e' || c = 'E'

/-- JSON's numbers have no superfluous leading zero and digits on both sides of a point. -/
def isStrict (text : List Char) : Bool :=
  let unsigned := match text with
    | '-' :: rest => rest
    | rest => rest
  let fraction := unsigned.dropWhile Char.isDigit
  (match unsigned with
    | '0' :: next :: _ => !next.isDigit
    | first :: _ => first.isDigit
    | [] => false) &&
  (match fraction with
    | '.' :: next :: _ => next.isDigit
    | '.' :: [] => false
    | _ => true)

/-- A number literal that is read as a floating-point number, unless it is out of range. -/
def real? (text : List Char) : Option Json :=
  (Number.float? (String.ofList text)).bind fun value =>
    if value.isFinite then some (.float value) else none

def number? (text : List Char) : Option Json :=
  if !isStrict text then none
  else
    let isNegative := text.head? = some '-'
    let digits := if isNegative then text.drop 1 else text
    match Number.natural? digits with
    | some value =>
      if isNegative ∧ 0 < value ∧ value ≤ 0x8000000000000000 then some (.int (-value))
      else if !isNegative ∧ value < 0x10000000000000000 then some (.int value)
      else real? text
    | none => real? text

/-- Puts a member at the end of an object, dropping an earlier one with the same key. -/
def putMember (members : List (String × Json)) (key : String) (value : Json) :
    List (String × Json) :=
  members.filter (fun member => member.1 != key) ++ [(key, value)]

mutual

/-- A value at the start of the text and what follows it. -/
def value? (fuel : Nat) (text : List Char) : Option (Json × List Char) :=
  match fuel with
  | 0 => none
  | fuel + 1 =>
    match skipSpace text with
    | 'n' :: 'u' :: 'l' :: 'l' :: rest => some (.null, rest)
    | 't' :: 'r' :: 'u' :: 'e' :: rest => some (.bool true, rest)
    | 'f' :: 'a' :: 'l' :: 's' :: 'e' :: rest => some (.bool false, rest)
    | '"' :: rest => (string? rest.length rest []).map fun (value, rest) => (.str value, rest)
    | '[' :: rest =>
      match skipSpace rest with
      | ']' :: rest => some (.arr [], rest)
      | rest => items? fuel rest []
    | '\x7b' :: rest =>
      match skipSpace rest with
      | '\x7d' :: rest => some (.obj [], rest)
      | rest => members? fuel rest []
    | text => do
      let value ← number? (text.takeWhile isNumberPart)
      return (value, text.dropWhile isNumberPart)

/-- The rest of an array that has at least one more item. -/
def items? (fuel : Nat) (text : List Char) (read : List Json) : Option (Json × List Char) :=
  match fuel with
  | 0 => none
  | fuel + 1 => do
    let (item, rest) ← value? fuel text
    match skipSpace rest with
    | ']' :: rest => return (.arr (item :: read).reverse, rest)
    | ',' :: rest => items? fuel rest (item :: read)
    | _ => none

/-- The rest of an object that has at least one more member. -/
def members? (fuel : Nat) (text : List Char) (read : List (String × Json)) :
    Option (Json × List Char) :=
  match fuel with
  | 0 => none
  | fuel + 1 =>
    match skipSpace text with
    | '"' :: rest => do
      let (key, rest) ← string? rest.length rest []
      match skipSpace rest with
      | ':' :: rest =>
        let (value, rest) ← value? fuel rest
        match skipSpace rest with
        | '\x7d' :: rest => return (.obj (putMember read key value), rest)
        | ',' :: rest => members? fuel rest (putMember read key value)
        | _ => none
      | _ => none
    | _ => none

end

end Reader

/-- The value a text denotes, if the whole text is one. -/
def parse? (text : String) : Option Json := do
  let characters := text.toList
  let (value, rest) ← Reader.value? (characters.length + 1) characters
  if (Reader.skipSpace rest).isEmpty then some value else none

end Beamline.Json
