import Beamline.Json.Value

namespace Beamline.Json.Writer

/-- A number as that many hexadecimal digits at least. -/
def hexadecimal (width value : Nat) : String :=
  let digits := Nat.toDigits 16 value
  String.ofList (List.replicate (width - digits.length) '0' ++ digits)

def escaped (c : Char) : String :=
  if c = '"' then "\\\"" else if c = '\\' then "\\\\"
  else if c.toNat < 0x20 then "\\u" ++ hexadecimal 4 c.toNat
  else c.toString

def quoted (text : String) : String :=
  "\"" ++ String.join (text.toList.map escaped) ++ "\""

mutual

def render (float : Float → String) : Json → String
  | .null => "null"
  | .bool true => "true"
  | .bool false => "false"
  | .int value => toString value
  | .float x => float x
  | .str text => quoted text
  | .arr items => "[" ++ ",".intercalate (renderItems float items) ++ "]"
  | .obj members => "\x7b" ++ ",".intercalate (renderMembers float members) ++ "\x7d"

def renderItems (float : Float → String) : List Json → List String
  | [] => []
  | item :: rest => render float item :: renderItems float rest

def renderMembers (float : Float → String) : List (String × Json) → List String
  | [] => []
  | (key, value) :: rest => (quoted key ++ ":" ++ render float value) :: renderMembers float rest

end

end Beamline.Json.Writer
