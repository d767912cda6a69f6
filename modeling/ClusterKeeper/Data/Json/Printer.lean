import ClusterKeeper.Data.Value
import ClusterKeeper.Text.Hex
/-!
Writing JSON texts: no space between tokens, members in their order, and characters beyond ASCII as
they are.
-/

namespace ClusterKeeper.Json

/-- The written form of one character of a string. -/
def escapeChar (c : Char) : List Char :=
  if c = '"' then ['\\', '"']
  else if c = '\\' then ['\\', '\\']
  else if c = '\n' then ['\\', 'n']
  else if c = '\r' then ['\\', 'r']
  else if c = '\t' then ['\\', 't']
  else if c = '\x08' then ['\\', 'b']
  else if c = '\x0c' then ['\\', 'f']
  else if c.toNat < 0x20 then
    ['\\', 'u', '0', '0', Text.hexDigit (c.toNat / 16), Text.hexDigit (c.toNat % 16)]
  else [c]

/-- A string between quotes. -/
def escape (s : String) : String :=
  String.ofList (['"'] ++ s.toList.flatMap escapeChar ++ ['"'])

/-- A number that is not an integer is written with a point, one place at least. -/
def decimalText (mantissa exponent : Int) : String :=
  let sign := if mantissa < 0 then "-" else ""
  if 0 ≤ exponent then
    sign ++ toString (mantissa.natAbs * Nat.pow 10 exponent.toNat) ++ ".0"
  else
    let places := (-exponent).toNat
    let digits := (toString mantissa.natAbs).toList
    let padded := List.replicate (places + 1 - digits.length) '0' ++ digits
    let whole := padded.take (padded.length - places)
    sign ++ String.ofList whole ++ "." ++ String.ofList (padded.drop (padded.length - places))

/-- Joins texts with commas. -/
def joinCommas : List String → String
  | [] => ""
  | [s] => s
  | s :: rest => s ++ "," ++ joinCommas rest

mutual

/-- The JSON text of a value. -/
def write : Value → String
  | .null => "null"
  | .illegible => "null"
  | .bool b => if b then "true" else "false"
  | .int n => toString n
  | .decimal mantissa exponent => decimalText mantissa exponent
  | .text s => escape s
  | .list items => "[" ++ joinCommas (writeItems items) ++ "]"
  | .object members => "\x7b" ++ joinCommas (writeMembers members) ++ "\x7d"

/-- The texts of items. -/
def writeItems : List Value → List String
  | [] => []
  | v :: rest => write v :: writeItems rest

/-- The texts of members. -/
def writeMembers : List (String × Value) → List String
  | [] => []
  | (name, v) :: rest => (escape name ++ ":" ++ write v) :: writeMembers rest

end

end ClusterKeeper.Json
