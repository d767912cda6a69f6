import ClusterKeeper.Data.Json.Token
/-!
What bare words stand for.

A word has a meaning only where a value of some type is wanted: the same word may be a text in one
place and an integer, a boolean or nothing in another.
-/

namespace ClusterKeeper.Yaml

/-- The words that stand for an absent value. -/
def isNullWord (word : String) : Bool :=
  word == "~" || word == "null" || word == "Null" || word == "NULL"

/-- The boolean that a word stands for. -/
def wordBool? (word : String) : Option Bool :=
  [("true", true), ("True", true), ("TRUE", true),
   ("false", false), ("False", false), ("FALSE", false)].lookup word

/-- The value of digits of a base from two to sixteen. -/
def digitsOfBase? (base : Nat) (digits : List Char) : Option Nat :=
  let digitOf (c : Char) : Option Nat := (Text.hexValue? c).filter (· < base)
  if digits.isEmpty then none
  else digits.foldlM (fun number c => (digitOf c).map (number * base + ·)) 0

/-- The value of digits: `0x`, `0o` and `0b` announce other bases, and several decimal digits do not
begin with a zero. -/
def wordNat? : List Char → Option Nat
  | '0' :: 'x' :: digits => digitsOfBase? 16 digits
  | '0' :: 'o' :: digits => digitsOfBase? 8 digits
  | '0' :: 'b' :: digits => digitsOfBase? 2 digits
  | '0' :: _ :: _ => none
  | digits => digitsOfBase? 10 digits

/-- The integer that a word spells, with at most one sign. An unsigned one has no minus. -/
def wordInt? (signed : Bool) (word : String) : Option Int :=
  match word.toList with
  | '-' :: digits => if signed then (wordNat? digits).map fun n => -(n : Int) else none
  | '+' :: digits => (wordNat? digits).map Int.ofNat
  | digits => (wordNat? digits).map Int.ofNat

/-- Whether an integer has more than 128 binary digits. Of those that have more than 64 only such
integers are taken as rounded numbers. -/
def isHuge (n : Int) : Bool :=
  decide (n < -Int.ofNat (Nat.pow 2 127) ∨ Int.ofNat (Nat.pow 2 128) ≤ n)

/-- Whether a word is a row of digits that begins with a needless zero, with at most one sign. -/
def isZeroLed (word : String) : Bool :=
  let digits := match word.toList with
    | '-' :: digits => digits
    | '+' :: digits => digits
    | digits => digits
  digits.head? == some '0' && digits.length != 1 && digits.all Char.isDigit

/-- The number that digits with a point among them and an exponent behind them spell, unless it is
too large. Digits may be missing on one side of the point. -/
def digitsDecimal? (negative : Bool) (text : List Char) : Option Value := do
  let (whole, rest) := Json.splitDigits text
  let (places, rest) := match rest with
    | '.' :: rest => Json.splitDigits rest
    | rest => ([], rest)
  if whole.isEmpty && places.isEmpty then none
  let exponent ← Json.exponent? rest
  let number := Json.decimalOf negative (whole ++ places) (exponent - places.length)
  if number.isFinite then some number else none

/-- The number that a word spells, which need not be whole, with at most one sign. What is not
finite is no value. -/
def wordDecimal? (word : String) : Option Value :=
  if [".inf", ".Inf", ".INF", "+.inf", "+.Inf", "+.INF", "-.inf", "-.Inf", "-.INF",
      ".nan", ".NaN", ".NAN"].contains word then some .null
  else match word.toList with
    | '-' :: digits => digitsDecimal? true digits
    | '+' :: digits => digitsDecimal? false digits
    | digits => digitsDecimal? false digits

end ClusterKeeper.Yaml
