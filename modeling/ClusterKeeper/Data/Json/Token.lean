import ClusterKeeper.Data.Value
import ClusterKeeper.Text.Hex
/-!
Tokens of JSON texts.

The lexer takes one character at a time and keeps what it has of the current token in a `Mode`; it
is a fold over the text. A string with half a surrogate pair is a token all the same: it stands for
no text, which matters only where one is wanted.
-/

namespace ClusterKeeper.Json

/-- A token of a JSON text. -/
inductive Token where
  | openList
  | closeList
  | openObject
  | closeObject
  | comma
  | colon
  /-- A string; none if it stands for no text. -/
  | text (s : Option String)
  /-- A number or one of the words `true`, `false` and `null`. -/
  | scalar (v : Value)
  deriving Inhabited

/-- What has been read of a string so far. -/
structure Partial where
  /-- The characters so far, last first. -/
  chars : List Char
  /-- The first half of a surrogate pair, waiting for the second. -/
  high : Option Nat
  /-- Whether a half stood alone. -/
  broken : Bool

namespace Partial

/-- Nothing has been read yet. -/
def start : Partial := ⟨[], none, false⟩

/-- Adds a character; a half that waits is then alone. -/
def push (p : Partial) (c : Char) : Partial :=
  { chars := c :: p.chars, high := none, broken := p.broken || p.high.isSome }

/-- Adds a 16-bit unit written in hexadecimal. -/
def pushUnit (p : Partial) (unit : Nat) : Partial :=
  if 0xD800 ≤ unit ∧ unit < 0xDC00 then
    { p with high := some unit, broken := p.broken || p.high.isSome }
  else if 0xDC00 ≤ unit ∧ unit < 0xE000 then
    match p.high with
    | some high =>
        { p with
          chars := Char.ofNat (0x10000 + (high - 0xD800) * 0x400 + (unit - 0xDC00)) :: p.chars
          high := none }
    | none => { p with broken := true }
  else p.push (Char.ofNat unit)

/-- The text of a finished string. -/
def finish (p : Partial) : Option String :=
  if p.broken || p.high.isSome then none else some (String.ofList p.chars.reverse)

end Partial

/-- Where the lexer stands. -/
inductive Mode where
  | gap
  /-- In a number or word, whose characters so far are held last first. -/
  | word (chars : List Char)
  | string (p : Partial)
  /-- Behind a backslash. -/
  | escape (p : Partial)
  /-- In the four digits of a unit: its value so far and how many digits are to come. -/
  | unit (p : Partial) (value toCome : Nat)

/-- The characters of numbers and words. -/
def isWordChar (c : Char) : Bool :=
  c.isAlphanum || c == '+' || c == '-' || c == '.'

/-- Splits the digits off the front. -/
def splitDigits (text : List Char) : List Char × List Char :=
  (text.takeWhile Char.isDigit, text.dropWhile Char.isDigit)

/-- The number that digits spell. -/
def numberOf (digits : List Char) : Nat :=
  digits.foldl (fun n c => n * 10 + (c.toNat - '0'.toNat)) 0

/-- The exponent behind a number, zero if there is none. -/
def exponent? : List Char → Option Int
  | [] => some 0
  | mark :: rest =>
      if mark == 'e' || mark == 'E' then
        let (sign, digits) := match rest with
          | '-' :: digits => (-1, digits)
          | '+' :: digits => (1, digits)
          | digits => ((1 : Int), digits)
        if digits.isEmpty || !digits.all Char.isDigit then none
        else some (sign * (numberOf digits : Int))
      else none

/-- Integers that have a type: all others are taken as rounded numbers. -/
def isWide (n : Int) : Bool := decide (-9223372036854775808 ≤ n ∧ n ≤ 18446744073709551615)

/-- A number with a fraction or an exponent. -/
def decimalOf (negative : Bool) (digits : List Char) (scale : Int) : Value :=
  let mantissa : Int := numberOf digits
  .decimal (if negative then -mantissa else mantissa) scale

/-- The number of an unsigned numeral: digits without a needless zero in front, a fraction and an
exponent. -/
def number? (negative : Bool) (text : List Char) : Option Value :=
  let (whole, rest) := splitDigits text
  if whole.isEmpty || (whole.head? == some '0' && whole.length != 1) then none
  else match rest with
    | [] =>
        let n : Int := if negative then -(numberOf whole : Int) else numberOf whole
        if isWide n && !(negative && n == 0) then some (.int n)
        else some (decimalOf negative whole 0)
    | '.' :: rest =>
        let (places, rest) := splitDigits rest
        if places.isEmpty then none
        else (exponent? rest).map fun e => decimalOf negative (whole ++ places) (e - places.length)
    | rest => (exponent? rest).map fun e => decimalOf negative whole e

/-- What a number or word stands for. -/
def word? (text : List Char) : Option Value :=
  if text = ['t', 'r', 'u', 'e'] then some (.bool true)
  else if text = ['f', 'a', 'l', 's', 'e'] then some (.bool false)
  else if text = ['n', 'u', 'l', 'l'] then some .null
  else match text with
    | '-' :: rest => number? true rest
    | rest => number? false rest

/-- The character that a letter behind a backslash stands for. -/
def escaped? : Char → Option Char
  | '"' => some '"'
  | '\\' => some '\\'
  | '/' => some '/'
  | 'b' => some '\x08'
  | 'f' => some '\x0c'
  | 'n' => some '\n'
  | 'r' => some '\r'
  | 't' => some '\t'
  | _ => none

/-- The character that begins after a token: a token of its own or the start of one. -/
def begin? (c : Char) : Option (List Token × Mode) :=
  if c == ' ' || c == '\t' || c == '\n' || c == '\r' then some ([], .gap)
  else if c == '[' then some ([.openList], .gap)
  else if c == ']' then some ([.closeList], .gap)
  else if c == '\x7b' then some ([.openObject], .gap)
  else if c == '\x7d' then some ([.closeObject], .gap)
  else if c == ',' then some ([.comma], .gap)
  else if c == ':' then some ([.colon], .gap)
  else if c == '"' then some ([], .string Partial.start)
  else if isWordChar c then some ([], .word [c])
  else none

/-- One character: the tokens that it completes and where it leaves the lexer. -/
def step? : Mode → Char → Option (List Token × Mode)
  | .gap, c => begin? c
  | .word chars, c =>
      if isWordChar c then some ([], .word (c :: chars))
      else do
        let value ← word? chars.reverse
        let (tokens, mode) ← begin? c
        return (.scalar value :: tokens, mode)
  | .string p, c =>
      if c == '"' then some ([.text p.finish], .gap)
      else if c == '\\' then some ([], .escape p)
      else if c.toNat < 0x20 then none
      else some ([], .string (p.push c))
  | .escape p, c =>
      if c == 'u' then some ([], .unit p 0 4)
      else (escaped? c).map fun e => ([], .string (p.push e))
  | .unit p value toCome, c => do
      let digit ← Text.hexValue? c
      let value := value * 16 + digit
      if toCome ≤ 1 then return ([], .string (p.pushUnit value))
      else return ([], .unit p value (toCome - 1))

/-- The token that the end of the text completes. -/
def finish? : Mode → Option (List Token)
  | .gap => some []
  | .word chars => (word? chars.reverse).map fun v => [.scalar v]
  | _ => none

/-- One character of a text, behind the tokens so far, last first. -/
def scan? (soFar : List Token × Mode) (c : Char) : Option (List Token × Mode) := do
  let (tokens, mode) ← step? soFar.2 c
  return (tokens.reverse ++ soFar.1, mode)

def tokens? (text : List Char) : Option (List Token) := do
  let (tokens, mode) ← text.foldlM scan? ([], .gap)
  let others ← finish? mode
  return tokens.reverse ++ others

end ClusterKeeper.Json
