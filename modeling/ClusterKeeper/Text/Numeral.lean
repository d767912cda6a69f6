/-!
Unsigned decimal numerals with an upper limit.

A numeral is an optional single plus sign and one or more ASCII digits, with any number of leading
zeros. Texts are read from the left and the first thing wrong is reported, so a number that has
already grown too large hides an invalid digit behind it.
-/

namespace ClusterKeeper.Text.Numeral

/-- What keeps a text from being a numeral within the limit. -/
inductive Flaw where
  | empty
  | invalidDigit
  | tooLarge
  deriving Repr, DecidableEq

/-- The wording of a flaw. -/
def Flaw.message : Flaw → String
  | .empty => "cannot parse integer from empty string"
  | .invalidDigit => "invalid digit found in string"
  | .tooLarge => "number too large to fit in target type"

/-- The value of an ASCII digit. -/
def digitValue (c : Char) : Nat := c.toNat - '0'.toNat

/-- Reads on after a number: each digit multiplies by ten and adds. -/
def readDigits (limit : Nat) : Nat → List Char → Except Flaw Nat
  | number, [] => .ok number
  | number, c :: rest =>
      if c.isDigit then
        let next := number * 10 + digitValue c
        if next ≤ limit then readDigits limit next rest else .error .tooLarge
      else .error .invalidDigit

/-- Reads a numeral of at most `limit`. -/
def readChars (limit : Nat) : List Char → Except Flaw Nat
  | [] => .error .empty
  | ['+'] => .error .invalidDigit
  | '+' :: digits => readDigits limit 0 digits
  | digits => readDigits limit 0 digits

/-- Reads a numeral of at most `limit`. -/
def read (limit : Nat) (text : String) : Except Flaw Nat := readChars limit text.toList

/-- The largest number of 32 bits. -/
def max32 : Nat := 4294967295

/-- The largest number of 64 bits. -/
def max64 : Nat := 18446744073709551615

example : readChars max32 "007".toList = .ok 7 := by rfl
example : readChars max32 "4294967296x".toList = .error .tooLarge := by rfl

end ClusterKeeper.Text.Numeral
