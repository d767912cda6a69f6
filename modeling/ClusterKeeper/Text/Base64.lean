/-!
Base64 of the standard alphabet with required, canonical padding.

`encode` writes octets; `decode` accepts exactly the written form and says what is wrong with any
other text. A text is looked at in quads. Every quad but the last must consist of four symbols; the
last one may be padded, and the bits of its last symbol that belong to no octet must be zero.
-/

namespace ClusterKeeper.Text.Base64

/-- The symbols, in order of their six-bit values. -/
def alphabet : String := "ABCDEFGHIJKLMNOPQRSTUVWXYZabcdefghijklmnopqrstuvwxyz0123456789+/"

/-- The symbol of a six-bit value. -/
def symbol (value : Nat) : Char := alphabet.toList.getD value '='

/-- The six-bit value of an octet that is a symbol. -/
def value? (octet : UInt8) : Option Nat :=
  let code := octet.toNat
  if 65 ≤ code ∧ code ≤ 90 then some (code - 65)
  else if 97 ≤ code ∧ code ≤ 122 then some (code - 71)
  else if 48 ≤ code ∧ code ≤ 57 then some (code + 4)
  else if code = 43 then some 62
  else if code = 47 then some 63
  else none

/-- The octet of the padding sign. -/
def padding : UInt8 := 61

/-- Writes octets, three to a quad. -/
def encodeChars : List UInt8 → List Char
  | [] => []
  | [a] =>
      [symbol (a.toNat / 4), symbol (a.toNat % 4 * 16), '=', '=']
  | [a, b] =>
      [symbol (a.toNat / 4), symbol (a.toNat % 4 * 16 + b.toNat / 16),
        symbol (b.toNat % 16 * 4), '=']
  | a :: b :: c :: rest =>
      symbol (a.toNat / 4) :: symbol (a.toNat % 4 * 16 + b.toNat / 16) ::
        symbol (b.toNat % 16 * 4 + c.toNat / 64) :: symbol (c.toNat % 64) :: encodeChars rest

/-- The written form of octets. -/
def encode (octets : List UInt8) : String := String.ofList (encodeChars octets)

/-- What keeps a text from being the written form of octets. -/
inductive Flaw where
  /-- An octet that may not stand at this offset. -/
  | symbol (octet : UInt8) (offset : Nat)
  /-- The text ends after this many symbols, where no octet ends. -/
  | length (count : Nat)
  /-- The last symbol carries bits that belong to no octet. -/
  | lastSymbol (octet : UInt8) (offset : Nat)
  /-- The last quad is not padded to four. -/
  | padding
  deriving Repr, DecidableEq

/-- The wording of a flaw. -/
def Flaw.message : Flaw → String
  | .symbol octet offset => s!"Invalid symbol {octet.toNat}, offset {offset}."
  | .length count => s!"Invalid input length: {count}"
  | .lastSymbol octet offset => s!"Invalid last symbol {octet.toNat}, offset {offset}."
  | .padding => "Invalid padding"

/-- The value of the octet at an offset, which must be a symbol. -/
def valueAt (octet : UInt8) (offset : Nat) : Except Flaw Nat :=
  match value? octet with
  | some value => .ok value
  | none => .error (.symbol octet offset)

/-- What the last quad holds: its symbols and how many padding signs follow them. -/
structure LastQuad where
  symbols : List (UInt8 × Nat)
  paddings : Nat

/-- Reads the last quad from left to right. `index` counts the octets of the quad so far. -/
def scanLast (start : Nat) : Nat → LastQuad → List UInt8 → Except Flaw LastQuad
  | _, quad, [] => .ok quad
  | index, quad, octet :: rest =>
      if octet = padding then
        if index < 2 then .error (.symbol octet (start + index))
        else scanLast start (index + 1) { quad with paddings := quad.paddings + 1 } rest
      else if quad.paddings = 0 then do
        let value ← valueAt octet (start + index)
        scanLast start (index + 1) { quad with symbols := quad.symbols ++ [(octet, value)] } rest
      else .error (.symbol padding (start + quad.symbols.length))

/-- The octets of a padded quad, given its two, three or four symbols; fewer carry none. -/
def octetsOfLast (start : Nat) : List (UInt8 × Nat) → Except Flaw (List UInt8)
  | [(_, a), (octet, b)] =>
      if b % 16 = 0 then .ok [UInt8.ofNat (a * 4 + b / 16)]
      else .error (.lastSymbol octet (start + 1))
  | [(_, a), (_, b), (octet, c)] =>
      if c % 4 = 0 then
        .ok [UInt8.ofNat (a * 4 + b / 16), UInt8.ofNat (b % 16 * 16 + c / 4)]
      else .error (.lastSymbol octet (start + 2))
  | (_, a) :: (_, b) :: (_, c) :: (_, d) :: _ =>
      .ok [UInt8.ofNat (a * 4 + b / 16), UInt8.ofNat (b % 16 * 16 + c / 4),
        UInt8.ofNat (c % 4 * 64 + d)]
  | _ => .ok []

/-- Reads the last quad, of at most four octets. -/
def decodeLast (start : Nat) (octets : List UInt8) : Except Flaw (List UInt8) := do
  let quad ← scanLast start 0 ⟨[], 0⟩ octets
  if octets ≠ [] ∧ quad.symbols.length < 2 then
    .error (.length (start + quad.symbols.length))
  else if (quad.paddings + quad.symbols.length) % 4 ≠ 0 then .error .padding
  else octetsOfLast start quad.symbols

/-- Reads quad after quad; `start` is the offset of the first octet. -/
def decodeFrom (start : Nat) : List UInt8 → Except Flaw (List UInt8)
  | a :: b :: c :: d :: e :: rest => do
      let va ← valueAt a start
      let vb ← valueAt b (start + 1)
      let vc ← valueAt c (start + 2)
      let vd ← valueAt d (start + 3)
      let octets ← decodeFrom (start + 4) (e :: rest)
      return UInt8.ofNat (va * 4 + vb / 16) :: UInt8.ofNat (vb % 16 * 16 + vc / 4) ::
        UInt8.ofNat (vc % 4 * 64 + vd) :: octets
  | octets => decodeLast start octets

/-- An octet too many that is no symbol is reported before anything else. -/
def strayLast? (octets : List UInt8) : Option Flaw :=
  match octets.getLast? with
  | some octet =>
      if octets.length % 4 = 1 ∧ octet ≠ padding ∧ value? octet = none then
        some (.symbol octet (octets.length - 1))
      else none
  | none => none

/-- The octets whose written form the given octets are. -/
def decodeOctets (octets : List UInt8) : Except Flaw (List UInt8) :=
  match strayLast? octets with
  | some flaw => .error flaw
  | none => decodeFrom 0 octets

/-- The octets whose written form the text is. -/
def decode (text : String) : Except Flaw (List UInt8) := decodeOctets text.toUTF8.toList

example : decodeOctets [89, 87, 73, 61] = .ok [97, 98] := by rfl
example : decodeOctets [89, 82, 61, 61] = .error (.lastSymbol 82 1) := by rfl

end ClusterKeeper.Text.Base64
