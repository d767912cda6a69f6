import ClusterKeeper.Data.Yaml.Glyph
import ClusterKeeper.Text.Hex
/-!
Tags, which give the type of a node, and the directives before a document.

A tag is written as a handle and a suffix. Directives may say what a handle stands for; a tag is
that followed by the suffix. Characters other than those of web addresses are given by their octets.
-/

namespace ClusterKeeper.Yaml

/-- The type of a node, by name. -/
structure Tag where
  octets : List UInt8
  deriving Repr, DecidableEq

/-- Octets of characters that are one octet long. -/
def octetsOf (text : String) : List UInt8 := text.toList.map fun c => UInt8.ofNat c.toNat

namespace Tag

/-- What the names of the common types begin with. -/
def commonStem : String := "tag:yaml.org,2002:"

/-- The tag of a common type. -/
def common (name : String) : Tag := ⟨octetsOf (commonStem ++ name)⟩

/-- The name that a tag has in this kind of document only. It stands behind an exclamation mark, or
is one. -/
def localName? (tag : Tag) : Option String :=
  match tag.octets with
  | 0x21 :: [] => some "!"
  | 0x21 :: name => String.fromUTF8? ⟨name.toArray⟩
  | _ => none

end Tag

/-- A tag as it is written. -/
structure TagName where
  handle : String
  suffix : List UInt8
  deriving Repr, DecidableEq

/-- What is said of a document before it begins. -/
inductive Directive where
  | version (major minor : Nat)
  /-- What a handle stands for. -/
  | handle (name : String) (stem : List UInt8)
  deriving Repr, DecidableEq

/-! ### Parts of tags -/

/-- The characters of names. -/
def isNameChar (c : Char) : Bool := c.isAlphanum || c == '_' || c == '-'

/-- The characters of web addresses. In `wide` ones there are commas and brackets as well. -/
def isAddressChar (wide : Bool) (c : Char) : Bool :=
  isNameChar c ||
    [';', '/', '?', ':', '@', '&', '=', '+', '$', '.', '!', '~', '*', '\'', '(', ')'].contains c ||
    (wide && [',', '[', ']'].contains c)

/-- The longest name that begins here, possibly none, and what follows. -/
def nameChars (rest : List Glyph) : String × List Glyph :=
  let name := rest.takeWhile fun g => isNameChar g.char
  (String.ofList (name.map (·.char)), rest.drop name.length)

/-- The number of octets of a character that begins with an octet. -/
def octetCount? (first : Nat) : Option Nat :=
  if first < 0x80 then some 1
  else if 0xC0 ≤ first && first < 0xE0 then some 2
  else if 0xE0 ≤ first && first < 0xF0 then some 3
  else if 0xF0 ≤ first && first < 0xF8 then some 4
  else none

/-- The octet that two digits give. -/
def octet? (high low : Glyph) : Option Nat := do
  return (← Text.hexValue? high.char) * 16 + (← Text.hexValue? low.char)

/-- The octets of the longest part of a web address that begins here, and what follows. Behind a
percent sign stand the digits of an octet; `toCome` octets of a character are missing. -/
def address? (wide : Bool) : (toCome : Nat) → List Glyph → Option (List UInt8 × List Glyph)
  | toCome, ⟨'%', _, _⟩ :: high :: low :: rest =>
      (octet? high low).bind fun octet =>
        let missing? : Option Nat :=
          if toCome == 0 then (octetCount? octet).map (· - 1)
          else if 0x80 ≤ octet && octet < 0xC0 then some (toCome - 1)
          else none
        missing?.bind fun missing =>
          (address? wide missing rest).map fun (octets, rest) => (UInt8.ofNat octet :: octets, rest)
  | 0, c :: rest =>
      if c.char == '%' then none
      else if isAddressChar wide c.char then
        (address? wide 0 rest).map fun (octets, rest) => (UInt8.ofNat c.char.toNat :: octets, rest)
      else some ([], c :: rest)
  | 0, [] => some ([], [])
  | _ + 1, _ => none

/-- Octets up to the first that is zero, with which names end. -/
def uptoZero (octets : List UInt8) : List UInt8 := octets.takeWhile (· != 0)

/-- A part of a web address that is not empty. -/
def someAddress? (wide : Bool) (rest : List Glyph) : Option (List UInt8 × List Glyph) :=
  (address? wide 0 rest).bind fun (octets, rest) =>
    if octets.isEmpty then none else some (uptoZero octets, rest)

/-! ### Tags -/

/-- The tag that stands behind an exclamation mark, and what follows: in angle brackets, or behind a
handle that ends in another exclamation mark, or behind the shortest handle. An exclamation mark
alone is a tag of its own. -/
def tagName? (rest : List Glyph) : Option (TagName × List Glyph) :=
  match rest with
  | ⟨'<', _, _⟩ :: rest => do
      let (suffix, rest) ← someAddress? true rest
      if next? rest == some '>' then return (⟨"", suffix⟩, rest.drop 1) else failure
  | rest =>
      let (name, behind) := nameChars rest
      if next? behind == some '!' then
        (someAddress? false (behind.drop 1)).map fun (suffix, rest) =>
          (⟨"!" ++ name ++ "!", suffix⟩, rest)
      else
        (address? false 0 rest).map fun (octets, rest) =>
          let suffix := uptoZero octets
          (if suffix.isEmpty then ⟨"", octetsOf "!"⟩ else ⟨"!", suffix⟩, rest)

/-- A tag with white space behind it, or inside brackets a comma. -/
def tag? (inFlow : Bool) (rest : List Glyph) : Option (TagName × List Glyph) :=
  (tagName? rest).bind fun (name, rest) =>
    if endsToken rest || (inFlow && next? rest == some ',') then some (name, rest) else none

/-- What handles stand for. The first of a name counts. -/
abbrev Handles : Type := List (String × List UInt8)

/-- What handles stand for unless a directive says otherwise. -/
def Handles.standard : Handles := [("!", octetsOf "!"), ("!!", octetsOf Tag.commonStem)]

/-- The tag of that name. Without a handle the suffix is all. -/
def TagName.resolve? (handles : Handles) (name : TagName) : Option Tag :=
  if name.handle.isEmpty then some ⟨name.suffix⟩
  else (handles.lookup name.handle).map fun stem => ⟨stem ++ name.suffix⟩

/-! ### Directives -/

/-- A number of at most nine digits. -/
def number? (rest : List Glyph) : Option (Nat × List Glyph) :=
  let digits := rest.takeWhile fun g => g.char.isDigit
  if digits.isEmpty || 9 < digits.length then none
  else
    some (digits.foldl (fun n g => n * 10 + (g.char.toNat - '0'.toNat)) 0, rest.drop digits.length)

/-- The number of a version. -/
def versionDirective? (rest : List Glyph) : Option (Directive × List Glyph) := do
  let (major, rest) ← number? (dropSpaces rest)
  if next? rest == some '.' then
    let (minor, rest) ← number? (rest.drop 1)
    return (.version major minor, rest)
  else failure

/-- A handle and what it stands for. -/
def handleDirective? (rest : List Glyph) : Option (Directive × List Glyph) := do
  let rest := dropSpaces rest
  if next? rest != some '!' then failure
  let (name, behind) := nameChars (rest.drop 1)
  let closed := next? behind == some '!'
  if !closed && !name.isEmpty then failure
  let handle := if closed then "!" ++ name ++ "!" else "!"
  let rest := if closed then behind.drop 1 else behind
  if !(next? rest).any isSpace then failure
  let (stem, rest) ← someAddress? true (dropSpaces rest)
  if endsToken rest then return (.handle handle stem, rest) else failure

/-- The directive behind a percent sign, to the end of its line, and what follows. -/
def directive? (rest : List Glyph) : Option (Directive × List Glyph) := do
  let (name, rest) := nameChars rest
  if !endsToken rest then failure
  let (directive, rest) ←
    if name == "YAML" then versionDirective? rest
    else if name == "TAG" then handleDirective? rest
    else none
  let rest := dropSpaces rest
  if endsLine rest || next? rest == some '#' then return (directive, (dropLine rest).drop 1)
  else failure

end ClusterKeeper.Yaml
