import ClusterKeeper.Data.Yaml.Glyph
import ClusterKeeper.Text.Hex
/-!
Scalars of YAML texts, and how bare words and quoted texts are read.

Line ends inside a scalar are folded: one becomes a space, and of several all but the first stay. A
first one that is a line or paragraph separator is not folded.
-/

namespace ClusterKeeper.Yaml

/-- How a scalar is written. -/
inductive ScalarStyle where
  | plain
  | quoted
  /-- A block that keeps its line ends. -/
  | literal
  /-- A block whose line ends are folded. -/
  | folded
  deriving Repr, DecidableEq

structure Scalar where
  style : ScalarStyle
  text : String
  deriving Repr, DecidableEq

/-- The bare word that stands where nothing is written. -/
def Scalar.nothing : Scalar := ⟨.plain, ""⟩

/-- The characters that have a meaning of their own inside brackets. -/
def isFlowMark (c : Char) : Bool :=
  c == ',' || c == '[' || c == ']' || c == '\x7b' || c == '\x7d'

/-! ### White space inside scalars -/

/-- White space between two words. The last character comes first. -/
inductive Gap where
  /-- White space within a line. -/
  | within (blanks : List Char)
  /-- Line ends: the first, unless it counts for nothing, and the further ones. White space beside
  them does not count. -/
  | across (first : Option Char) (further : List Char)
  deriving Repr, DecidableEq

namespace Gap

/-- Nothing between two characters. -/
def none : Gap := within []

/-- Whether there is nothing. -/
def isNone : Gap → Bool
  | within blanks => blanks.isEmpty
  | across .. => false

/-- Whether a line ends here. -/
def isAcross : Gap → Bool
  | within _ => false
  | across .. => true

/-- A gap that goes on. -/
def push (c : Char) : Gap → Gap
  | within blanks => if isBreak c then across (some c) [] else within (c :: blanks)
  | across first further => if isBreak c then across first (c :: further) else across first further

/-- What a gap amounts to. -/
def folded : Gap → List Char
  | within blanks => blanks
  | across (some '\n') [] => [' ']
  | across (some '\n') further => further
  | across first further => further ++ first.toList

/-- One line feed becomes a space. -/
theorem folded_push_newline (blanks : List Char) : (push '\n' (within blanks)).folded = [' '] := rfl

end Gap

/-- What has been read of a scalar, last character first. -/
structure Gathered where
  text : List Char
  gap : Gap
  deriving Repr, DecidableEq

namespace Gathered

/-- Nothing has been read yet. -/
def start : Gathered := ⟨[], Gap.none⟩

/-- The characters so far, the last gap among them. -/
def settled (g : Gathered) : List Char := g.gap.folded ++ g.text

/-- A character that is not white space. -/
def push (g : Gathered) (c : Char) : Gathered := ⟨c :: g.settled, Gap.none⟩

/-- White space. -/
def pushGap (g : Gathered) (c : Char) : Gathered := { g with gap := g.gap.push c }

/-- A line end behind a backslash, which counts for nothing. -/
def pushJoin (g : Gathered) : Gathered := ⟨g.settled, .across none []⟩

/-- The text without white space at its end. -/
def trimmed (g : Gathered) : String := String.ofList g.text.reverse

/-- The text with the white space at its end. -/
def whole (g : Gathered) : String := String.ofList g.settled.reverse

end Gathered

/-! ### Quoted texts -/

/-- The text up to the single quote that ends it, and what follows. Two quotes stand for one. -/
def singleQuoted? : Gathered → List Glyph → Option (String × List Glyph)
  | _, [] => none
  | g, ⟨'\'', _, _⟩ :: ⟨'\'', _, _⟩ :: rest => singleQuoted? (g.push '\'') rest
  | g, c :: rest =>
      if atDocumentMark (c :: rest) then none
      else if c.char == '\'' then some (g.whole, rest)
      else singleQuoted? (if isGap c.char then g.pushGap c.char else g.push c.char) rest

/-- The character that a letter behind a backslash stands for. -/
def escaped? (c : Char) : Option Char :=
  [('0', '\x00'), ('a', '\x07'), ('b', '\x08'), ('t', '\t'), ('\t', '\t'), ('n', '\n'),
   ('v', '\x0b'), ('f', '\x0c'), ('r', '\r'), ('e', '\x1b'), (' ', ' '), ('"', '"'), ('/', '/'),
   ('\\', '\\'), ('N', '\u0085'), ('_', '\u00a0'), ('L', '\u2028'), ('P', '\u2029')].lookup c

/-- The number of digits behind the letters that give a character by its code point. -/
def escapeWidth? (c : Char) : Option Nat := [('x', 2), ('u', 4), ('U', 8)].lookup c

/-- The character of that code point, if there is one. -/
def charOfCode? (code : Nat) : Option Char :=
  if code.isValidChar then some (Char.ofNat code) else none

/-- Where the reader of a text between double quotes stands. -/
inductive Escape where
  | none
  | begun
  /-- In the digits of a code point: its value so far and how many are to come. -/
  | digits (value toCome : Nat)

/-- The text up to the double quote that ends it, and what follows. -/
def doubleQuoted? : Gathered → Escape → List Glyph → Option (String × List Glyph)
  | _, _, [] => none
  | g, .none, c :: rest =>
      if atDocumentMark (c :: rest) then none
      else if c.char == '"' then some (g.whole, rest)
      else if c.char == '\\' then doubleQuoted? g .begun rest
      else doubleQuoted? (if isGap c.char then g.pushGap c.char else g.push c.char) .none rest
  | g, .begun, c :: rest =>
      if isBreak c.char then doubleQuoted? g.pushJoin .none rest
      else match escapeWidth? c.char with
        | some width => doubleQuoted? g (.digits 0 width) rest
        | none => (escaped? c.char).bind fun e => doubleQuoted? (g.push e) .none rest
  | g, .digits value toCome, c :: rest =>
      (Text.hexValue? c.char).bind fun digit =>
        let value := value * 16 + digit
        if toCome ≤ 1 then (charOfCode? value).bind fun e => doubleQuoted? (g.push e) .none rest
        else doubleQuoted? g (.digits value (toCome - 1)) rest

/-! ### Bare words -/

/-- Characters that have a meaning of their own at the beginning of a word. -/
def isIndicator (c : Char) : Bool :=
  ['-', '?', ':', ',', '[', ']', '\x7b', '\x7d', '#', '&', '*', '!', '|', '>', '\'', '"', '%', '@',
   '`'].contains c

/-- Whether a bare word may begin here. -/
def beginsPlain (inFlow : Bool) : List Glyph → Bool
  | [] => false
  | c :: rest =>
      if isGap c.char then false
      else if !isIndicator c.char then true
      else if c.char == '-' then !(next? rest).any isSpace
      else (c.char == '?' || c.char == ':') && !inFlow && !endsToken rest

/-- Whether a bare word ends before a character that is not white space: a comment begins, or a
document ends, or the line is not as deep as the word has to be, or a mark follows. -/
def endsPlain (inFlow : Bool) (least : Nat) (gap : Gap) (c : Glyph) (rest : List Glyph) : Bool :=
  atDocumentMark (c :: rest) || (c.char == '#' && !gap.isNone) ||
    (!inFlow && gap.isAcross && decide (c.column < least)) ||
    (c.char == ':' && endsToken rest) || (inFlow && isFlowMark c.char)

/-- The bare word that begins here, with what follows. Its further lines are indented by `least` at
least, not by tabs. Inside brackets a colon may not stand before some marks. -/
def plain? (inFlow : Bool) (least : Nat) :
    Gathered → List Glyph → Option (Gathered × List Glyph)
  | g, [] => some (g, [])
  | g, c :: rest =>
      if isGap c.char then
        if g.gap.isAcross && c.char == '\t' && c.column < least then none
        else plain? inFlow least (g.pushGap c.char) rest
      else if endsPlain inFlow least g.gap c rest then some (g, c :: rest)
      else if inFlow && c.char == ':' && (next? rest).any (fun d => isFlowMark d || d == '?') then
        none
      else plain? inFlow least (g.push c.char) rest

end ClusterKeeper.Yaml
