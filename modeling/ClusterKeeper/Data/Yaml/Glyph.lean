/-!
The characters of a YAML text, each with its place.

Line feeds, carriage returns, both together and next-line characters are one kind of line end, which
is a line feed here. Line and paragraph separators end lines too and stay what they are. A text with
a character that may not occur in one has no glyphs.
-/

namespace ClusterKeeper.Yaml

/-- A character of a text. -/
structure Glyph where
  char : Char
  line : Nat
  /-- The place in the line, counted from zero. -/
  column : Nat
  deriving Repr, DecidableEq

/-- White space within a line. -/
def isSpace (c : Char) : Bool := c == ' ' || c == '\t'

/-- The ends of lines. -/
def isBreak (c : Char) : Bool := c == '\n' || c == '\u2028' || c == '\u2029'

/-- What separates words. -/
def isGap (c : Char) : Bool := isSpace c || isBreak c

/-- The mark of the order of octets, which may stand at the beginning of a line. -/
def orderMark : Char := '\ufeff'

/-- Whether a character may occur in a text. -/
def isAllowed (c : Char) : Bool :=
  let n := c.toNat
  c == '\t' || c == '\n' || c == '\r' || c == '\u0085' || (0x20 ≤ n && n ≤ 0x7E) ||
    (0xA0 ≤ n && n ≤ 0xD7FF) || (0xE000 ≤ n && n ≤ 0xFFFD) || 0x10000 ≤ n

/-- Makes one kind of line end of four. -/
def unifyLineEnds : List Char → List Char
  | [] => []
  | '\r' :: '\n' :: rest => '\n' :: unifyLineEnds rest
  | c :: rest => (if c == '\r' || c == '\u0085' then '\n' else c) :: unifyLineEnds rest

/-- The characters of a text that begins at a place. -/
def placeFrom (line column : Nat) : List Char → List Glyph
  | [] => []
  | c :: rest =>
      ⟨c, line, column⟩ :: if isBreak c then placeFrom (line + 1) 0 rest
        else placeFrom line (column + 1) rest

/-- The characters of a text, if all of them may occur in one. -/
def glyphs? (text : List Char) : Option (List Glyph) :=
  if text.all isAllowed then some (placeFrom 0 0 (unifyLineEnds text)) else none

def next? (rest : List Glyph) : Option Char := rest.head?.map (·.char)

/-- Whether white space or a line end follows, or nothing. -/
def endsToken (rest : List Glyph) : Bool := (next? rest).all isGap

/-- Whether a line ends here. -/
def endsLine (rest : List Glyph) : Bool := (next? rest).all isBreak

/-- Whether three equal characters follow that stand for themselves. -/
def atTriple (c : Char) (rest : List Glyph) : Bool :=
  (rest.take 3).map (·.char) == [c, c, c] && endsToken (rest.drop 3)

/-- Whether a mark begins here that begins or ends a document. -/
def atDocumentMark (rest : List Glyph) : Bool :=
  rest.head?.any (·.column == 0) && (atTriple '-' rest || atTriple '.' rest)

/-- Passes over what is left of a line, up to its end. -/
def dropLine (rest : List Glyph) : List Glyph := rest.dropWhile fun g => !isBreak g.char

/-- Passes over white space within a line. -/
def dropSpaces (rest : List Glyph) : List Glyph := rest.dropWhile fun g => isSpace g.char

end ClusterKeeper.Yaml
