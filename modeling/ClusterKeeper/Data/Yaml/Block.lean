import ClusterKeeper.Data.Yaml.Scalar
/-!
Literal blocks: scalars that stand on lines of their own, as deep as the first of them.

The first line of a block, behind its mark, may say how deep the block is and what becomes of the
line ends behind it. In a folded block a single line end between two lines becomes a space, unless
one of them begins with white space.
-/

namespace ClusterKeeper.Yaml

/-- What happens to the line ends behind a literal block. -/
inductive Chomp where
  | strip
  | clip
  | keep
  deriving Repr, DecidableEq

/-- The first line of a literal block. -/
structure BlockHeader where
  chomp : Chomp
  /-- How much deeper than its surroundings the block is, if that is given. -/
  depth : Option Nat
  deriving Repr, DecidableEq

/-- What a sign in the first line of a block says. -/
def Chomp.ofChar? (c : Char) : Option Chomp :=
  if c == '-' then some .strip else if c == '+' then some .keep else none

/-- A digit but zero. -/
def depthDigit? (c : Char) : Option Nat :=
  if c.isDigit && c != '0' then some (c.toNat - '0'.toNat) else none

/-- What the characters behind the mark of a block say: a sign and a digit, in any order. -/
def BlockHeader.ofChars? (marks : List Char) : Option BlockHeader :=
  match marks with
  | [] => some ⟨.clip, none⟩
  | [c] =>
      match Chomp.ofChar? c with
      | some chomp => some ⟨chomp, none⟩
      | none => (depthDigit? c).map fun depth => ⟨.clip, some depth⟩
  | [c, d] =>
      match Chomp.ofChar? c with
      | some chomp => (depthDigit? d).map fun depth => ⟨chomp, some depth⟩
      | none => do return ⟨← Chomp.ofChar? d, some (← depthDigit? c)⟩
  | _ => none

/-- The rest of the first line of a block, with a comment at most, and the lines behind it. -/
def blockHeader? (rest : List Glyph) : Option (BlockHeader × List Glyph) :=
  let marks := rest.takeWhile fun g => !isGap g.char && g.char != '#'
  let behind := dropSpaces (rest.drop marks.length)
  if endsLine behind || next? behind == some '#' then
    (BlockHeader.ofChars? (marks.map (·.char))).map fun header =>
      (header, (dropLine behind).drop 1)
  else none

/-- How deep a block is, by the spaces in it before its first other character: as many as in the
line with the most. None if that character is a tab. -/
def blockDepth? (deepest : Nat) : List Glyph → Option Nat
  | [] => some deepest
  | c :: rest =>
      if c.char == ' ' then blockDepth? (max deepest (c.column + 1)) rest
      else if c.char == '\t' then none
      else if isBreak c.char then blockDepth? deepest rest
      else some deepest

/-- What has been read of a block, last character first. -/
structure BlockText where
  text : List Char
  /-- A line is being read. -/
  inLine : Bool
  /-- The end of the last line, if it has one. -/
  lineEnd : Option Char
  /-- The ends of the empty lines since then. -/
  empties : List Char
  /-- The last line begins with white space. -/
  deep : Bool
  deriving Repr, DecidableEq

namespace BlockText

/-- Nothing has been read yet. -/
def start : BlockText := ⟨[], false, none, [], false⟩

/-- What the end of the last line becomes when another line begins. In a folded block it is folded
unless one of both lines begins with white space. -/
def joint (folds : Bool) (b : BlockText) (deep : Bool) : List Char :=
  if folds && b.lineEnd == some '\n' && !b.deep && !deep then
    if b.empties.isEmpty then [' '] else []
  else b.lineEnd.toList

/-- The first character of a line. -/
def beginLine (folds : Bool) (b : BlockText) (c : Char) : BlockText :=
  ⟨c :: (b.empties ++ b.joint folds (isSpace c) ++ b.text), true, none, [], isSpace c⟩

/-- The text, with the line ends behind it that are to be kept. -/
def finish (chomp : Chomp) (b : BlockText) : String :=
  let behind := match chomp with
    | .strip => []
    | .clip => b.lineEnd.toList
    | .keep => b.empties ++ b.lineEnd.toList
  String.ofList (behind ++ b.text).reverse

end BlockText

/-- The lines of a block of a depth, and what follows it. A tab does not indent. -/
def blockLines? (folds : Bool) (depth : Nat) :
    BlockText → List Glyph → Option (BlockText × List Glyph)
  | b, [] => some (b, [])
  | b, c :: rest =>
      if b.inLine then
        blockLines? folds depth
          (if isBreak c.char then { b with inLine := false, lineEnd := some c.char }
            else { b with text := c.char :: b.text }) rest
      else if isBreak c.char then
        blockLines? folds depth { b with empties := c.char :: b.empties } rest
      else if c.column < depth && c.char == ' ' then blockLines? folds depth b rest
      else if c.column < depth && c.char == '\t' then none
      else if c.column == depth then blockLines? folds depth (b.beginLine folds c.char) rest
      else some (b, c :: rest)

/-- The text of a block behind its mark, and what follows. What surrounds it is indented by
`outer`, unless nothing does. -/
def block? (folds : Bool) (outer : Option Nat) (rest : List Glyph) :
    Option (String × List Glyph) := do
  let (header, lines) ← blockHeader? rest
  let depth ← match header.depth with
    | some depth => some (outer.getD 0 + depth)
    | none => (blockDepth? 0 lines).map fun deepest => max deepest (max (outer.elim 0 (· + 1)) 1)
  let (b, rest) ← blockLines? folds depth BlockText.start lines
  return (b.finish header.chomp, rest)

end ClusterKeeper.Yaml
