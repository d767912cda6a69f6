/-!
White space: the 25 characters of the Unicode property White_Space, and trimming by it.

The property has not changed since Unicode 6.3; the table is checked to extend core's notion of
white space, which knows four of these characters.
-/

namespace ClusterKeeper.Text

/-- Closed ranges of code points, ascending and apart. -/
abbrev CodeRanges := List (Nat × Nat)

/-- Whether a code point lies in one of the ranges. -/
def CodeRanges.covers (ranges : CodeRanges) (code : Nat) : Bool :=
  ranges.any fun range => range.1 ≤ code && code ≤ range.2

/-- The code points of white space. -/
def blankRanges : CodeRanges :=
  [(0x09, 0x0D), (0x20, 0x20), (0x85, 0x85), (0xA0, 0xA0), (0x1680, 0x1680), (0x2000, 0x200A),
   (0x2028, 0x2029), (0x202F, 0x202F), (0x205F, 0x205F), (0x3000, 0x3000)]

/-- White space of any script. -/
def isBlank (c : Char) : Bool := blankRanges.covers c.toNat

/-- Every character that core calls white space is blank. -/
theorem isBlank_of_isWhitespace (c : Char) (h : c.isWhitespace = true) : isBlank c = true := by
  simp only [Char.isWhitespace, Bool.or_eq_true, decide_eq_true_eq] at h
  rcases h with ((h | h) | h) | h <;> subst h <;> decide

/-- Drops white space at both ends. -/
def trimChars (text : List Char) : List Char :=
  ((text.dropWhile isBlank).reverse.dropWhile isBlank).reverse

/-- Drops white space at both ends. -/
def trim (text : String) : String := String.ofList (trimChars text.toList)

/-- A text of white space alone; the empty text is one. -/
def isBlankText (text : String) : Bool := text.toList.all isBlank

theorem dropWhile_isBlank_eq_nil_iff {text : List Char} :
    text.dropWhile isBlank = [] ↔ text.all isBlank = true := by
  induction text with
  | nil => simp
  | cons c rest ih => by_cases h : isBlank c = true <;> simp_all

theorem all_isBlank_dropWhile {text : List Char} :
    (text.dropWhile isBlank).all isBlank = text.all isBlank := by
  induction text with
  | nil => rfl
  | cons c rest ih => by_cases h : isBlank c = true <;> simp_all

/-- Trimming leaves nothing exactly of a text of white space alone. -/
theorem trimChars_eq_nil_iff {text : List Char} :
    trimChars text = [] ↔ text.all isBlank = true := by
  rw [trimChars, List.reverse_eq_nil_iff, dropWhile_isBlank_eq_nil_iff, List.all_reverse,
    all_isBlank_dropWhile]

/-- The table neither accepts letters nor the zero-width space. -/
example : isBlank 'a' = false ∧ isBlank '\u200b' = false ∧ isBlank '\u3000' = true := by decide

end ClusterKeeper.Text
