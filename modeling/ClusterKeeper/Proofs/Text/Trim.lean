import Mathlib.Data.List.TakeWhile
import ClusterKeeper.Text.Blank
/-!
White space around a text.

A text is trimmed if there is white space at neither end of it. Trimming takes white space off both
ends, and nothing else, until the text is trimmed.
-/

namespace ClusterKeeper.Text

variable {text before core after : List Char}

/-- There is white space at neither end. -/
structure IsTrimmed (text : List Char) : Prop where
  head : ∀ c ∈ text.head?, isBlank c = false
  last : ∀ c ∈ text.getLast?, isBlank c = false

/-- A text without white space is trimmed. -/
theorem isTrimmed_of_forall (h : ∀ c ∈ text, isBlank c = false) : IsTrimmed text where
  head := fun c hc => h c (List.mem_of_mem_head? hc)
  last := fun c hc => h c (List.mem_of_mem_getLast? hc)

theorem dropWhile_isBlank_of_head (h : ∀ c ∈ text.head?, isBlank c = false) :
    text.dropWhile isBlank = text := by
  cases text with
  | nil => rfl
  | cons c rest => exact List.dropWhile_cons_of_neg (Bool.eq_false_iff.mp (h c rfl))

/-- Behind the white space that is dropped there is none. -/
theorem isBlank_of_mem_head?_dropWhile {c : Char} (h : c ∈ (text.dropWhile isBlank).head?) :
    isBlank c = false := by
  obtain ⟨rest, hrest⟩ := List.head?_eq_some_iff.mp h
  have hne : text.dropWhile isBlank ≠ [] := by simp [hrest]
  have hhead := List.head_dropWhile_not isBlank hne
  rwa [List.head_eq_iff_head?_eq_some hne |>.mpr h] at hhead

theorem trimChars_append (hbefore : before.all isBlank = true) (hcore : IsTrimmed core)
    (hafter : after.all isBlank = true) : trimChars (before ++ core ++ after) = core := by
  have hreverse : after.reverse.all isBlank = true := by rwa [List.all_reverse]
  rw [trimChars, List.append_assoc, List.dropWhile_append_of_pos (List.all_eq_true.mp hbefore)]
  cases core with
  | nil =>
      rw [List.nil_append, dropWhile_isBlank_eq_nil_iff.mpr hafter]
      rfl
  | cons c rest =>
      have hfirst : ∀ d ∈ ((c :: rest) ++ after).head?, isBlank d = false := hcore.head
      have hlast : (c :: rest).reverse.dropWhile isBlank = (c :: rest).reverse := by
        apply dropWhile_isBlank_of_head
        rw [List.head?_reverse]
        exact hcore.last
      rw [dropWhile_isBlank_of_head hfirst, List.reverse_append,
        List.dropWhile_append_of_pos (List.all_eq_true.mp hreverse), hlast, List.reverse_reverse]

theorem isTrimmed_trimChars (text : List Char) : IsTrimmed (trimChars text) where
  head := by
    intro c hc
    rw [trimChars, List.head?_reverse] at hc
    -- What is dropped at the end leaves the character at the beginning.
    have hlast : c ∈ (text.dropWhile isBlank).reverse.getLast? := by
      rw [← List.takeWhile_append_dropWhile (p := isBlank) (l := (text.dropWhile isBlank).reverse),
        List.getLast?_append, hc, Option.some_or]
      rfl
    rw [List.getLast?_reverse] at hlast
    exact isBlank_of_mem_head?_dropWhile hlast
  last := by
    intro c hc
    rw [trimChars, List.getLast?_reverse] at hc
    exact isBlank_of_mem_head?_dropWhile hc

/-- What trimming drops is white space. -/
theorem exists_eq_append_trimChars (text : List Char) : ∃ before after,
    before.all isBlank = true ∧ after.all isBlank = true ∧
      text = before ++ trimChars text ++ after := by
  refine ⟨text.takeWhile isBlank, ((text.dropWhile isBlank).reverse.takeWhile isBlank).reverse,
    List.all_takeWhile, ?_, ?_⟩
  · rw [List.all_reverse, List.all_takeWhile]
  · rw [trimChars, List.append_assoc, ← List.reverse_append, List.takeWhile_append_dropWhile,
      List.reverse_reverse, List.takeWhile_append_dropWhile]

end ClusterKeeper.Text
