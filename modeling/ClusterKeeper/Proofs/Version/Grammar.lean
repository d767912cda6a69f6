import ClusterKeeper.Proofs.Text.Numeral
import ClusterKeeper.Version
/-!
Which texts are versions.

A version is spelled by two numerals with the one point of the text between them, neither for a
number of more than 32 bits. Any other text is turned down as it is.
-/

namespace ClusterKeeper.Version

open Text (pieces pieces_eq_pair_iff)
open Text.Numeral (Denotes max32 denotes_repr)

variable {text : String} {chars first second : List Char} {version : Version}

/-- The text consists of numerals for the two numbers, with a point between them. -/
structure Spells (text : String) (version : Version) : Prop where
  one_point : text.toList.count '.' = 1
  sides : ∃ first second, text.toList = first ++ '.' :: second ∧
    Denotes first version.major ∧ Denotes second version.minor
  major_lt : version.major < UInt32.size
  minor_lt : version.minor < UInt32.size

theorem lt_iff_le_max32 {number : Nat} : number < UInt32.size ↔ number ≤ max32 := by
  rw [max32, UInt32.size]
  omega

/-- A point between texts without one is the only one. -/
theorem pieces_point_eq_pair_iff : pieces (· == '.') chars = [first, second] ↔
    chars = first ++ '.' :: second ∧ '.' ∉ first ∧ '.' ∉ second := by
  have hfree : ∀ side : List Char, (∀ c ∈ side, (c == '.') = false) ↔ '.' ∉ side := by
    intro side
    simp only [beq_eq_false_iff_ne]
    exact ⟨fun h hpoint => h _ hpoint rfl, fun h c hc hpoint => h (hpoint ▸ hc)⟩
  rw [pieces_eq_pair_iff]
  constructor
  · rintro ⟨d, hd, hchars, hfirst, hsecond⟩
    obtain rfl : d = '.' := by simpa using hd
    exact ⟨hchars, (hfree first).mp hfirst, (hfree second).mp hsecond⟩
  · rintro ⟨hchars, hfirst, hsecond⟩
    exact ⟨'.', rfl, hchars, (hfree first).mpr hfirst, (hfree second).mpr hsecond⟩

/-- A version comes of two numbers, and of nothing less. -/
theorem ofNumbers_eq_ok_iff {major minor : Except Text.Numeral.Flaw Nat} :
    (do return ⟨← major.mapError .major, ← minor.mapError .minor⟩ : Except Flaw Version) =
      .ok version ↔ major = .ok version.major ∧ minor = .ok version.minor := by
  obtain ⟨a, b⟩ := version
  cases major with
  | error flaw => exact ⟨fun h => (by cases h), fun h => (by cases h.1)⟩
  | ok major =>
      cases minor with
      | error flaw => exact ⟨fun h => (by cases h), fun h => (by cases h.2)⟩
      | ok minor =>
          change Except.ok (Version.mk major minor) = .ok ⟨a, b⟩ ↔ _
          simp only [Except.ok.injEq, mk.injEq]

theorem readChars_eq_ok_iff : readChars chars = .ok version ↔
    ∃ first second, chars = first ++ '.' :: second ∧
      ('.' ∉ first ∧ Text.Numeral.readChars max32 first = .ok version.major) ∧
      '.' ∉ second ∧ Text.Numeral.readChars max32 second = .ok version.minor := by
  unfold readChars
  split
  · next first second hpieces =>
      rw [ofNumbers_eq_ok_iff]
      obtain ⟨hchars, hfirst, hsecond⟩ := pieces_point_eq_pair_iff.mp hpieces
      constructor
      · rintro ⟨hmajor, hminor⟩
        exact ⟨first, second, hchars, ⟨hfirst, hmajor⟩, hsecond, hminor⟩
      · rintro ⟨first', second', hchars', ⟨hfirst', hmajor⟩, hsecond', hminor⟩
        have hpieces' := pieces_point_eq_pair_iff.mpr ⟨hchars', hfirst', hsecond'⟩
        obtain ⟨rfl, hrest⟩ := List.cons.inj (hpieces.symm.trans hpieces')
        obtain ⟨rfl, -⟩ := List.cons.inj hrest
        exact ⟨hmajor, hminor⟩
  · next hother =>
      refine ⟨fun h => (by cases h), ?_⟩
      rintro ⟨first, second, hchars, ⟨hfirst, _⟩, hsecond, _⟩
      exact absurd (pieces_point_eq_pair_iff.mpr ⟨hchars, hfirst, hsecond⟩) (hother first second)

/-- The point between two numerals is the only one. -/
theorem spells_of_sides (htext : text.toList = first ++ '.' :: second)
    (hmajor : Denotes first version.major) (hminor : Denotes second version.minor)
    (hmajor_lt : version.major < UInt32.size) (hminor_lt : version.minor < UInt32.size) :
    Spells text version where
  one_point := by
    rw [htext, List.count_append, List.count_cons_self,
      List.count_eq_zero.mpr hmajor.point_not_mem, List.count_eq_zero.mpr hminor.point_not_mem]
  sides := ⟨first, second, htext, hmajor, hminor⟩
  major_lt := hmajor_lt
  minor_lt := hminor_lt

/-- What is read are exactly the versions that are spelled. -/
theorem read_eq_ok_iff : read text = .ok version ↔ Spells text version := by
  have hread : read text = .ok version ↔ readChars text.toList = .ok version := by
    rw [read]
    cases readChars text.toList with
    | ok found => exact ⟨fun h => (by cases h; rfl), fun h => (by cases h; rfl)⟩
    | error flaw => exact ⟨nofun, nofun⟩
  rw [hread, readChars_eq_ok_iff]
  simp only [Text.Numeral.readChars_eq_ok_iff, ← lt_iff_le_max32]
  constructor
  · rintro ⟨first, second, htext, ⟨_, hmajor, hmajor_lt⟩, _, hminor, hminor_lt⟩
    exact spells_of_sides htext hmajor hminor hmajor_lt hminor_lt
  · rintro ⟨_, ⟨first, second, htext, hmajor, hminor⟩, hmajor_lt, hminor_lt⟩
    exact ⟨first, second, htext, ⟨hmajor.point_not_mem, hmajor, hmajor_lt⟩,
      hminor.point_not_mem, hminor, hminor_lt⟩

/-- A text that is turned down is reported as it is. -/
theorem read_eq_ok_or_error (text : String) : (∃ version, read text = .ok version) ∨
    ∃ reason, read text = .error (.invalidVersion text reason) := by
  rw [read]
  cases readChars text.toList with
  | ok version => exact Or.inl ⟨version, rfl⟩
  | error flaw => exact Or.inr ⟨flaw.message, rfl⟩

/-- Two numbers of 32 bits, written with a point between them, spell a version. -/
theorem spells_numbers (major minor : UInt32) :
    Spells (toString major ++ "." ++ toString minor) ⟨major.toNat, minor.toNat⟩ := by
  have htext : (toString major ++ "." ++ toString minor).toList =
      major.toNat.repr.toList ++ '.' :: minor.toNat.repr.toList := by
    rw [String.toList_append, String.toList_append, List.append_assoc]
    rfl
  exact spells_of_sides htext (denotes_repr _) (denotes_repr _) major.toNat_lt minor.toNat_lt

/-- The versions that are read are exactly the texts of two numerals with one point between them,
for numbers of at most 32 bits. Any other text is turned down and reported as it is, and numbers
that are written with a point between them are read back. -/
theorem read_grammar (text : String) :
    (∀ version, read text = .ok version ↔ Spells text version) ∧
    ((∃ reason, read text = .error (.invalidVersion text reason)) ↔
      ¬ ∃ version, Spells text version) ∧
    ∀ major minor : UInt32, read (toString major ++ "." ++ toString minor) =
      .ok ⟨major.toNat, minor.toNat⟩ := by
  refine ⟨fun version => read_eq_ok_iff, ?_, fun major minor => ?_⟩
  · constructor
    · rintro ⟨reason, hreason⟩ ⟨version, hspells⟩
      cases hreason.symm.trans (read_eq_ok_iff.mpr hspells)
    · intro hnone
      rcases read_eq_ok_or_error text with ⟨version, hread⟩ | hrejected
      · exact absurd ⟨version, read_eq_ok_iff.mp hread⟩ hnone
      · exact hrejected
  · exact read_eq_ok_iff.mpr (spells_numbers major minor)

end ClusterKeeper.Version
