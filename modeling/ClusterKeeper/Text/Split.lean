/-!
Splitting a text at delimiters.

The pieces are those between delimiters, empty ones included, so there is one piece more than there
are delimiters. Splitting a text at a delimiter in its middle splits both sides on their own
(`pieces_append_cons`).
-/

namespace ClusterKeeper.Text

/-- The pieces of a text between the characters that pass the test. -/
def pieces (delimits : Char → Bool) : List Char → List (List Char)
  | [] => [[]]
  | c :: rest =>
      if delimits c then [] :: pieces delimits rest
      else match pieces delimits rest with
        | [] => [[c]]
        | first :: others => (c :: first) :: others

theorem pieces_ne_nil (delimits : Char → Bool) (text : List Char) : pieces delimits text ≠ [] := by
  cases text with
  | nil => simp [pieces]
  | cons c rest =>
      unfold pieces
      split
      · simp
      · split <;> simp

theorem pieces_append_cons {delimits : Char → Bool} {d : Char} (h : delimits d = true)
    (left right : List Char) :
    pieces delimits (left ++ d :: right) = pieces delimits left ++ pieces delimits right := by
  induction left with
  | nil => simp [pieces, h]
  | cons c rest ih =>
      by_cases hc : delimits c = true
      · simp [pieces, hc, ih]
      · simp only [List.cons_append, pieces, hc, ih]
        cases hp : pieces delimits rest with
        | nil => exact absurd hp (pieces_ne_nil delimits rest)
        | cons first others => simp

theorem pieces_eq_singleton {delimits : Char → Bool} {text : List Char}
    (h : ∀ c ∈ text, delimits c = false) : pieces delimits text = [text] := by
  induction text with
  | nil => rfl
  | cons c rest ih =>
      have hc := h c List.mem_cons_self
      have hrest := ih fun d hd => h d (List.mem_cons_of_mem c hd)
      simp [pieces, hc, hrest]

/-- No piece holds a delimiter. -/
theorem delimits_of_mem_pieces {delimits : Char → Bool} {text piece : List Char}
    (h : piece ∈ pieces delimits text) : ∀ c ∈ piece, delimits c = false := by
  induction text generalizing piece with
  | nil =>
      simp only [pieces, List.mem_singleton] at h
      simp [h]
  | cons c rest ih =>
      unfold pieces at h
      split at h
      · rcases List.mem_cons.mp h with rfl | h
        · simp
        · exact ih h
      · next hc =>
          have hc : delimits c = false := by simpa using hc
          split at h
          · rcases List.mem_singleton.mp h with rfl
            simpa using hc
          · next first others hp =>
              rcases List.mem_cons.mp h with rfl | h
              · intro d hd
                rcases List.mem_cons.mp hd with rfl | hd
                · exact hc
                · exact ih (hp ▸ List.mem_cons_self) d hd
              · exact ih (hp ▸ List.mem_cons_of_mem first h)

/-- The first piece is the whole text, or ends at the delimiter behind which the others are. -/
theorem eq_of_pieces_eq_cons {delimits : Char → Bool} {text first : List Char}
    {others : List (List Char)} (h : pieces delimits text = first :: others) :
    (text = first ∧ others = []) ∨
      ∃ d right, delimits d = true ∧ text = first ++ d :: right ∧
        pieces delimits right = others := by
  induction text generalizing first with
  | nil =>
      obtain ⟨rfl, rfl⟩ := List.cons.inj h
      exact Or.inl ⟨rfl, rfl⟩
  | cons c rest ih =>
      unfold pieces at h
      split at h
      · next hc =>
          obtain ⟨rfl, hrest⟩ := List.cons.inj h
          exact Or.inr ⟨c, rest, hc, rfl, hrest⟩
      · split at h
        · next hnil => exact absurd hnil (pieces_ne_nil delimits rest)
        · next front others' hrest =>
            obtain ⟨rfl, rfl⟩ := List.cons.inj h
            rcases ih hrest with ⟨rfl, rfl⟩ | ⟨d, right, hd, rfl, hright⟩
            · exact Or.inl ⟨rfl, rfl⟩
            · exact Or.inr ⟨d, right, hd, rfl, hright⟩

/-- There are two pieces where there is one delimiter. -/
theorem pieces_eq_pair_iff {delimits : Char → Bool} {text first second : List Char} :
    pieces delimits text = [first, second] ↔
      ∃ d, delimits d = true ∧ text = first ++ d :: second ∧
        (∀ c ∈ first, delimits c = false) ∧ ∀ c ∈ second, delimits c = false := by
  constructor
  · intro h
    have hfirst := delimits_of_mem_pieces (h ▸ List.mem_cons_self)
    have hsecond := delimits_of_mem_pieces (h ▸ List.mem_cons_of_mem first List.mem_cons_self)
    rcases eq_of_pieces_eq_cons h with ⟨_, hnil⟩ | ⟨d, right, hd, rfl, hright⟩
    · cases hnil
    · rcases eq_of_pieces_eq_cons hright with ⟨rfl, _⟩ | ⟨_, _, _, _, hnone⟩
      · exact ⟨d, hd, rfl, hfirst, hsecond⟩
      · exact absurd hnone (pieces_ne_nil delimits _)
  · rintro ⟨d, hd, rfl, hfirst, hsecond⟩
    rw [pieces_append_cons hd, pieces_eq_singleton hfirst, pieces_eq_singleton hsecond]
    rfl

end ClusterKeeper.Text
