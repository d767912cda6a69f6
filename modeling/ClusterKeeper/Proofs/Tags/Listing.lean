import ClusterKeeper.Proofs.Text.Trim
import ClusterKeeper.Tags
/-!
How a text lists tags.

Tags are joined by separators, which are made of delimiters and white space and have at least one
delimiter; such filler may also stand before and after them. Reading a text finds exactly the tags
that it lists, so every text lists the tags of one list.
-/

namespace ClusterKeeper.Tags

open Text (pieces isBlank trimChars IsTrimmed)

variable {d : Char} {text left right filler tag : List Char} {tags others : List (List Char)}

/-- The characters that end a tag: the comma and the two of line ends. -/
def IsDelimiter (c : Char) : Prop := c = ',' ∨ c = '\r' ∨ c = '\n'

theorem separates_iff {c : Char} : separates c = true ↔ IsDelimiter c := by
  simp [separates, IsDelimiter, or_assoc]

theorem separates_eq_false_iff {c : Char} : separates c = false ↔ ¬ IsDelimiter c := by
  rw [← separates_iff, Bool.not_eq_true]

/-- A tag as it can stand in a text. -/
structure IsToken (tag : List Char) : Prop where
  ne_nil : tag ≠ []
  undelimited : ∀ c ∈ tag, ¬ IsDelimiter c
  trimmed : IsTrimmed tag

/-- Delimiters and white space. -/
def IsFiller (text : List Char) : Prop := ∀ c ∈ text, IsDelimiter c ∨ isBlank c = true

/-- What can stand between two tags. -/
structure IsSeparator (text : List Char) : Prop where
  isFiller : IsFiller text
  delimiter : ∃ c ∈ text, IsDelimiter c

/-- The text is made of the tags in order, with separators between them. -/
inductive Joins : List (List Char) → List Char → Prop where
  | none : Joins [] []
  | one (tag : List Char) : Joins [tag] tag
  | cons {first second separator rest : List Char} {others : List (List Char)} :
      IsSeparator separator → Joins (second :: others) rest →
      Joins (first :: second :: others) (first ++ separator ++ rest)

/-- The text lists the tags, maybe between filler. -/
structure Lists (text : List Char) (tags : List (List Char)) : Prop where
  isToken : ∀ tag ∈ tags, IsToken tag
  joined : ∃ before joined after, IsFiller before ∧ IsFiller after ∧ Joins tags joined ∧
    text = before ++ joined ++ after

/-- At a delimiter a text is read in two parts. -/
theorem ofChars_append_cons (hd : IsDelimiter d) (left right : List Char) :
    ofChars (left ++ d :: right) = ofChars left ++ ofChars right := by
  rw [ofChars, Text.pieces_append_cons (separates_iff.mpr hd), List.map_append,
    List.filter_append]
  rfl

/-- A text without delimiters has one tag at most. -/
theorem ofChars_of_undelimited (h : ∀ c ∈ text, ¬ IsDelimiter c) :
    ofChars text = [trimChars text].filter fun tag => !tag.isEmpty := by
  rw [ofChars, Text.pieces_eq_singleton fun c hc => separates_eq_false_iff.mpr (h c hc)]
  rfl

theorem ofChars_nil : ofChars [] = [] := rfl

/-- White space before a text is not read. -/
theorem ofChars_blank_cons {c : Char} (hc : isBlank c = true) (text : List Char) :
    ofChars (c :: text) = ofChars text := by
  by_cases hseparates : separates c = true
  · exact ofChars_append_cons (separates_iff.mp hseparates) [] text
  · have htrim : ∀ first : List Char, trimChars (c :: first) = trimChars first := by
      intro first
      rw [trimChars, List.dropWhile_cons_of_pos hc, trimChars]
    rw [ofChars, ofChars, pieces, if_neg hseparates]
    cases pieces separates text with
    | nil => simp [htrim]; rfl
    | cons first others => simp [htrim]

/-- Filler before a text is not read. -/
theorem ofChars_filler_append (hfiller : IsFiller filler) (text : List Char) :
    ofChars (filler ++ text) = ofChars text := by
  induction filler with
  | nil => rfl
  | cons c rest ih =>
      obtain ⟨hc, hrest⟩ := List.forall_mem_cons.mp hfiller
      rw [← ih hrest, List.cons_append]
      rcases hc with hdelimiter | hblank
      · exact ofChars_append_cons hdelimiter [] (rest ++ text)
      · exact ofChars_blank_cons hblank (rest ++ text)

theorem ofChars_of_isFiller (hfiller : IsFiller filler) : ofChars filler = [] := by
  rw [← List.append_nil filler, ofChars_filler_append hfiller, ofChars_nil]

/-- Filler is white space up to its first delimiter. -/
theorem IsFiller.eq_append (h : IsFiller filler) : ∃ blanks rest,
    filler = blanks ++ rest ∧ blanks.all isBlank = true ∧ (∀ c ∈ blanks, ¬ IsDelimiter c) ∧
      (rest = [] ∨ ∃ d behind, IsDelimiter d ∧ rest = d :: behind ∧ IsFiller behind) := by
  induction filler with
  | nil => exact ⟨[], [], rfl, rfl, fun _ hc => absurd hc List.not_mem_nil, Or.inl rfl⟩
  | cons c others ih =>
      obtain ⟨hc, hothers⟩ := List.forall_mem_cons.mp h
      by_cases hdelimiter : IsDelimiter c
      · exact ⟨[], c :: others, rfl, rfl, fun _ hc => absurd hc List.not_mem_nil,
          Or.inr ⟨c, others, hdelimiter, rfl, hothers⟩⟩
      · obtain ⟨blanks, rest, rfl, hblanks, hfree, hrest⟩ := ih hothers
        have hblank := hc.resolve_left hdelimiter
        exact ⟨c :: blanks, rest, rfl, by rw [List.all_cons, hblank, hblanks]; rfl,
          List.forall_mem_cons.mpr ⟨hdelimiter, hfree⟩, hrest⟩

/-- A token between white space is read. -/
theorem IsToken.ofChars_append_blanks (h : IsToken tag) {blanks : List Char}
    (hblanks : blanks.all isBlank = true) (hfree : ∀ c ∈ blanks, ¬ IsDelimiter c) :
    ofChars (tag ++ blanks) = [tag] := by
  have hundelimited := List.forall_mem_append.mpr ⟨h.undelimited, hfree⟩
  have htrim : trimChars ([] ++ tag ++ blanks) = tag :=
    Text.trimChars_append rfl h.trimmed hblanks
  rw [List.nil_append] at htrim
  rw [ofChars_of_undelimited hundelimited, htrim]
  simp [h.ne_nil]

/-- A token is read apart from what stands behind a separator. -/
theorem IsToken.ofChars_append_separator (h : IsToken tag) (hfiller : IsFiller filler)
    (hrest : right = [] ∨ ∃ c ∈ filler, IsDelimiter c) :
    ofChars (tag ++ filler ++ right) = tag :: ofChars right := by
  obtain ⟨blanks, rest, rfl, hblanks, hfree, rfl | ⟨d, behind, hd, rfl, hbehind⟩⟩ :=
    hfiller.eq_append
  · rw [List.append_nil] at hrest ⊢
    have hnone : ¬ ∃ c ∈ blanks, IsDelimiter c := fun ⟨c, hc, hdelimiter⟩ =>
      hfree c hc hdelimiter
    obtain rfl := hrest.resolve_right hnone
    rw [List.append_nil, h.ofChars_append_blanks hblanks hfree, ofChars_nil]
  · have hsplit : tag ++ (blanks ++ d :: behind) ++ right =
        (tag ++ blanks) ++ d :: (behind ++ right) := by simp
    rw [hsplit, ofChars_append_cons hd, h.ofChars_append_blanks hblanks hfree,
      ofChars_filler_append hbehind]
    rfl

/-- The tags that are joined are read, whatever filler stands behind them. -/
theorem Joins.ofChars_append (h : Joins tags text) (htokens : ∀ tag ∈ tags, IsToken tag)
    (hfiller : IsFiller filler) : ofChars (text ++ filler) = tags := by
  induction h with
  | none => exact ofChars_of_isFiller hfiller
  | one tag =>
      have htag := htokens tag List.mem_cons_self
      have hread : ofChars (tag ++ filler ++ []) = tag :: ofChars [] :=
        htag.ofChars_append_separator hfiller (Or.inl rfl)
      rwa [List.append_nil, ofChars_nil] at hread
  | cons hseparator _ ih =>
      obtain ⟨hfirst, hothers⟩ := List.forall_mem_cons.mp htokens
      rw [List.append_assoc,
        hfirst.ofChars_append_separator hseparator.isFiller (Or.inr hseparator.delimiter),
        ih hothers]

theorem Lists.ofChars_eq (h : Lists text tags) : ofChars text = tags := by
  obtain ⟨before, joined, after, hbefore, hafter, hjoins, rfl⟩ := h.joined
  rw [List.append_assoc, ofChars_filler_append hbefore, hjoins.ofChars_append h.isToken hafter]

theorem isFiller_of_all_isBlank (h : text.all isBlank = true) : IsFiller text :=
  fun c hc => Or.inr (List.all_eq_true.mp h c hc)

theorem IsFiller.append (hleft : IsFiller left) (hright : IsFiller right) :
    IsFiller (left ++ right) := List.forall_mem_append.mpr ⟨hleft, hright⟩

theorem IsFiller.cons (hd : IsDelimiter d) (h : IsFiller text) : IsFiller (d :: text) :=
  List.forall_mem_cons.mpr ⟨Or.inl hd, h⟩

theorem Joins.append {separator : List Char} (h : Joins tags left) (htags : tags ≠ [])
    (hseparator : IsSeparator separator) (hright : Joins others right) (hothers : others ≠ []) :
    Joins (tags ++ others) (left ++ separator ++ right) := by
  induction h with
  | none => exact absurd rfl htags
  | one tag =>
      cases others with
      | nil => exact absurd rfl hothers
      | cons second others => exact .cons hseparator hright
  | @cons first second between rest more hbetween _ ih =>
      have hjoins : Joins (first :: second :: (more ++ others))
          (first ++ between ++ (rest ++ separator ++ right)) :=
        .cons hbetween (ih (List.cons_ne_nil second more))
      simpa only [List.append_assoc, List.cons_append] using hjoins

/-- What two texts list is listed by both with a delimiter between them. -/
theorem Lists.append_cons (h : Lists left tags) (hd : IsDelimiter d)
    (hright : Lists right others) : Lists (left ++ d :: right) (tags ++ others) := by
  obtain ⟨before, joined, after, hbefore, hafter, hjoins, rfl⟩ := h.joined
  obtain ⟨before', joined', after', hbefore', hafter', hjoins', rfl⟩ := hright.joined
  have hbetween : IsFiller (after ++ d :: before') := hafter.append (hbefore'.cons hd)
  refine ⟨List.forall_mem_append.mpr ⟨h.isToken, hright.isToken⟩, ?_⟩
  by_cases htags : tags = []
  · subst htags
    cases hjoins
    exact ⟨before ++ (after ++ d :: before'), joined', after', hbefore.append hbetween, hafter',
      hjoins', by simp⟩
  · by_cases hothers : others = []
    · subst hothers
      cases hjoins'
      refine ⟨before, joined, (after ++ d :: before') ++ after', hbefore, hbetween.append hafter',
        ?_, by simp⟩
      rwa [List.append_nil]
    · have hseparator : IsSeparator (after ++ d :: before') :=
        ⟨hbetween, d, List.mem_append_right _ List.mem_cons_self, hd⟩
      exact ⟨before, joined ++ (after ++ d :: before') ++ joined', after', hbefore, hafter',
        hjoins.append htags hseparator hjoins' hothers, by simp⟩

/-- A text without delimiters lists what is left of it after trimming, if there is anything. -/
theorem lists_of_undelimited (h : ∀ c ∈ text, ¬ IsDelimiter c) :
    Lists text (ofChars text) := by
  rw [ofChars_of_undelimited h]
  obtain ⟨before, after, hbefore, hafter, htext⟩ := Text.exists_eq_append_trimChars text
  have hbefore := isFiller_of_all_isBlank hbefore
  have hafter := isFiller_of_all_isBlank hafter
  cases htrim : trimChars text with
  | nil =>
      rw [htrim] at htext
      exact ⟨fun _ htag => absurd htag List.not_mem_nil,
        before, [], after, hbefore, hafter, .none, htext⟩
  | cons c rest =>
      have htoken : IsToken (trimChars text) := by
        refine ⟨htrim ▸ List.cons_ne_nil c rest, fun e he => h e ?_, Text.isTrimmed_trimChars text⟩
        rw [htext]
        exact List.mem_append_left _ (List.mem_append_right _ he)
      rw [htrim] at htext htoken
      exact ⟨List.forall_mem_singleton.mpr htoken,
        before, c :: rest, after, hbefore, hafter, .one _, htext⟩

theorem lists_ofChars (text : List Char) : Lists text (ofChars text) := by
  generalize hpieces : pieces separates text = found
  induction found generalizing text with
  | nil => exact absurd hpieces (Text.pieces_ne_nil separates text)
  | cons first others ih =>
      have hfree := Text.delimits_of_mem_pieces (hpieces ▸ List.mem_cons_self)
      have hfirst : ∀ c ∈ first, ¬ IsDelimiter c :=
        fun c hc => separates_eq_false_iff.mp (hfree c hc)
      rcases Text.eq_of_pieces_eq_cons hpieces with ⟨rfl, _⟩ | ⟨d, right, hd, rfl, hright⟩
      · exact lists_of_undelimited hfirst
      · have hd := separates_iff.mp hd
        rw [ofChars_append_cons hd]
        exact (lists_of_undelimited hfirst).append_cons hd (ih right hright)

theorem map_toList_ofText (text : String) :
    (ofText text).map String.toList = ofChars text.toList := by
  rw [ofText, List.map_map]
  exact (List.map_congr_left fun tag _ => String.toList_ofList).trans (List.map_id _)

theorem ofText_eq_iff {text : String} {tags : List String} :
    ofText text = tags ↔ Lists text.toList (tags.map String.toList) := by
  constructor
  · rintro rfl
    rw [map_toList_ofText]
    exact lists_ofChars text.toList
  · intro h
    rw [← List.map_inj_right fun _ _ heq => String.toList_inj.mp heq, map_toList_ofText]
    exact h.ofChars_eq

/-- The tags in a text are exactly those that it lists: tokens joined by separators, between filler.
So every tag that is read is a token, and at a delimiter a text is read in two parts. -/
theorem tags_listed (text : String) :
    (∀ tags, ofText text = tags ↔ Lists text.toList (tags.map String.toList)) ∧
    (∀ tag ∈ ofText text, IsToken tag.toList) ∧
    ∀ (left right : String) (d : Char), IsDelimiter d →
      ofText (left ++ String.singleton d ++ right) = ofText left ++ ofText right := by
  refine ⟨fun tags => ofText_eq_iff, fun tag htag => ?_, fun left right d hd => ?_⟩
  · have hlists := ofText_eq_iff.mp (Eq.refl (ofText text))
    exact hlists.isToken _ (List.mem_map_of_mem htag)
  · have hsplit : (left ++ String.singleton d ++ right).toList =
        left.toList ++ d :: right.toList := by
      rw [String.toList_append, String.toList_append, List.append_assoc,
        String.toList_singleton]
      rfl
    rw [ofText, hsplit, ofChars_append_cons hd, List.map_append]
    rfl

/-- Tags with white space in them, one of them twice, between filler of all kinds. -/
def motleyText : String := " ,\r\n eu west \t,\u3000\n x,\r\rx,,eu west\n\n"

/-- The tags come out in their order, and a text in front adds its own before them. -/
theorem motley_text_listed :
    Lists motleyText.toList (["eu west", "x", "x", "eu west"].map String.toList) ∧
      IsToken "eu west".toList ∧ IsDelimiter '\r' ∧
      ofText ("a, b" ++ String.singleton '\r' ++ motleyText) =
        ["a", "b", "eu west", "x", "x", "eu west"] := by
  obtain ⟨hlisted, htoken, hsplit⟩ := tags_listed motleyText
  have hread : ofText motleyText = ["eu west", "x", "x", "eu west"] := by decide +kernel
  have hmember : "eu west" ∈ ofText motleyText := hread ▸ List.mem_cons_self
  have hdelimiter : IsDelimiter '\r' := Or.inr (Or.inl rfl)
  refine ⟨(hlisted _).mp hread, htoken _ hmember, hdelimiter, ?_⟩
  have hfront : ofText "a, b" = ["a", "b"] := by decide +kernel
  rw [hsplit "a, b" motleyText '\r' hdelimiter, hread, hfront]
  rfl

end ClusterKeeper.Tags
