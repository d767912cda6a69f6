import Mathlib.Data.List.TakeWhile
import ClusterKeeper.Data.Json.Printer
import ClusterKeeper.Data.Json.Reader
/-!
JSON texts that were written are read back.

The text of a value has tokens whatever was read before it: its last word may still be open to more
characters, and a mark behind it or the end of the text closes it. The tokens of a value leave the
reader behind that value, in whatever frame it stands.
-/

namespace ClusterKeeper

/-- A value of the kinds that are written: all but numbers that are no integers of a type, and
literals that stand for no value. -/
inductive Value.IsPlain : Value → Prop
  | null : IsPlain .null
  | bool (b : Bool) : IsPlain (.bool b)
  | int {n : Int} (hwide : Json.isWide n = true) : IsPlain (.int n)
  | text (s : String) : IsPlain (.text s)
  | list {items : List Value} (h : ∀ item ∈ items, IsPlain item) : IsPlain (.list items)
  | object {members : List (String × Value)} (h : ∀ m ∈ members, IsPlain m.2) :
      IsPlain (.object members)

namespace Json

variable {soFar tokens tokens' : List Token} {mode : Mode} {chars text rest : List Char}
  {token : Token} {v : Value} {c : Char}

theorem scan?_eq : scan? (soFar, mode) c =
    (step? mode c).map fun read => (read.1.reverse ++ soFar, read.2) := by
  rw [scan?]
  cases step? mode c <;> rfl

/-- The lexer has those tokens, last first, of which the last one may still be open. -/
def Stands (tokens : List Token) : List Token × Mode → Prop
  | (soFar, .gap) => soFar = tokens
  | (soFar, .word chars) => ∃ v, word? chars.reverse = some v ∧ tokens = .scalar v :: soFar
  | _ => False

/-- The text has those tokens, whatever was read before it. -/
def Lexes (text : List Char) (tokens : List Token) : Prop :=
  ∀ soFar, ∃ state, text.foldlM scan? (soFar, .gap) = some state ∧
    Stands (tokens.reverse ++ soFar) state

theorem lexes_nil : Lexes [] [] := fun soFar => ⟨(soFar, .gap), rfl, rfl⟩

/-- A mark ends a word, and is a token itself. -/
theorem Stands.mark {state : List Token × Mode} (h : Stands tokens state)
    (hmark : begin? c = some ([token], .gap)) (hword : isWordChar c = false) :
    scan? state c = some (token :: tokens, .gap) := by
  obtain ⟨soFar, mode⟩ := state
  cases mode with
  | gap =>
      obtain rfl : soFar = tokens := h
      simp [scan?_eq, step?, hmark]
  | word chars =>
      obtain ⟨v, hv, rfl⟩ := h
      simp [scan?_eq, step?, hword, hv, hmark]
  | _ => exact h.elim

theorem Lexes.mark (h : Lexes text tokens) (hmark : begin? c = some ([token], .gap))
    (hword : isWordChar c = false) (hrest : Lexes rest tokens') :
    Lexes (text ++ c :: rest) (tokens ++ token :: tokens') := by
  intro soFar
  obtain ⟨state, hscan, hstands⟩ := h soFar
  obtain ⟨last, hlast, hend⟩ := hrest (token :: (tokens.reverse ++ soFar))
  refine ⟨last, ?_, by simpa using hend⟩
  rw [List.foldlM_append, hscan]
  change (c :: rest).foldlM scan? state = some last
  rw [List.foldlM_cons, hstands.mark hmark hword]
  exact hlast

theorem tokens?_of_lexes (h : Lexes text tokens) : tokens? text = some tokens := by
  obtain ⟨⟨soFar, mode⟩, hscan, hstands⟩ := h []
  rw [List.append_nil] at hstands
  rw [tokens?, hscan]
  cases mode with
  | gap =>
      obtain rfl : soFar = tokens.reverse := hstands
      simp [finish?]
  | word chars =>
      obtain ⟨v, hv, htokens⟩ := hstands
      have hlist : tokens = soFar.reverse ++ [.scalar v] := by
        rw [← List.reverse_reverse tokens, htokens, List.reverse_cons]
      simp [finish?, hv, hlist]
  | _ => exact hstands.elim

/-- One character of a string is read back. -/
theorem foldlM_escapeChar (c : Char) :
    (escapeChar c).foldlM scan? (soFar, .string ⟨chars, none, false⟩) =
      some (soFar, .string ⟨c :: chars, none, false⟩) := by
  unfold escapeChar
  iterate 7
    split
    · next h =>
        subst h
        rfl
  split
  · next hcontrol =>
      -- A control character is written as a unit of four digits.
      have hhigh := Text.hexValue?_hexDigit (n := c.toNat / 16) (by omega)
      have hlow := Text.hexValue?_hexDigit (n := c.toNat % 16) (by omega)
      have hunit : c.toNat / 16 * 16 + c.toNat % 16 = c.toNat := Nat.div_add_mod' _ _
      have hzero : Text.hexValue? '0' = some 0 := by decide
      have hpush : (Partial.pushUnit ⟨chars, none, false⟩ c.toNat) = ⟨c :: chars, none, false⟩ := by
        have hlittle : ¬ (0xD800 ≤ c.toNat ∧ c.toNat < 0xDC00) := by omega
        have hlittle' : ¬ (0xDC00 ≤ c.toNat ∧ c.toNat < 0xE000) := by omega
        simp [Partial.pushUnit, hlittle, hlittle', Partial.push, Char.ofNat_toNat]
      simp [scan?_eq, step?, hzero, hhigh, hlow, hunit, hpush]
  · next hquote hbackslash _ _ _ _ _ hcontrol =>
      simp [scan?_eq, step?, hquote, hbackslash, hcontrol, Partial.push]

theorem foldlM_escapeChars (body : List Char) :
    (body.flatMap escapeChar).foldlM scan? (soFar, .string ⟨chars, none, false⟩) =
      some (soFar, .string ⟨body.reverse ++ chars, none, false⟩) := by
  induction body generalizing chars with
  | nil => rfl
  | cons c rest ih =>
      rw [List.flatMap_cons, List.foldlM_append, foldlM_escapeChar]
      simpa using @ih (c :: chars)

theorem lexes_escape (s : String) : Lexes (escape s).toList [.text (some s)] := by
  intro soFar
  have hopen : scan? (soFar, .gap) '"' = some (soFar, .string ⟨[], none, false⟩) := rfl
  have hclose : scan? (soFar, .string ⟨s.toList.reverse, none, false⟩) '"' =
      some (.text (some s) :: soFar, .gap) := by
    simp [scan?_eq, step?, Partial.finish]
  refine ⟨(.text (some s) :: soFar, .gap), ?_, rfl⟩
  have htext : (escape s).toList = '"' :: (s.toList.flatMap escapeChar ++ ['"']) := by
    simp [escape]
  rw [htext, List.foldlM_cons, hopen]
  change (s.toList.flatMap escapeChar ++ ['"']).foldlM scan?
    (soFar, .string ⟨[], none, false⟩) = _
  rw [List.foldlM_append, foldlM_escapeChars, List.append_nil]
  change ['"'].foldlM scan? (soFar, .string ⟨s.toList.reverse, none, false⟩) = _
  rw [List.foldlM_cons, hclose]
  rfl

theorem begin?_of_isWordChar (h : isWordChar c = true) : begin? c = some ([], .word [c]) := by
  have hne : ∀ mark : Char, isWordChar mark = false → c ≠ mark := by
    rintro mark hmark rfl
    rw [h] at hmark
    cases hmark
  simp [begin?, h, hne ' ' (by decide), hne '\t' (by decide), hne '\n' (by decide),
    hne '\r' (by decide), hne '[' (by decide), hne ']' (by decide), hne '\x7b' (by decide),
    hne '\x7d' (by decide), hne ',' (by decide), hne ':' (by decide), hne '"' (by decide)]

theorem foldlM_wordChars (h : ∀ c ∈ text, isWordChar c = true) :
    text.foldlM scan? (soFar, .word chars) = some (soFar, .word (text.reverse ++ chars)) := by
  induction text generalizing chars with
  | nil => rfl
  | cons c rest ih =>
      obtain ⟨hc, hrest⟩ := List.forall_mem_cons.mp h
      have hstep : scan? (soFar, .word chars) c = some (soFar, .word (c :: chars)) := by
        simp [scan?_eq, step?, hc]
      rw [List.foldlM_cons, hstep]
      simpa using @ih (c :: chars) hrest

theorem lexes_word (hchars : ∀ c ∈ text, isWordChar c = true) (hword : word? text = some v) :
    Lexes text [.scalar v] := by
  cases text with
  | nil => cases hword
  | cons c rest =>
      obtain ⟨hc, hrest⟩ := List.forall_mem_cons.mp hchars
      intro soFar
      refine ⟨(soFar, .word (rest.reverse ++ [c])), ?_, v, by simpa using hword, rfl⟩
      have hstep : scan? (soFar, .gap) c = some (soFar, .word [c]) := by
        simp [scan?_eq, step?, begin?_of_isWordChar hc]
      rw [List.foldlM_cons, hstep]
      exact foldlM_wordChars hrest

theorem isWordChar_of_isDigit (h : c.isDigit = true) : isWordChar c = true := by
  simp [isWordChar, Char.isAlphanum, h]

theorem ne_of_isDigit (h : c.isDigit = true) (mark : Char) (hmark : mark.isDigit = false) :
    c ≠ mark := by
  rintro rfl
  rw [h] at hmark
  cases hmark

/-- The digits of a number spell it. -/
theorem numberOf_toDigits (n : Nat) : numberOf (Nat.toDigits 10 n) = n := by
  have hcomm : numberOf (Nat.toDigits 10 n) = Nat.ofDigitChars 10 (Nat.toDigits 10 n) 0 := by
    rw [numberOf, Nat.ofDigitChars_eq_foldl]
    congr 1
    funext soFar c
    rw [Nat.mul_comm]
  rw [hcomm, Nat.ofDigitChars_ten_toDigits]

/-- Only zero begins with a zero. -/
theorem eq_zero_of_head?_toDigits {n : Nat} (h : (Nat.toDigits 10 n).head? = some '0') : n = 0 := by
  induction n using Nat.strong_induction_on with
  | _ n ih =>
      by_cases hlt : n < 10
      · rw [Nat.toDigits_of_lt_base hlt] at h
        revert h
        clear ih
        revert hlt n
        decide
      · rw [Nat.toDigits_of_base_le (by omega) (by omega), List.head?_append] at h
        have hfront : (Nat.toDigits 10 (n / 10)).head? = some '0' := by
          cases hdigits : Nat.toDigits 10 (n / 10) with
          | nil => exact absurd hdigits Nat.toDigits_ne_nil
          | cons c rest => simpa [hdigits] using h
        have hzero := ih (n / 10) (by omega) hfront
        omega

theorem number?_toDigits (negative : Bool) (n : Nat) :
    number? negative (Nat.toDigits 10 n) =
      let signed : Int := if negative then -(n : Int) else n
      if isWide signed && !(negative && signed == 0) then some (.int signed)
      else some (decimalOf negative (Nat.toDigits 10 n) 0) := by
  have hdigits : ∀ c ∈ Nat.toDigits 10 n, c.isDigit = true :=
    fun c hc => Nat.isDigit_of_mem_toDigits (by omega) (by omega) hc
  have hsplit : splitDigits (Nat.toDigits 10 n) = (Nat.toDigits 10 n, []) := by
    rw [splitDigits, List.takeWhile_eq_self_iff.mpr hdigits, List.dropWhile_eq_nil_iff.mpr hdigits]
  have hfront : ((Nat.toDigits 10 n).isEmpty ||
      ((Nat.toDigits 10 n).head? == some '0' && (Nat.toDigits 10 n).length != 1)) = false := by
    by_cases hhead : (Nat.toDigits 10 n).head? = some '0'
    · rw [eq_zero_of_head?_toDigits hhead]
      rfl
    · simp [hhead]
  simp only [number?, hsplit, hfront, numberOf_toDigits]
  rfl

theorem word?_toDigits (n : Nat) :
    word? (Nat.toDigits 10 n) = number? false (Nat.toDigits 10 n) := by
  have hdigits : ∀ c ∈ Nat.toDigits 10 n, c.isDigit = true :=
    fun c hc => Nat.isDigit_of_mem_toDigits (by omega) (by omega) hc
  cases htext : Nat.toDigits 10 n with
  | nil => exact absurd htext Nat.toDigits_ne_nil
  | cons c rest =>
      rw [htext] at hdigits
      have hc := hdigits c List.mem_cons_self
      have htrue := ne_of_isDigit hc 't' (by decide)
      have hfalse := ne_of_isDigit hc 'f' (by decide)
      have hnull := ne_of_isDigit hc 'n' (by decide)
      have hminus := ne_of_isDigit hc '-' (by decide)
      simp [word?, htrue, hfalse, hnull, hminus]

theorem word?_int {n : Int} (hwide : isWide n = true) :
    word? (toString n).toList = some (.int n) := by
  rw [Int.toString_eq_repr, Int.repr_eq_if]
  by_cases hn : 0 ≤ n
  · have hvalue : (n.toNat : Int) = n := Int.toNat_of_nonneg hn
    rw [if_pos hn, Nat.toList_repr, word?_toDigits, number?_toDigits]
    simp [hvalue, hwide]
  · have hvalue : -((-n).toNat : Int) = n := by omega
    have hzero : (n == 0) = false := by
      rw [beq_eq_false_iff_ne]
      omega
    have hword : ∀ digits, word? ('-' :: digits) = number? true digits := by
      intro digits
      simp [word?]
    rw [if_neg hn, String.toList_append, Nat.toList_repr]
    change word? ('-' :: Nat.toDigits 10 (-n).toNat) = _
    rw [hword, number?_toDigits]
    simp only [if_true, hvalue, hwide, hzero, Bool.and_false, Bool.not_false, Bool.and_self]

theorem isWordChar_of_mem_int {n : Int} (hc : c ∈ (toString n).toList) : isWordChar c = true := by
  have hdigit : ∀ {m : Nat}, c ∈ Nat.toDigits 10 m → isWordChar c = true := fun hm =>
    isWordChar_of_isDigit (Nat.isDigit_of_mem_toDigits (by omega) (by omega) hm)
  rw [Int.toString_eq_repr, Int.repr_eq_if] at hc
  split at hc
  · rw [Nat.toList_repr] at hc
    exact hdigit hc
  · rw [String.toList_append, Nat.toList_repr] at hc
    rcases List.mem_append.mp hc with hc | hc
    · obtain rfl : c = '-' := by simpa using hc
      rfl
    · exact hdigit hc

/-- Those tokens leave the reader behind the value, wherever it may begin. -/
def Parses (tokens : List Token) (v : Value) : Prop :=
  ∀ frames wanted, wanted = .value ∨ wanted = .itemOrClose →
    tokens.foldlM advance (.inside frames wanted) = place v frames

/-- The text is one of the value. -/
def Spells (text : List Char) (v : Value) : Prop :=
  ∃ tokens, Lexes text tokens ∧ Parses tokens v

theorem foldlM_singleton {reading : Reading} : [token].foldlM advance reading =
    advance reading token := by
  rw [List.foldlM_cons]
  cases advance reading token <;> rfl

theorem spells_word (hchars : ∀ c ∈ text, isWordChar c = true) (hword : word? text = some v) :
    Spells text v := by
  refine ⟨[.scalar v], lexes_word hchars hword, ?_⟩
  rintro frames wanted (rfl | rfl) <;> rw [foldlM_singleton] <;> rfl

theorem spells_escape (s : String) : Spells (escape s).toList (.text s) := by
  refine ⟨[.text (some s)], lexes_escape s, ?_⟩
  rintro frames wanted (rfl | rfl) <;> rw [foldlM_singleton] <;> rfl

/-- The texts of items with commas between them put the items into the innermost list. -/
theorem exists_tokens_items {items : List Value}
    (h : ∀ item ∈ items, Spells (write item).toList item) (hne : items ≠ []) :
    ∃ tokens, Lexes (joinCommas (writeItems items)).toList tokens ∧
      ∀ soFar frames (wanted : Wanted), wanted = .value ∨ wanted = .itemOrClose →
        tokens.foldlM advance (.inside (.list soFar :: frames) wanted) =
          some (.inside (.list (items.reverse ++ soFar) :: frames) .commaOrClose) := by
  induction items with
  | nil => exact absurd rfl hne
  | cons item rest ih =>
      obtain ⟨⟨tokens, hlexes, hparses⟩, hrest⟩ := List.forall_mem_cons.mp h
      have hfirst : ∀ soFar frames (wanted : Wanted), wanted = .value ∨ wanted = .itemOrClose →
          tokens.foldlM advance (.inside (.list soFar :: frames) wanted) =
            some (.inside (.list (item :: soFar) :: frames) .commaOrClose) :=
        fun soFar frames wanted hwanted => hparses _ wanted hwanted
      cases rest with
      | nil => exact ⟨tokens, hlexes, hfirst⟩
      | cons second others =>
          obtain ⟨tokens', hlexes', hparses'⟩ := ih hrest (by simp)
          refine ⟨tokens ++ .comma :: tokens', ?_, ?_⟩
          · have htext : (joinCommas (writeItems (item :: second :: others))).toList =
                (write item).toList ++ ',' ::
                  (joinCommas (writeItems (second :: others))).toList := by
              simp [writeItems, joinCommas]
            rw [htext]
            exact hlexes.mark rfl rfl hlexes'
          · intro soFar frames wanted hwanted
            rw [List.foldlM_append, hfirst soFar frames wanted hwanted]
            change (Token.comma :: tokens').foldlM advance
              (.inside (.list (item :: soFar) :: frames) .commaOrClose) = _
            rw [List.foldlM_cons]
            change tokens'.foldlM advance (.inside (.list (item :: soFar) :: frames) .value) = _
            rw [hparses' _ _ _ (.inl rfl)]
            simp

theorem spells_list {items : List Value} (h : ∀ item ∈ items, Spells (write item).toList item) :
    Spells (write (.list items)).toList (.list items) := by
  have htext : (write (.list items)).toList =
      [] ++ '[' :: ((joinCommas (writeItems items)).toList ++ ']' :: []) := by
    simp [write]
  rw [htext]
  by_cases hne : items = []
  · subst hne
    refine ⟨[.openList, .closeList], lexes_nil.mark rfl rfl (lexes_nil.mark rfl rfl lexes_nil), ?_⟩
    rintro frames wanted (rfl | rfl) <;> rw [List.foldlM_cons] <;>
      exact foldlM_singleton
  · obtain ⟨tokens, hlexes, hparses⟩ := exists_tokens_items h hne
    refine ⟨[] ++ .openList :: (tokens ++ .closeList :: []),
      lexes_nil.mark rfl rfl (hlexes.mark rfl rfl lexes_nil), ?_⟩
    have hinside : ∀ frames, (tokens ++ [Token.closeList]).foldlM advance
        (.inside (.list [] :: frames) .itemOrClose) = place (.list items) frames := by
      intro frames
      rw [List.foldlM_append, hparses [] frames _ (.inr rfl), List.append_nil]
      change [Token.closeList].foldlM advance
        (.inside (.list items.reverse :: frames) .commaOrClose) = _
      rw [foldlM_singleton]
      change place (.list items.reverse.reverse) frames = _
      rw [List.reverse_reverse]
    rintro frames wanted (rfl | rfl) <;> rw [List.nil_append, List.foldlM_cons] <;>
      exact hinside frames

/-- The texts of members with commas between them put the members into the innermost object. -/
theorem exists_tokens_members {members : List (String × Value)}
    (h : ∀ m ∈ members, Spells (write m.2).toList m.2) (hne : members ≠ []) :
    ∃ tokens, Lexes (joinCommas (writeMembers members)).toList tokens ∧
      ∀ soFar frames (wanted : Wanted), wanted = .name ∨ wanted = .nameOrClose →
        tokens.foldlM advance (.inside (.object soFar true :: frames) wanted) =
          some (.inside (.object (members.reverse ++ soFar) true :: frames) .commaOrClose) := by
  induction members with
  | nil => exact absurd rfl hne
  | cons m rest ih =>
      obtain ⟨name, v⟩ := m
      obtain ⟨⟨tokens, hlexes, hparses⟩, hrest⟩ := List.forall_mem_cons.mp h
      have hname : Lexes ((escape name).toList ++ ':' :: (write v).toList)
          ([.text (some name)] ++ .colon :: tokens) := (lexes_escape name).mark rfl rfl hlexes
      have hfirst : ∀ soFar frames (wanted : Wanted), wanted = .name ∨ wanted = .nameOrClose →
          ([Token.text (some name)] ++ .colon :: tokens).foldlM advance
              (.inside (.object soFar true :: frames) wanted) =
            some (.inside (.object ((name, v) :: soFar) true :: frames) .commaOrClose) := by
        rintro soFar frames wanted (rfl | rfl) <;>
          exact hparses (.member soFar true (some name) :: frames) .value (.inl rfl)
      cases rest with
      | nil =>
          refine ⟨_, ?_, hfirst⟩
          simpa [writeMembers, joinCommas] using hname
      | cons second others =>
          obtain ⟨tokens', hlexes', hparses'⟩ := ih hrest (by simp)
          refine ⟨([.text (some name)] ++ .colon :: tokens) ++ .comma :: tokens', ?_, ?_⟩
          · have htext : (joinCommas (writeMembers ((name, v) :: second :: others))).toList =
                ((escape name).toList ++ ':' :: (write v).toList) ++ ',' ::
                  (joinCommas (writeMembers (second :: others))).toList := by
              simp [writeMembers, joinCommas]
            rw [htext]
            exact hname.mark rfl rfl hlexes'
          · intro soFar frames wanted hwanted
            rw [List.foldlM_append, hfirst soFar frames wanted hwanted]
            change (Token.comma :: tokens').foldlM advance
              (.inside (.object ((name, v) :: soFar) true :: frames) .commaOrClose) = _
            rw [List.foldlM_cons]
            change tokens'.foldlM advance
              (.inside (.object ((name, v) :: soFar) true :: frames) .name) = _
            rw [hparses' _ _ _ (.inl rfl)]
            simp

theorem spells_object {members : List (String × Value)}
    (h : ∀ m ∈ members, Spells (write m.2).toList m.2) :
    Spells (write (.object members)).toList (.object members) := by
  have htext : (write (.object members)).toList =
      [] ++ '\x7b' :: ((joinCommas (writeMembers members)).toList ++ '\x7d' :: []) := by
    simp [write]
  rw [htext]
  by_cases hne : members = []
  · subst hne
    refine ⟨[.openObject, .closeObject],
      lexes_nil.mark rfl rfl (lexes_nil.mark rfl rfl lexes_nil), ?_⟩
    rintro frames wanted (rfl | rfl) <;> rw [List.foldlM_cons] <;>
      exact foldlM_singleton
  · obtain ⟨tokens, hlexes, hparses⟩ := exists_tokens_members h hne
    refine ⟨[] ++ .openObject :: (tokens ++ .closeObject :: []),
      lexes_nil.mark rfl rfl (hlexes.mark rfl rfl lexes_nil), ?_⟩
    have hinside : ∀ frames, (tokens ++ [Token.closeObject]).foldlM advance
        (.inside (.object [] true :: frames) .nameOrClose) = place (.object members) frames := by
      intro frames
      rw [List.foldlM_append, hparses [] frames _ (.inr rfl), List.append_nil]
      change [Token.closeObject].foldlM advance
        (.inside (.object members.reverse true :: frames) .commaOrClose) = _
      rw [foldlM_singleton]
      change place (.object members.reverse.reverse) frames = _
      rw [List.reverse_reverse]
    rintro frames wanted (rfl | rfl) <;> rw [List.nil_append, List.foldlM_cons] <;>
      exact hinside frames

theorem spells_write (h : v.IsPlain) : Spells (write v).toList v := by
  induction h with
  | null => exact spells_word (List.all_eq_true.mp rfl) rfl
  | bool b => cases b <;> exact spells_word (List.all_eq_true.mp rfl) rfl
  | int hwide => exact spells_word (fun _ hc => isWordChar_of_mem_int hc) (word?_int hwide)
  | text s => exact spells_escape s
  | list _ ih => exact spells_list ih
  | object _ ih => exact spells_object ih

/-- A value is read back from its text. -/
theorem read_write (h : v.IsPlain) : read (write v) = .ok v := by
  obtain ⟨tokens, hlexes, hparses⟩ := spells_write h
  have hread : readChars? (write v).toList = some v := by
    rw [readChars?, tokens?_of_lexes hlexes]
    change (tokens.foldlM advance (.inside [] .value) >>= _) = _
    rw [hparses [] .value (.inl rfl)]
    rfl
  rw [read, hread]

end Json

end ClusterKeeper
