import ClusterKeeper.Proofs.Logic.Dialogue
/-!
Dialogues that go on alike where the answers are alike.

A likeness says for each question which two answers make no difference. Parallel dialogues ask the
same questions as long as no answer makes a difference, and come to ends that are related. So if two
machines give answers that are alike, and stay in states that are, both dialogues come to related
ends there.
-/

namespace ClusterKeeper.Dialogue

variable {Q : Type} {A : Q → Type} {α β γ δ ε σ τ : Type}

/-- For each question, which two answers are alike. -/
abbrev Likeness (Q : Type) (A : Q → Type) : Type := (q : Q) → A q → A q → Prop

/-- The dialogues ask the same questions while the answers are alike, and come to related ends. -/
inductive Parallel (alike : Likeness Q A) (rel : α → β → Prop) :
    Dialogue Q A α → Dialogue Q A β → Prop where
  | done {a b} : rel a b → Parallel alike rel (.done a) (.done b)
  | ask {q next other} :
      (∀ answer answer', alike q answer answer' →
        Parallel alike rel (next answer) (other answer')) →
      Parallel alike rel (.ask q next) (.ask q other)

namespace Parallel

variable {alike : Likeness Q A} {rel : α → β → Prop} {rel' : γ → δ → Prop}

theorem bind {p : Dialogue Q A α} {p' : Dialogue Q A β} {f : α → Dialogue Q A γ}
    {f' : β → Dialogue Q A δ} (h : Parallel alike rel p p')
    (hnext : ∀ a b, rel a b → Parallel alike rel' (f a) (f' b)) :
    Parallel alike rel' (p >>= f) (p' >>= f') := by
  induction h with
  | done hends => exact hnext _ _ hends
  | ask _ ih => exact .ask fun answer answer' halike => ih answer answer' halike

/-- A dialogue goes alike with itself if no two answers to any of its questions are alike. -/
theorem of_only {p : Dialogue Q A α} (h : p.Only fun q => ∀ x y, alike q x y → x = y) :
    Parallel alike Eq p p := by
  induction p with
  | done a => exact .done rfl
  | ask q next ih =>
      refine .ask fun answer answer' halike => ?_
      rw [← h.1 answer answer' halike]
      exact ih answer (h.2 answer)

/-- Where machines answer alike, parallel dialogues come to related ends in related states. -/
theorem run {respond : (q : Q) → σ → A q × σ} {respond' : (q : Q) → τ → A q × τ}
    {same : σ → τ → Prop}
    (hrespond : ∀ q s t, same s t → alike q (respond q s).1 (respond' q t).1 ∧
      same (respond q s).2 (respond' q t).2)
    {p : Dialogue Q A α} {p' : Dialogue Q A β} (h : Parallel alike rel p p') {s : σ} {t : τ}
    (hsame : same s t) :
    rel (p.run respond s).1 (p'.run respond' t).1 ∧
      same (p.run respond s).2 (p'.run respond' t).2 := by
  induction h generalizing s t with
  | done hends => exact ⟨hends, hsame⟩
  | ask _ ih =>
      obtain ⟨halike, hsame'⟩ := hrespond _ s t hsame
      exact ih _ _ halike hsame'

end Parallel

/-- Both end well and are related, or both end in the same fault. -/
inductive BothEnd (rel : α → β → Prop) : Except ε α → Except ε β → Prop where
  | ok {a b} : rel a b → BothEnd rel (.ok a) (.ok b)
  | error {e} : BothEnd rel (.error e) (.error e)

theorem bothEnd_eq {r : Except ε α} {s : Except ε α} : BothEnd Eq r s ↔ r = s := by
  constructor
  · rintro (⟨rfl⟩ | _) <;> rfl
  · rintro rfl
    cases r with
    | ok a => exact .ok rfl
    | error e => exact .error

variable {alike : Likeness Q A} {rel : α → β → Prop} {rel' : γ → δ → Prop}

theorem Parallel.run_bind {p : ExceptT ε (Dialogue Q A) α} {p' : ExceptT ε (Dialogue Q A) β}
    {f : α → ExceptT ε (Dialogue Q A) γ} {f' : β → ExceptT ε (Dialogue Q A) δ}
    (h : Parallel alike (BothEnd rel) p.run p'.run)
    (hnext : ∀ a b, rel a b → Parallel alike (BothEnd rel') (f a).run (f' b).run) :
    Parallel alike (BothEnd rel') (p >>= f).run (p' >>= f').run := by
  rw [ExceptT.run_bind, ExceptT.run_bind]
  refine h.bind fun r s hends => ?_
  cases hends with
  | ok hrel => exact hnext _ _ hrel
  | error => exact .done .error

theorem Parallel.mono {weak : α → β → Prop} (himp : ∀ a b, rel a b → weak a b)
    {p : Dialogue Q A α} {p' : Dialogue Q A β} (h : Parallel alike rel p p') :
    Parallel alike weak p p' := by
  induction h with
  | done hends => exact .done (himp _ _ hends)
  | ask _ ih => exact .ask ih

end ClusterKeeper.Dialogue
