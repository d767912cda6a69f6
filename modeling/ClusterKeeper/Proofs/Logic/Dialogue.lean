import ClusterKeeper.Dialogue
/-!
What a dialogue ensures, whoever answers.

Rules say for each question which answers and next states have to be reckoned with. A dialogue
ensures a postcondition from a state if that holds at the end of every way through its tree that
the rules leave open. `run_of_ensures` carries this over to every machine that obeys the rules.
-/

namespace ClusterKeeper

namespace Dialogue

variable {Q : Type} {A : Q → Type} {α β ε σ τ : Type}

/-- For each question, what must be true before it so that something is true of every possible
answer and next state. -/
abbrev Rules (Q : Type) (A : Q → Type) (σ : Type) : Type :=
  (q : Q) → (A q → σ → Prop) → σ → Prop

/-- Rules under which more is reckoned with where less is asked for. -/
def Rules.Mono (rules : Rules Q A σ) : Prop :=
  ∀ q (weak strong : A q → σ → Prop) s,
    (∀ answer s', strong answer s' → weak answer s') → rules q strong s → rules q weak s

/-- Rules under which what is true of every possible answer for two reasons is true for both. -/
def Rules.Conj (rules : Rules Q A σ) : Prop :=
  ∀ q (first second : A q → σ → Prop) s, rules q first s → rules q second s →
    rules q (fun answer s' => first answer s' ∧ second answer s') s

/-- Every end of the dialogue that the rules leave open satisfies the postcondition. -/
def Ensures (rules : Rules Q A σ) : Dialogue Q A α → (α → σ → Prop) → σ → Prop
  | .done a, post, s => post a s
  | .ask q next, post, s => rules q (fun answer s' => (next answer).Ensures rules post s') s

variable {rules : Rules Q A σ}

@[simp] theorem ensures_done (a : α) (post : α → σ → Prop) (s : σ) :
    (Dialogue.done a : Dialogue Q A α).Ensures rules post s ↔ post a s := Iff.rfl

@[simp] theorem ensures_ask (q : Q) (next : A q → Dialogue Q A α) (post : α → σ → Prop) (s : σ) :
    (Dialogue.ask q next).Ensures rules post s ↔
      rules q (fun answer s' => (next answer).Ensures rules post s') s := Iff.rfl

@[simp] theorem ensures_question (q : Q) (post : A q → σ → Prop) (s : σ) :
    (question q).Ensures rules post s ↔ rules q post s := Iff.rfl

/-- A sequence ensures what its second part ensures wherever the first part ends. -/
theorem ensures_bind (p : Dialogue Q A α) (f : α → Dialogue Q A β) (post : β → σ → Prop)
    (s : σ) :
    (p >>= f).Ensures rules post s ↔
      p.Ensures rules (fun a s' => (f a).Ensures rules post s') s := by
  induction p generalizing s with
  | done a => exact Iff.rfl
  | ask q next ih =>
      have hnext : (fun answer s' => (next answer >>= f).Ensures rules post s') =
          fun answer s' =>
            (next answer).Ensures rules (fun a s'' => (f a).Ensures rules post s'') s' := by
        funext answer s'
        exact propext (ih answer s')
      rw [ask_bind, ensures_ask, ensures_ask, hnext]

theorem Ensures.mono (hrules : rules.Mono) {p : Dialogue Q A α} {weak strong : α → σ → Prop}
    (himp : ∀ a s', strong a s' → weak a s') {s : σ} (h : p.Ensures rules strong s) :
    p.Ensures rules weak s := by
  induction p generalizing s with
  | done a => exact himp a s h
  | ask q next ih => exact hrules q _ _ s (fun answer _ hanswer => ih answer hanswer) h

theorem Ensures.and (hmono : rules.Mono) (hconj : rules.Conj) {p : Dialogue Q A α}
    {first second : α → σ → Prop} {s : σ} (hfirst : p.Ensures rules first s)
    (hsecond : p.Ensures rules second s) :
    p.Ensures rules (fun a s' => first a s' ∧ second a s') s := by
  induction p generalizing s with
  | done a => exact ⟨hfirst, hsecond⟩
  | ask q next ih =>
      apply hmono q _ _ s _ (hconj q _ _ s hfirst hsecond)
      intro answer s' hboth
      exact ih answer hboth.1 hboth.2

/-- What a dialogue ensures is true of its run by a machine that obeys the rules, where the rules
may speak of a view of the machine's state. -/
theorem run_of_ensures {respond : (q : Q) → τ → A q × τ} (view : τ → σ)
    (obeys : ∀ q post t, rules q post (view t) → post (respond q t).1 (view (respond q t).2))
    {p : Dialogue Q A α} {post : α → σ → Prop} {t : τ} (h : p.Ensures rules post (view t)) :
    post (p.run respond t).1 (view (p.run respond t).2) := by
  induction p generalizing t with
  | done a => exact h
  | ask q next ih =>
      rw [run_ask]
      exact ih _ (obeys q _ t h)

/-- All questions that can be asked are of that kind. -/
def Only (kind : Q → Prop) : Dialogue Q A α → Prop
  | .done _ => True
  | .ask q next => kind q ∧ ∀ answer, (next answer).Only kind

theorem only_bind {kind : Q → Prop} {p : Dialogue Q A α} {f : α → Dialogue Q A β}
    (hp : p.Only kind) (hf : ∀ a, (f a).Only kind) : (p >>= f).Only kind := by
  induction p with
  | done a => exact hf a
  | ask q next ih => exact ⟨hp.1, fun answer => ih answer (hp.2 answer)⟩

theorem only_question {kind : Q → Prop} {q : Q} (h : kind q) :
    (question q : Dialogue Q A (A q)).Only kind :=
  ⟨h, fun _ => trivial⟩

theorem Only.mono {narrow wide : Q → Prop} (himp : ∀ q, narrow q → wide q)
    {p : Dialogue Q A α} (h : p.Only narrow) : p.Only wide := by
  induction p with
  | done a => trivial
  | ask q next ih => exact ⟨himp q h.1, fun answer => ih answer (h.2 answer)⟩

/-- An invariant that questions of one kind keep holds at the end. -/
theorem Only.ensures {kind : Q → Prop} {inv : σ → Prop}
    (hkeeps : ∀ q s, kind q → inv s → rules q (fun _ => inv) s) (hrules : rules.Mono)
    {p : Dialogue Q A α} (h : p.Only kind) {s : σ} (hinv : inv s) :
    p.Ensures rules (fun _ => inv) s := by
  induction p generalizing s with
  | done a => exact hinv
  | ask q next ih =>
      apply hrules q _ _ s _ (hkeeps q s h.1 hinv)
      intro answer s' hs'
      exact ih answer (h.2 answer) hs'

/-- What is left to ensure where a part of a dialogue may have ended in a fault. -/
def orFault (next : α → σ → Prop) (post : Except ε β → σ → Prop) : Except ε α → σ → Prop
  | .ok a, s => next a s
  | .error e, s => post (.error e) s

@[simp] theorem orFault_ok (next : α → σ → Prop) (post : Except ε β → σ → Prop) (a : α) (s : σ) :
    orFault next post (.ok a) s ↔ next a s := Iff.rfl

@[simp] theorem orFault_error (next : α → σ → Prop) (post : Except ε β → σ → Prop) (e : ε)
    (s : σ) : orFault next post (.error e) s ↔ post (.error e) s := Iff.rfl

/-- The second part of a sequence is reached only where the first does not end in a fault. -/
theorem ensures_run_bind (p : ExceptT ε (Dialogue Q A) α) (f : α → ExceptT ε (Dialogue Q A) β)
    (post : Except ε β → σ → Prop) (s : σ) :
    Ensures rules (p >>= f).run post s ↔
      Ensures rules p.run (orFault (fun a s' => Ensures rules (f a).run post s') post) s := by
  rw [ExceptT.run_bind, ensures_bind]
  refine iff_of_eq (congrArg (fun q => Ensures rules p.run q s) ?_)
  funext r s'
  cases r with
  | ok a => rfl
  | error e => rfl

/-- What the parts of a sequence ensure, put together. -/
theorem Ensures.run_bind (hrules : rules.Mono) {p : ExceptT ε (Dialogue Q A) α}
    {f : α → ExceptT ε (Dialogue Q A) β} {mid : Except ε α → σ → Prop}
    {post : Except ε β → σ → Prop} {s : σ} (hp : Ensures rules p.run mid s)
    (hok : ∀ a s', mid (.ok a) s' → Ensures rules (f a).run post s')
    (herror : ∀ e s', mid (.error e) s' → post (.error e) s') :
    Ensures rules (p >>= f).run post s := by
  rw [ensures_run_bind]
  refine hp.mono hrules fun r s' hmid => ?_
  cases r with
  | ok a => exact hok a s' hmid
  | error e => exact herror e s' hmid

/-- What is ensured of a dialogue that does not end in a fault. -/
def returning (post : α → σ → Prop) : Except ε α → σ → Prop
  | .ok a, s => post a s
  | .error _, _ => False

theorem returning.mono {weak strong : α → σ → Prop} (himp : ∀ a s, strong a s → weak a s)
    (r : Except ε α) (s : σ) (h : returning strong r s) : returning weak r s := by
  cases r with
  | ok a => exact himp a s h
  | error e => exact h

/-- Where the first part of a sequence ends in no fault, the second is reached. -/
theorem Ensures.run_seq (hrules : rules.Mono) {p : ExceptT ε (Dialogue Q A) α}
    {f : α → ExceptT ε (Dialogue Q A) β} {mid : α → σ → Prop} {post : Except ε β → σ → Prop} {s : σ}
    (hp : Ensures rules p.run (returning mid) s)
    (hnext : ∀ a s', mid a s' → Ensures rules (f a).run post s') :
    Ensures rules (p >>= f).run post s :=
  hp.run_bind hrules hnext fun _ _ hnone => hnone.elim

theorem only_run_bind {kind : Q → Prop} {p : ExceptT ε (Dialogue Q A) α}
    {f : α → ExceptT ε (Dialogue Q A) β} (hp : p.run.Only kind) (hf : ∀ a, (f a).run.Only kind) :
    (p >>= f).run.Only kind := by
  rw [ExceptT.run_bind]
  refine only_bind hp fun r => ?_
  cases r with
  | ok a => exact hf a
  | error e => trivial

end Dialogue

end ClusterKeeper
