import ClusterKeeper.Proofs.Logic.Dialogue
/-!
Transcripts: the questions that a dialogue asked, with the answers that came.

A dialogue asks what it asks because of the answers so far, so a transcript fixes its end. The
transcript of a sequence is that of its first part followed by that of its second.
-/

namespace ClusterKeeper.Dialogue

variable {Q : Type} {A : Q → Type} {α β ε : Type}

/-- A question with its answer. -/
abbrev Turn (Q : Type) (A : Q → Type) : Type := (q : Q) × A q

/-- The dialogue asks the questions of the transcript, and with those answers it comes to that
end. -/
def Plays : Dialogue Q A α → List (Turn Q A) → α → Prop
  | .done a, transcript, b => transcript = [] ∧ a = b
  | .ask q next, transcript, b =>
      ∃ answer rest, transcript = ⟨q, answer⟩ :: rest ∧ (next answer).Plays rest b

variable {transcript first second : List (Turn Q A)}

@[simp] theorem plays_done {a b : α} :
    (Dialogue.done a : Dialogue Q A α).Plays transcript b ↔ transcript = [] ∧ a = b := Iff.rfl

theorem plays_ask {q : Q} {next : A q → Dialogue Q A α} {b : α} :
    (Dialogue.ask q next).Plays transcript b ↔
      ∃ answer rest, transcript = ⟨q, answer⟩ :: rest ∧ (next answer).Plays rest b := Iff.rfl

@[simp] theorem plays_question {q : Q} {answer : A q} :
    (question q : Dialogue Q A (A q)).Plays transcript answer ↔ transcript = [⟨q, answer⟩] := by
  constructor
  · rintro ⟨_, _, rfl, rfl, rfl⟩
    rfl
  · rintro rfl
    exact ⟨answer, [], rfl, rfl, rfl⟩

theorem plays_bind {p : Dialogue Q A α} {f : α → Dialogue Q A β} {b : β} :
    (p >>= f).Plays transcript b ↔
      ∃ first second a, transcript = first ++ second ∧ p.Plays first a ∧ (f a).Plays second b := by
  induction p generalizing transcript with
  | done a =>
      constructor
      · intro h
        exact ⟨[], transcript, a, rfl, ⟨rfl, rfl⟩, h⟩
      · rintro ⟨_, second, _, rfl, ⟨rfl, rfl⟩, h⟩
        exact h
  | ask q next ih =>
      simp only [ask_bind, plays_ask, ih]
      constructor
      · rintro ⟨answer, _, rfl, first, second, a, rfl, hfirst, hsecond⟩
        exact ⟨⟨q, answer⟩ :: first, second, a, rfl, ⟨answer, first, rfl, hfirst⟩, hsecond⟩
      · rintro ⟨_, second, a, rfl, ⟨answer, first, rfl, hfirst⟩, hsecond⟩
        exact ⟨answer, first ++ second, rfl, first, second, a, rfl, hfirst, hsecond⟩

/-- The end is fixed by the transcript. -/
theorem Plays.unique {p : Dialogue Q A α} {a b : α} (ha : p.Plays transcript a)
    (hb : p.Plays transcript b) : a = b := by
  induction p generalizing transcript with
  | done c => exact ha.2.symm.trans hb.2
  | ask q next ih =>
      obtain ⟨answer, rest, rfl, ha⟩ := ha
      obtain ⟨_, _, heq, hb⟩ := hb
      cases heq
      exact ih answer ha hb

section Runs

variable {σ : Type} (respond : (q : Q) → σ → A q × σ)

/-- The questions to a machine with what it answers. -/
def asked : Dialogue Q A α → σ → List (Turn Q A)
  | .done _, _ => []
  | .ask q next, s =>
      ⟨q, (respond q s).1⟩ :: (next (respond q s).1).asked (respond q s).2

theorem asked_bind (p : Dialogue Q A α) (f : α → Dialogue Q A β) (s : σ) :
    (p >>= f).asked respond s =
      p.asked respond s ++
        (f (p.run respond s).1).asked respond (p.run respond s).2 := by
  induction p generalizing s with
  | done a => rfl
  | ask q next ih =>
      exact congrArg (⟨q, (respond q s).1⟩ :: ·) (ih (respond q s).1 (respond q s).2)

/-- What holds of every turn that the machine takes from a state of a kind, where it keeps to that
kind. -/
theorem forall_asked (inv : σ → Prop) (holds : Turn Q A → Prop)
    (hturn : ∀ q s, inv s → holds ⟨q, (respond q s).1⟩ ∧ inv (respond q s).2)
    (p : Dialogue Q A α) {s : σ} (hs : inv s) :
    (∀ turn ∈ p.asked respond s, holds turn) ∧ inv (p.run respond s).2 := by
  induction p generalizing s with
  | done a => exact ⟨nofun, hs⟩
  | ask q next ih =>
      obtain ⟨hfirst, hinv⟩ := hturn q s hs
      obtain ⟨hrest, hend⟩ := ih (respond q s).1 hinv
      exact ⟨List.forall_mem_cons.mpr ⟨hfirst, hrest⟩, hend⟩

end Runs

variable {p : ExceptT ε (Dialogue Q A) α} {f : α → ExceptT ε (Dialogue Q A) β}

theorem Plays.run_bind {a : α} {r : Except ε β} (hfirst : Plays p.run first (.ok a))
    (hsecond : Plays (f a).run second r) : Plays (p >>= f).run (first ++ second) r := by
  rw [ExceptT.run_bind, plays_bind]
  exact ⟨first, second, .ok a, rfl, hfirst, hsecond⟩

/-- A fault in the first part is the end. -/
theorem Plays.run_bind_error {e : ε} (h : Plays p.run transcript (.error e)) :
    Plays (p >>= f).run transcript (.error e) := by
  rw [ExceptT.run_bind, plays_bind]
  exact ⟨transcript, [], .error e, (List.append_nil _).symm, h, rfl, rfl⟩

/-- A dialogue without faults. -/
theorem plays_lift_ok {q : Dialogue Q A α} {a : α} :
    Plays (ExceptT.lift q : ExceptT ε (Dialogue Q A) α).run transcript (.ok a) ↔
      q.Plays transcript a := by
  rw [ExceptT.run_lift, map_eq_pure_bind, plays_bind]
  constructor
  · rintro ⟨first, _, a, rfl, hplays, rfl, ⟨⟩⟩
    rwa [List.append_nil]
  · intro hplays
    exact ⟨transcript, [], a, (List.append_nil _).symm, hplays, rfl, rfl⟩

theorem plays_pure {a b : α} :
    Plays (pure a : ExceptT ε (Dialogue Q A) α).run transcript (.ok b) ↔
      transcript = [] ∧ a = b := by
  change transcript = [] ∧ Except.ok a = Except.ok b ↔ _
  simp

theorem plays_liftExcept {r s : Except ε α} :
    Plays (liftExcept r : ExceptT ε (Dialogue Q A) α).run transcript s ↔
      transcript = [] ∧ r = s := by
  cases r <;> exact Iff.rfl

/-- A sequence comes to an end without a fault where both parts do. -/
theorem plays_run_bind_ok {b : β} :
    Plays (p >>= f).run transcript (.ok b) ↔ ∃ first second a, transcript = first ++ second ∧
      Plays p.run first (.ok a) ∧ Plays (f a).run second (.ok b) := by
  rw [ExceptT.run_bind, plays_bind]
  constructor
  · rintro ⟨first, second, r, rfl, hfirst, hsecond⟩
    cases r with
    | ok a => exact ⟨first, second, a, rfl, hfirst, hsecond⟩
    | error e => cases hsecond.2
  · rintro ⟨first, second, a, rfl, hfirst, hsecond⟩
    exact ⟨first, second, .ok a, rfl, hfirst, hsecond⟩

end ClusterKeeper.Dialogue
