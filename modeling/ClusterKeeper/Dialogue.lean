/-!
Dialogues: computations that ask questions and go on with the answers.

A dialogue is a tree, so functions on it are structural recursions, and it says nothing about who
answers. `run` lets a machine with a state answer, and `run_bind` says that a sequence of two
dialogues runs one after the other.
-/

namespace ClusterKeeper

/-- A computation that asks questions of `Q`, whose answers are of the type `A` gives, and ends with
a value. -/
inductive Dialogue (Q : Type) (A : Q → Type) (α : Type) where
  | done (a : α)
  | ask (q : Q) (next : A q → Dialogue Q A α)

namespace Dialogue

variable {Q : Type} {A : Q → Type} {α β γ σ : Type}

def question (q : Q) : Dialogue Q A (A q) := .ask q .done

/-- Goes on with the value at the end. -/
def bind : Dialogue Q A α → (α → Dialogue Q A β) → Dialogue Q A β
  | .done a, f => f a
  | .ask q next, f => .ask q fun answer => (next answer).bind f

instance : Monad (Dialogue Q A) where
  pure := .done
  bind := bind

@[simp] theorem pure_eq (a : α) : (pure a : Dialogue Q A α) = .done a := rfl

@[simp] theorem done_bind (a : α) (f : α → Dialogue Q A β) : (Dialogue.done a >>= f) = f a := rfl

@[simp] theorem ask_bind (q : Q) (next : A q → Dialogue Q A α) (f : α → Dialogue Q A β) :
    (Dialogue.ask q next >>= f) = .ask q fun answer => next answer >>= f := rfl

theorem bind_done (p : Dialogue Q A α) : p.bind .done = p := by
  induction p with
  | done a => rfl
  | ask q next ih => exact congrArg (Dialogue.ask q) (funext ih)

theorem bind_assoc (p : Dialogue Q A α) (f : α → Dialogue Q A β) (g : β → Dialogue Q A γ) :
    (p.bind f).bind g = p.bind fun a => (f a).bind g := by
  induction p with
  | done a => rfl
  | ask q next ih => exact congrArg (Dialogue.ask q) (funext ih)

instance : LawfulMonad (Dialogue Q A) := LawfulMonad.mk' _
  (fun p => bind_done p)
  (fun _ _ => rfl)
  (fun p f g => bind_assoc p f g)

/-- Lets a machine answer: it is asked in one state and left in the next. -/
def run (respond : (q : Q) → σ → A q × σ) : Dialogue Q A α → σ → α × σ
  | .done a, s => (a, s)
  | .ask q next, s => (next (respond q s).1).run respond (respond q s).2

@[simp] theorem run_done (respond : (q : Q) → σ → A q × σ) (a : α) (s : σ) :
    (Dialogue.done a).run respond s = (a, s) := rfl

@[simp] theorem run_question (respond : (q : Q) → σ → A q × σ) (q : Q) (s : σ) :
    (question q).run respond s = respond q s := rfl

@[simp] theorem run_ask (respond : (q : Q) → σ → A q × σ) (q : Q)
    (next : A q → Dialogue Q A α) (s : σ) :
    (Dialogue.ask q next).run respond s =
      (next (respond q s).1).run respond (respond q s).2 := rfl

theorem run_bind (respond : (q : Q) → σ → A q × σ) (p : Dialogue Q A α)
    (f : α → Dialogue Q A β) (s : σ) :
    (p >>= f).run respond s =
      (f (p.run respond s).1).run respond (p.run respond s).2 := by
  induction p generalizing s with
  | done a => rfl
  | ask q next ih => exact ih (respond q s).1 (respond q s).2

end Dialogue

end ClusterKeeper
