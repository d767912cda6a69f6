import ClusterKeeper.Proofs.Logic.Pass
/-!
What is true at every moment of a run.

A moment is a question together with the state in which it is asked. Rules that check a claim let a
dialogue ensure something only if the claim is true wherever a question is asked, so what is ensured
under them is true at the end of a run, and the claim at every moment of it.
-/

namespace ClusterKeeper

namespace Dialogue

variable {Q : Type} {A : Q → Type} {α σ τ : Type}

/-- The questions of a run, each with the state in which it is asked. -/
def moments (respond : (q : Q) → τ → A q × τ) : Dialogue Q A α → τ → List (Q × τ)
  | .done _, _ => []
  | .ask q next, t => (q, t) :: (next (respond q t).1).moments respond (respond q t).2

/-- The rules, where the claim must be true of every question and the state before it. -/
def Rules.checking (rules : Rules Q A σ) (claim : Q → σ → Prop) : Rules Q A σ :=
  fun q post s => claim q s ∧ rules q post s

variable {rules : Rules Q A σ} {claim : Q → σ → Prop}

/-- What is ensured with checks is ensured without them. -/
theorem Ensures.of_checking (hrules : rules.Mono) {p : Dialogue Q A α} {post : α → σ → Prop}
    {s : σ} (h : p.Ensures (rules.checking claim) post s) : p.Ensures rules post s := by
  induction p generalizing s with
  | done a => exact h
  | ask q next ih => exact hrules q _ _ s (fun answer _ hanswer => ih answer hanswer) h.2

/-- A claim that is checked is true at every moment of a run by a machine that obeys the rules. -/
theorem moments_of_ensures {respond : (q : Q) → τ → A q × τ} (view : τ → σ)
    (obeys : ∀ q post t, rules q post (view t) → post (respond q t).1 (view (respond q t).2))
    {p : Dialogue Q A α} {post : α → σ → Prop} {t : τ}
    (h : p.Ensures (rules.checking claim) post (view t)) :
    ∀ moment ∈ p.moments respond t, claim moment.1 (view moment.2) := by
  induction p generalizing t with
  | done a => exact fun moment hmem => absurd hmem List.not_mem_nil
  | ask q next ih =>
      intro moment hmem
      rcases List.mem_cons.mp hmem with rfl | hmem
      · exact h.1
      · exact ih _ (obeys q _ t h.2) moment hmem

end Dialogue

namespace World

variable {σ τ α : Type}

/-- The calls of a sequence that runs on its own, each with the scene in which it is made. -/
def moments (world : World τ) (calls : Calls α) (scene : Scene τ) : List (Call × Scene τ) :=
  Dialogue.moments world.answerCall calls scene

theorem moments_of_ensures {world : World τ} {view : τ → σ} {conduct : Conduct σ}
    {claim : Call → Scene σ → Prop} (hkeeps : world.Keeps view conduct) {calls : Calls α}
    {post : α → Scene σ → Prop} {scene : Scene τ}
    (h : calls.Ensures (conduct.onCall.checking claim) post (scene.through view)) :
    ∀ moment ∈ world.moments calls scene, claim moment.1 (moment.2.through view) := by
  refine Dialogue.moments_of_ensures (Scene.through view) ?_ h
  intro c post scene hpost
  exact hpost _ _ (hkeeps c scene.state)

end World

end ClusterKeeper
