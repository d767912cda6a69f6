import ClusterKeeper.Proofs.Logic.Moments
import ClusterKeeper.Proofs.Pools.Errands
import ClusterKeeper.Proofs.Pools.Steps
/-!
Plans for node pools that are carried out at a provider.

A provider may make a pool only with an identifier above those of all pools, and it has room for so
many more. What a run of a plan keeps is found step by step: after each request the rest of the plan
is still what the pools call for, and the pools that were made are accounted for.
-/

namespace ClusterKeeper

open Pools

variable {σ : Type} {conduct : Conduct σ} {scene : Scene σ} {cluster : ClusterId}

/-- The reply to a request lets the plan go on. -/
def PoolAction.Passes (cluster : ClusterId) :
    (action : PoolAction) → (action.toCall cluster).Reply → Prop
  | .create _ _, reply => reply = Except.ok ()
  | .update _ _ _, reply => reply = Except.ok ()
  | .delete _ _, reply => reply = Except.ok () ∨ reply = Except.error ProviderFault.notFound

/-- A request is one call, and it ends well where the reply lets the plan go on. -/
theorem PoolAction.exists_run_perform (cluster : ClusterId) (action : PoolAction) :
    ∃ ending : (action.toCall cluster).Reply → Except Fault Unit,
      (action.perform cluster).run =
          .ask (action.toCall cluster) (fun reply => .done (ending reply)) ∧
        ∀ reply, ending reply = .ok () ↔ action.Passes cluster reply := by
  refine ⟨_, action.run_perform_eq false false false .blank, ?_⟩
  intro reply
  refine Errand.ending_eq_ok_iff.trans ?_
  cases action with
  | create name shape => exact refusal?_eq_none_iff
  | update name id shape => exact refusal?_eq_none_iff
  | delete name id => exact filter_refusal?_eq_none_iff

theorem PoolAction.ensures_perform (action : PoolAction) {post : Except Fault Unit → Scene σ → Prop}
    (hok : ∀ response s', conduct scene.state (action.toCall cluster) response s' →
      action.Passes cluster response.reply →
      post (.ok ()) (World.after scene (action.toCall cluster) response false s'))
    (herror : ∀ response s' fault, conduct scene.state (action.toCall cluster) response s' →
      ¬ action.Passes cluster response.reply →
      post (.error fault) (World.after scene (action.toCall cluster) response false s')) :
    Step.Ensures conduct (action.perform cluster) post scene := by
  obtain ⟨ending, hrun, hpasses⟩ := action.exists_run_perform cluster
  rw [Step.Ensures, hrun]
  intro response s' hconduct
  have hending := hpasses response.reply
  change post (ending response.reply) _
  cases hend : ending response.reply with
  | ok _ => exact hok response s' hconduct (hending.mp hend)
  | error fault =>
      apply herror response s' fault hconduct
      rw [← hending, hend]
      exact nofun

/-- A request that may be made is one call. -/
theorem PoolAction.ensures_perform_checking {claim : Call → Scene σ → Prop} (action : PoolAction)
    {post : Except Fault Unit → Scene σ → Prop} (hclaim : claim (action.toCall cluster) scene)
    (h : Step.Ensures conduct (action.perform cluster) post scene) :
    Dialogue.Ensures (conduct.onCall.checking claim) (action.perform cluster).run post scene := by
  obtain ⟨ending, hrun, _⟩ := action.exists_run_perform cluster
  rw [Step.Ensures, hrun] at h
  rw [hrun]
  exact ⟨hclaim, h⟩

section Plan

variable (inv : List PoolAction → Scene σ → Prop) {post : Except Fault Unit → Scene σ → Prop}
  (hgoes : ∀ action rest scene response s', inv (action :: rest) scene →
    conduct scene.state (action.toCall cluster) response s' →
    action.Passes cluster response.reply →
    inv rest (World.after scene (action.toCall cluster) response false s'))
  (hstops : ∀ action rest scene response s' fault, inv (action :: rest) scene →
    conduct scene.state (action.toCall cluster) response s' →
    ¬ action.Passes cluster response.reply →
    post (.error fault) (World.after scene (action.toCall cluster) response false s'))
  (hends : ∀ scene, inv [] scene → post (.ok ()) scene) {plan : PoolPlan}
  (hinv : inv plan.actions scene)
include hgoes hstops hends hinv

/-- What the requests of a plan keep, with those that are left, holds when none is left, and what
follows from it is true of each request when it is made. -/
theorem PoolPlan.ensures_apply_checking {claim : Call → Scene σ → Prop}
    (hclaim : ∀ action rest scene, inv (action :: rest) scene →
      claim (action.toCall cluster) scene) :
    Dialogue.Ensures (conduct.onCall.checking claim) (plan.apply cluster).run post scene := by
  unfold PoolPlan.apply
  generalize plan.actions = actions at hinv
  induction actions generalizing scene with
  | nil => exact hends scene hinv
  | cons action rest ih =>
      refine (Dialogue.ensures_run_bind _ _ _ _).mpr ?_
      apply action.ensures_perform_checking (hclaim action rest scene hinv)
      apply action.ensures_perform
      · intro response s' hconduct hpasses
        exact ih (hgoes action rest scene response s' hinv hconduct hpasses)
      · intro response s' fault hconduct hpasses
        exact hstops action rest scene response s' fault hinv hconduct hpasses

theorem PoolPlan.ensures_apply : Step.Ensures conduct (plan.apply cluster) post scene := by
  have hchecked : Dialogue.Ensures (conduct.onCall.checking fun _ _ => True)
      (plan.apply cluster).run post scene :=
    PoolPlan.ensures_apply_checking inv hgoes hstops hends hinv fun _ _ _ _ => trivial
  exact hchecked.of_checking conduct.onCall_mono

end Plan

end ClusterKeeper
