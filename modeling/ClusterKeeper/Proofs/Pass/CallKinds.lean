import ClusterKeeper.Pass.Converge
import ClusterKeeper.Proofs.Logic.Dialogue
/-!
Which calls the steps of a pass can make.

The four steps that make several calls are told apart by these; all of their calls are routine,
that is, they neither make a remote cluster nor write to the resource.
-/

namespace ClusterKeeper

namespace Call

/-- Neither makes a remote cluster nor writes to the resource. -/
def IsRoutine : Call → Prop
  | createCluster _ | patchStatus .. | addFinalizer .. | removeFinalizer .. => False
  | _ => True

/-- Reads or writes the secret of the cluster. -/
def IsOnSecret (cluster : ClusterDeclaration) : Call → Prop
  | getSecret inNamespace name =>
      inNamespace = cluster.inNamespace ∧ name = Credentials.secretName cluster.name
  | createSecret inNamespace _ | replaceSecret inNamespace _ => inNamespace = cluster.inNamespace
  | _ => False

theorem IsOnSecret.isRoutine {cluster : ClusterDeclaration} {c : Call}
    (h : c.IsOnSecret cluster) : c.IsRoutine := by
  cases c <;> first | exact trivial | exact h

end Call

/-- The reply of a collaborator that cannot be reached. -/
def Call.unreached : (c : Call) → c.Reply
  | .connect _ | .patchStatus .. | .addFinalizer .. | .removeFinalizer .. =>
      Except.error (Fault.api (.transport "unreachable"))
  | .getSecret .. | .createSecret .. | .replaceSecret .. =>
      Except.error (Fault.api (.transport "unreachable"))
  | .listVersions | .getCluster _ | .createCluster _ | .updateCluster .. | .deleteCluster _
  | .getKubeconfig _ | .listPools _ | .createPool .. | .updatePool .. | .deletePool .. =>
      Except.error (ProviderFault.transport "unreachable")

/-- The call of a request about pools. -/
def PoolAction.toCall (id : ClusterId) : PoolAction → Call
  | .create name shape => .createPool id (Pools.creation name shape)
  | .update name pool shape => .updatePool id pool (Pools.update name shape)
  | .delete _ pool => .deletePool id pool

theorem PoolAction.isRoutine_toCall (id : ClusterId) (action : PoolAction) :
    (action.toCall id).IsRoutine := by
  cases action <;> exact trivial

open Dialogue

theorem Step.only_provider {α : Type} {kind : Call → Prop} {operation : String}
    {calls : Calls (Except ProviderFault α)} (h : calls.Only kind) :
    (Step.provider operation calls).run.Only kind :=
  only_bind h fun _ => trivial

theorem only_liftExcept {α : Type} {kind : Call → Prop} (r : Except Fault α) :
    (liftExcept r : Step α).run.Only kind := by
  cases r <;> exact trivial

theorem chooseVersion_only (spec : ClusterSpec) :
    (chooseVersion spec).run.Only (· = Call.listVersions) := by
  unfold chooseVersion
  cases spec.explicitVersion? with
  | some version => exact trivial
  | none =>
      refine only_run_bind (Step.only_provider (only_question rfl)) fun offered => ?_
      exact only_run_bind (only_liftExcept _) fun _ => trivial

theorem isReady_only (id : ClusterId) :
    (isReady id).run.Only fun c => c = .getCluster id ∨ c = .listPools id := by
  unfold isReady
  refine only_run_bind (Step.only_provider (only_question (Or.inl rfl))) fun cluster => ?_
  split
  · exact only_run_bind (Step.only_provider (only_question (Or.inr rfl))) fun _ => trivial
  · exact trivial

namespace Credentials

theorem store_only (cluster : ClusterDeclaration) (octets : Octets) :
    (store cluster octets).run.Only (Call.IsOnSecret cluster) := by
  refine only_run_bind (only_question ⟨rfl, rfl⟩) fun found => ?_
  cases found with
  | none => exact only_question rfl
  | some secret =>
      dsimp only
      split
      · exact trivial
      · exact only_question rfl

theorem sync_only (cluster : ClusterDeclaration) (id : ClusterId) :
    (sync cluster id).run.Only fun c => c = .getKubeconfig id ∨ c.IsOnSecret cluster := by
  refine only_run_bind (only_bind (only_question (Or.inl rfl)) fun _ => trivial) fun reply => ?_
  split
  · exact trivial
  · exact trivial
  · refine only_run_bind (only_liftExcept _) fun octets => ?_
    refine only_run_bind ?_ fun _ => trivial
    exact (store_only cluster octets).mono fun c h => Or.inr h

end Credentials

namespace PoolAction

theorem perform_only (id : ClusterId) (action : PoolAction) :
    (action.perform id).run.Only (· = action.toCall id) := by
  have hcall : (action.call id).Only (· = action.toCall id) := by
    cases action <;> exact only_question rfl
  refine only_bind hcall fun reply => ?_
  cases reply with
  | ok _ => exact trivial
  | error cause =>
      dsimp only
      split <;> exact trivial

end PoolAction

theorem PoolPlan.apply_only (id : ClusterId) (plan : PoolPlan) :
    (plan.apply id).run.Only fun c => ∃ action ∈ plan.actions, c = action.toCall id := by
  unfold PoolPlan.apply
  generalize plan.actions = actions
  induction actions with
  | nil => exact trivial
  | cons action rest ih =>
      refine only_run_bind ?_ fun _ => ?_
      · exact (action.perform_only id).mono fun c h => ⟨action, List.mem_cons_self, h⟩
      · refine Only.mono (fun c h => ?_) ih
        obtain ⟨other, hother, hc⟩ := h
        exact ⟨other, List.mem_cons_of_mem action hother, hc⟩

end ClusterKeeper
