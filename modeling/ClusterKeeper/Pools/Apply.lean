import ClusterKeeper.Pass.Call
import ClusterKeeper.Pools.Plan
/-!
Carrying out a plan for node pools, one call for each request, in the order of the plan. A pool that
is already gone counts as deleted.
-/

namespace ClusterKeeper

namespace PoolAction

/-- What a request is called in a fault. -/
def operation : PoolAction → String
  | create name _ => s!"create node pool {name}"
  | update name _ _ => s!"update node pool {name}"
  | delete name _ => s!"delete node pool {name}"

/-- The call of a request. -/
def call (cluster : ClusterId) : PoolAction → Calls (Except ProviderFault Unit)
  | create name shape => (Call.createPool cluster (Pools.creation name shape)).ask
  | update name id shape => (Call.updatePool cluster id (Pools.update name shape)).ask
  | delete _ id => (Call.deletePool cluster id).ask

/-- Whether a failure is as good as success. -/
def tolerates : PoolAction → ProviderFault → Bool
  | delete _ _, .notFound => true
  | _, _ => false

/-- Makes a request. -/
def perform (cluster : ClusterId) (action : PoolAction) : Step Unit :=
  Step.fallible do
    match ← action.call cluster with
    | .ok () => return .ok ()
    | .error cause =>
        if action.tolerates cause then return .ok ()
        else return .error (.provider action.operation cause)

end PoolAction

/-- Makes the requests of a plan. The first failure ends it. -/
def PoolPlan.apply (cluster : ClusterId) (plan : PoolPlan) : Step Unit :=
  plan.actions.forM (PoolAction.perform cluster)

end ClusterKeeper
