import ClusterKeeper.Pass.Attempt
import ClusterKeeper.Pass.Readiness
/-!
Taking the remote cluster down. It is gone once the provider does not know it any more.
-/

namespace ClusterKeeper.Attempt

/-- Asks the provider to delete a remote cluster. -/
def requestDeletion (id : ClusterId) : Attempt Progress := do
  let reply : Except ProviderFault Unit ← calls (Call.deleteCluster id).ask
  match reply with
  | .ok () => return .inFlight
  | .error .notFound => return .settled
  | .error cause => throw (.provider "delete cluster" cause)

/-- Takes the remote cluster down. Settled once it is gone. -/
def tearDown (cluster : ClusterDeclaration) : Attempt Progress := do
  match (← status).clusterId with
  | none => throw (.noClusterId cluster.name)
  | some id =>
      enter cluster .deleting
      let reply : Except ProviderFault RemoteCluster ← calls (Call.getCluster id).ask
      match reply with
      | .ok _ => requestDeletion id
      | .error .notFound => return .settled
      | .error cause => throw (.provider getClusterOperation cause)

end ClusterKeeper.Attempt
