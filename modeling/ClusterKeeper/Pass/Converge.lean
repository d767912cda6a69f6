import ClusterKeeper.Pass.Attempt
import ClusterKeeper.Pass.Credentials
import ClusterKeeper.Pass.Readiness
import ClusterKeeper.Pass.VersionChoice
import ClusterKeeper.Pools.Apply
import ClusterKeeper.Tags
/-!
Bringing the remote cluster nearer to its declaration.

Every decision is made anew from what the provider reports and from the recorded identifier; the
phase is written, never read to decide what to do remotely. A cluster that is not known is created,
and its identifier is written before anything else happens; one that is known is changed, its pools
are brought to their shapes, its kubeconfig is kept, and it is settled once it is ready.
-/

namespace ClusterKeeper

/-- The request for a cluster of the declared kind. -/
def creationRequest (cluster : ClusterDeclaration) (version : String) : ClusterCreation where
  label := cluster.name
  region := cluster.spec.region
  version
  pools := Pools.creations cluster.spec.nodePools
  tags := (Tags.desired? cluster).getD []
  controlPlane := cluster.spec.highAvailability.map fun ha => ⟨some ha⟩

/-- The tags to be set on a remote cluster, if any. -/
def tagChange? (cluster : ClusterDeclaration) (remote : RemoteCluster) : Option (List String) :=
  Tags.change? (Tags.desired? cluster) remote.tags

/-- The request that makes a remote cluster as declared. The control plane is always given. -/
def updateRequest (cluster : ClusterDeclaration) (remote : RemoteCluster) : ClusterUpdate where
  tags := tagChange? cluster remote
  controlPlane := some ⟨some cluster.spec.wantsHighAvailability⟩

/-- Whether that request changes anything. -/
def settingsDiffer (cluster : ClusterDeclaration) (remote : RemoteCluster) : Bool :=
  (tagChange? cluster remote).isSome ||
    cluster.spec.wantsHighAvailability != remote.controlPlane.highlyAvailable

namespace Attempt

/-- Records the pools that the provider reports. -/
def observePools (id : ClusterId) : Attempt Unit := do
  let listing ← step (Step.provider listPoolsOperation (Call.listPools id).ask)
  modifyStatus fun status => { status with pools := Pools.observed listing }

/-- Creates the remote cluster. -/
def create (cluster : ClusterDeclaration) : Attempt Progress := do
  let version ← step (chooseVersion cluster.spec)
  let created ← step <| Step.provider "create cluster"
    (Call.createCluster (creationRequest cluster version)).ask
  modifyStatus fun status => { status with phase := .provisioning, clusterId := some created.id }
  persist cluster
  observePools created.id
  persist cluster
  return .inFlight

/-- Brings the pools of a remote cluster to their shapes. -/
def convergePools (cluster : ClusterDeclaration) (id : ClusterId) : Attempt Unit := do
  let listing ← step (Step.provider listPoolsOperation (Call.listPools id).ask)
  let observed := Pools.observed listing
  let plan := PoolPlan.between (Pools.desired cluster.spec.nodePools) observed
  if plan.isEmpty then
    if (← status).pools = observed then return ()
    modifyStatus fun status => { status with pools := observed }
    persist cluster
  else
    enter cluster .updating
    step (plan.apply id)
    observePools id
    persist cluster

/-- Records that the cluster is ready, unless that is on record without a failure. -/
def markActive (cluster : ClusterDeclaration) : Attempt Unit := do
  let current ← status
  if current.phase = .active ∧ current.failureMessage = none then return ()
  modifyStatus fun status => { status with phase := .active }
  persist cluster

/-- Brings a remote cluster to its declaration. -/
def update (cluster : ClusterDeclaration) (remote : RemoteCluster) : Attempt Progress := do
  if settingsDiffer cluster remote then enter cluster .updating
  step <| Step.provider "update cluster"
    (Call.updateCluster remote.id (updateRequest cluster remote)).ask
  convergePools cluster remote.id
  unless ← step (Credentials.sync cluster remote.id) do return .inFlight
  unless ← step (isReady remote.id) do return .inFlight
  markActive cluster
  return .settled

/-- Brings the remote cluster nearer to its declaration. -/
def converge (cluster : ClusterDeclaration) : Attempt Progress := do
  match (← status).clusterId with
  | none => create cluster
  | some id =>
      let reply : Except ProviderFault RemoteCluster ← calls (Call.getCluster id).ask
      match reply with
      | .ok remote => update cluster remote
      | .error .notFound => create cluster
      | .error cause => throw (.provider getClusterOperation cause)

end Attempt

end ClusterKeeper
