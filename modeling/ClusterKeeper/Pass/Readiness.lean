import ClusterKeeper.Pass.Call
/-!
Whether a remote cluster is ready: the provider says so of the cluster and of every node. Not being
ready is no fault; only failed calls are.
-/

namespace ClusterKeeper

/-- What getting a cluster is called in a fault. -/
def getClusterOperation : String := "get cluster"

/-- What listing pools is called in a fault. -/
def listPoolsOperation : String := "list node pools"

/-- Whether every node of every pool is ready. -/
def allNodesReady (pools : List RemotePool) : Bool :=
  pools.all fun pool => pool.nodes.all fun node => node.status == readyStatus

theorem allNodesReady_iff {pools : List RemotePool} :
    allNodesReady pools = true ↔
      ∀ pool ∈ pools, ∀ node ∈ pool.nodes, node.status = readyStatus := by
  simp [allNodesReady]

/-- Asks the provider whether a cluster is ready. -/
def isReady (id : ClusterId) : Step Bool := do
  let cluster ← Step.provider getClusterOperation (Call.getCluster id).ask
  if cluster.status = readyStatus then
    let pools ← Step.provider listPoolsOperation (Call.listPools id).ask
    return allNodesReady pools
  else
    return false

end ClusterKeeper
