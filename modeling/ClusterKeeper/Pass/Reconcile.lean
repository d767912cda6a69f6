import ClusterKeeper.Pass.Converge
import ClusterKeeper.Pass.TearDown
import ClusterKeeper.Resource.Validation
import ClusterKeeper.Settings
/-!
A whole pass over a resource, and what follows from its end.

A declaration that is acceptable gets the finalizer before anything is made for it; one that is to
be deleted loses it when nothing made for it is left. A failure is written to the status, where the
fault is not that the pass was told to stop; failing to write it changes nothing.
-/

namespace ClusterKeeper

/-- When to look at a resource again. -/
inductive Action where
  /-- When it changes. -/
  | awaitChange
  /-- After a delay, or when it changes. -/
  | requeue (delay : Delay)
  deriving Repr, DecidableEq

/-- How a pass ends. -/
structure PassEnd where
  result : Except Fault Action
  /-- The failures of the resource are forgotten. -/
  forgetsFailures : Bool

/-- The finalizer that keeps a resource until its cluster is gone. -/
def clusterFinalizer : String := "lke.anza-labs.dev/finalizer"

namespace ClusterDeclaration

/-- Whether the resource is kept until its cluster is gone. -/
def isGuarded (cluster : ClusterDeclaration) : Bool :=
  cluster.metadata.finalizerList.contains clusterFinalizer

theorem isGuarded_iff {cluster : ClusterDeclaration} :
    cluster.isGuarded = true ↔ clusterFinalizer ∈ cluster.metadata.finalizers.getD [] :=
  List.contains_iff_mem

end ClusterDeclaration

namespace PassEnd

/-- The end of a pass that came to a fault. -/
def failed (fault : Fault) : PassEnd := ⟨.error fault, false⟩

/-- The end of a pass that had nothing to do with the provider. -/
def idle : PassEnd := ⟨.ok .awaitChange, false⟩

/-- The end of a pass that was through. -/
def through (action : Action) : PassEnd := ⟨.ok action, true⟩

end PassEnd

/-- Writes a fault to the status, best effort. -/
def recordFailure (cluster : ClusterDeclaration) (fault : Fault) : Pass Unit :=
  if fault = .cancelled then return ()
  else do
    let status := { (← Pass.memory) with failureMessage := some fault.message }
    Pass.record status
    let _ ← Pass.call (.patchStatus cluster.inNamespace cluster.name status)
    return ()

/-- Ends a pass in a fault, which is recorded. -/
def failPass (cluster : ClusterDeclaration) (fault : Fault) : Pass PassEnd := do
  recordFailure cluster fault
  return .failed fault

/-- Connects to the provider and makes an attempt. -/
def connected (cluster : ClusterDeclaration) (attempt : Attempt Progress)
    (finish : Progress → Pass PassEnd) : Pass PassEnd := do
  let connection : Except Fault Unit ← Pass.call (.connect cluster.spec.tokenSecretRef)
  match connection with
  | .error fault => failPass cluster fault
  | .ok () =>
      match ← attempt.run with
      | .ok progress => finish progress
      | .error fault => failPass cluster fault

/-- When to look again at a resource after an attempt. -/
def Progress.action (settings : Settings) : Progress → Action
  | settled => .requeue settings.resyncDelay
  | inFlight => .requeue settings.requeueDelay

/-- Takes the finalizer off. -/
def releaseResource (cluster : ClusterDeclaration) (ending : PassEnd) : Pass PassEnd := do
  let reply : Except Fault Unit ← Pass.call (.removeFinalizer cluster.inNamespace cluster.name)
  match reply with
  | .ok () => return ending
  | .error fault => return .failed fault

/-- A pass over a resource that is to be deleted. -/
def reconcileDeletion (settings : Settings) (cluster : ClusterDeclaration) : Pass PassEnd :=
  if !cluster.isGuarded then return .idle
  else if cluster.currentStatus.clusterId.isNone then releaseResource cluster .idle
  else connected cluster (Attempt.tearDown cluster) fun
    | .settled => releaseResource cluster (.through .awaitChange)
    | .inFlight => return .through (.requeue settings.requeueDelay)

/-- Puts the finalizer on a resource that has none. -/
def guardResource (cluster : ClusterDeclaration) : Pass (Except Fault Unit) :=
  if cluster.isGuarded then return .ok ()
  else Pass.call (.addFinalizer cluster.inNamespace cluster.name)

/-- A pass over a resource that is to be kept. -/
def reconcileChange (settings : Settings) (cluster : ClusterDeclaration) : Pass PassEnd :=
  match cluster.spec.validate with
  | .error fault => do
      recordFailure cluster fault
      return .idle
  | .ok () => do
      match ← guardResource cluster with
      | .error fault => return .failed fault
      | .ok () =>
          connected cluster (Attempt.converge cluster) fun progress =>
            return .through (progress.action settings)

/-- A pass over a resource, which begins with the status on record. -/
def reconcile (settings : Settings) (cluster : ClusterDeclaration) : Pass PassEnd := do
  Pass.record cluster.currentStatus
  if cluster.isBeingDeleted then reconcileDeletion settings cluster
  else reconcileChange settings cluster

/-- What follows from a failed pass. -/
inductive FailureResponse where
  /-- The resource is looked at again when it changes. -/
  | awaitChange
  /-- The resource is looked at again after the backoff for that many failures. -/
  | backOff (failures : UInt32)
  deriving Repr, DecidableEq

/-- When the resource is looked at again. None where there is no such delay. -/
def FailureResponse.action? (b : Backoff) (jitter : Binary64) : FailureResponse → Option Action
  | .awaitChange => some .awaitChange
  | .backOff failures => (b.drawn? failures jitter).map .requeue

/-- Counts a failed pass and decides what follows. A pass that was told to stop has not failed. -/
def respondToFailure (failures : FailureCounts) (key : String) (fault : Fault) :
    FailureResponse × FailureCounts :=
  if fault = .cancelled then (.awaitChange, failures)
  else
    let failures := failures.fail key
    (.backOff (failures.count key), failures)

/-- The failure counts after a pass. -/
def PassEnd.account (ending : PassEnd) (key : String) (failures : FailureCounts) : FailureCounts :=
  if ending.forgetsFailures then failures.reset key else failures

end ClusterKeeper
