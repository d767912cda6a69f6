import ClusterKeeper.Pass.Call
import ClusterKeeper.Version
/-!
The version of a cluster to be created: the one asked for, as it is written, or else the latest that
the provider offers.
-/

namespace ClusterKeeper

/-- The version for a new cluster. -/
def chooseVersion (spec : ClusterSpec) : Step String :=
  match spec.explicitVersion? with
  | some version => return version
  | none => do
      let offered ← Step.provider "list versions" Call.listVersions.ask
      let latest ← liftExcept (Version.latestOf offered)
      return latest.id

end ClusterKeeper
