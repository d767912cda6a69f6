import ClusterKeeper.Dialogue
import ClusterKeeper.Fault
import ClusterKeeper.Provider.Types
import ClusterKeeper.Resource.Cluster
import ClusterKeeper.Resource.Secret
/-!
The calls that a pass makes on its collaborators: the provider, the API server and its secrets.

A step is a sequence of calls that may end in a fault.
-/

namespace ClusterKeeper

/-- A call on a collaborator. -/
inductive Call where
  /-- Gets access to the provider with the token in a secret. -/
  | connect (tokenSecretRef : SecretRef)
  | listVersions
  | getCluster (id : ClusterId)
  | createCluster (request : ClusterCreation)
  | updateCluster (id : ClusterId) (request : ClusterUpdate)
  | deleteCluster (id : ClusterId)
  | getKubeconfig (id : ClusterId)
  | listPools (id : ClusterId)
  | createPool (id : ClusterId) (request : PoolCreation)
  | updatePool (id : ClusterId) (pool : PoolId) (request : PoolUpdate)
  | deletePool (id : ClusterId) (pool : PoolId)
  | patchStatus (inNamespace name : String) (status : ClusterStatus)
  | addFinalizer (inNamespace name : String)
  | removeFinalizer (inNamespace name : String)
  | getSecret (inNamespace name : String)
  | createSecret (inNamespace : String) (secret : Secret)
  | replaceSecret (inNamespace : String) (secret : Secret)
  deriving Repr, DecidableEq

namespace Call

/-- What comes back from a call. -/
def Reply : Call → Type
  | connect _ => Except Fault Unit
  | listVersions => Except ProviderFault (List RemoteVersion)
  | getCluster _ => Except ProviderFault RemoteCluster
  | createCluster _ => Except ProviderFault RemoteCluster
  | updateCluster .. => Except ProviderFault Unit
  | deleteCluster _ => Except ProviderFault Unit
  | getKubeconfig _ => Except ProviderFault EncodedKubeconfig
  | listPools _ => Except ProviderFault (List RemotePool)
  | createPool .. => Except ProviderFault Unit
  | updatePool .. => Except ProviderFault Unit
  | deletePool .. => Except ProviderFault Unit
  | patchStatus .. => Except Fault Unit
  | addFinalizer .. => Except Fault Unit
  | removeFinalizer .. => Except Fault Unit
  | getSecret .. => Except Fault (Option Secret)
  | createSecret .. => Except Fault Unit
  | replaceSecret .. => Except Fault Unit

end Call

/-- A sequence of calls. -/
abbrev Calls (α : Type) : Type := Dialogue Call Call.Reply α

/-- One call. -/
def Call.ask (c : Call) : Calls c.Reply := Dialogue.question c

/-- A sequence of calls that may end in a fault. -/
abbrev Step (α : Type) : Type := ExceptT Fault (Dialogue Call Call.Reply) α

namespace Step

/-- A call whose reply may be a fault. -/
def fallible {α : Type} (reply : Calls (Except Fault α)) : Step α := ExceptT.mk reply

/-- A call of the provider during an operation. -/
def provider {α : Type} (operation : String) (reply : Calls (Except ProviderFault α)) : Step α :=
  ExceptT.mk (return (← reply).mapError (.provider operation))

end Step

end ClusterKeeper
