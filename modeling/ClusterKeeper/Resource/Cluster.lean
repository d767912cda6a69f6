import ClusterKeeper.Resource.Metadata
import ClusterKeeper.Resource.Phase
import ClusterKeeper.Resource.Pool
import ClusterKeeper.Text.Blank
/-!
The declared cluster: what its owner asks for, and what is recorded of it.

A declaration is written with the group, version and kind of the resource; neither is looked at when
it is read. An absent status stays absent.
-/

namespace ClusterKeeper

/-- A reference to a secret. -/
structure SecretRef where
  inNamespace : String
  name : String
  deriving Repr, DecidableEq

/-- What the owner of a resource asks for. -/
structure ClusterSpec where
  region : String
  /-- The secret with the provider's token. -/
  tokenSecretRef : SecretRef
  /-- Whether the control plane is to be highly available. -/
  highAvailability : Option Bool
  /-- The pools by name. -/
  nodePools : KeyMap PoolShape
  /-- The version of Kubernetes, or the word for the latest one. -/
  kubernetesVersion : Option String
  /-- The tags of the cluster; none leaves them to the annotation. -/
  tags : Option (List String)
  deriving Repr, DecidableEq

namespace ClusterSpec

/-- The word that asks for the latest version. -/
def latestVersion : String := "latest"

/-- A control plane is highly available only if that is asked for. -/
def wantsHighAvailability (spec : ClusterSpec) : Bool := spec.highAvailability.getD false

/-- The version that is asked for by number, if one is. -/
def explicitVersion? (spec : ClusterSpec) : Option String :=
  spec.kubernetesVersion.filter fun version =>
    !(Text.isBlankText version || version == latestVersion)

/-- Whether the version is the provider's latest. -/
def wantsLatestVersion (spec : ClusterSpec) : Bool := spec.explicitVersion?.isNone

end ClusterSpec

/-- What is recorded of a cluster. -/
structure ClusterStatus where
  phase : Phase
  /-- The remote cluster, once there is one. -/
  clusterId : Option Int64
  /-- The pools as last observed, by name. -/
  pools : KeyMap PoolRecord
  /-- The last failure, in words. -/
  failureMessage : Option String
  deriving Repr, DecidableEq

namespace ClusterStatus

/-- A status that says no more than a phase. -/
def ofPhase (phase : Phase) : ClusterStatus := ⟨phase, none, KeyMap.empty, none⟩

/-- The status of a resource that has none yet. -/
def blank : ClusterStatus := ofPhase .unknown

instance : Inhabited ClusterStatus := ⟨blank⟩

end ClusterStatus

/-- A declared cluster, as the API server stores it. -/
structure ClusterDeclaration where
  metadata : Metadata
  spec : ClusterSpec
  status : Option ClusterStatus
  deriving Repr, DecidableEq

namespace ClusterDeclaration

/-- The group of the resource. -/
def group : String := "lke.anza-labs.dev"

/-- The version of the resource. -/
def version : String := "v1alpha1"

/-- The group and version of the resource. -/
def apiVersion : String := group ++ "/" ++ version

/-- The kind of the resource. -/
def kind : String := "LKEClusterConfig"

/-- The name of the resource in paths. -/
def plural : String := "lkeclusterconfigs"

def name (cluster : ClusterDeclaration) : String := cluster.metadata.anyName

/-- The namespace of the declaration, or the empty text. -/
def inNamespace (cluster : ClusterDeclaration) : String := cluster.metadata.namespaceOrEmpty

/-- What tells declarations apart. -/
def key (cluster : ClusterDeclaration) : String := cluster.inNamespace ++ "/" ++ cluster.name

/-- The recorded status, or that of a new resource. -/
def currentStatus (cluster : ClusterDeclaration) : ClusterStatus :=
  cluster.status.getD ClusterStatus.blank

/-- Whether the resource is to be deleted. -/
def isBeingDeleted (cluster : ClusterDeclaration) : Bool :=
  cluster.metadata.deletionTimestamp.isSome

theorem isBeingDeleted_iff {cluster : ClusterDeclaration} :
    cluster.isBeingDeleted = true ↔ cluster.metadata.deletionTimestamp ≠ none :=
  Option.isSome_iff_ne_none

theorem isBeingDeleted_eq_false_iff {cluster : ClusterDeclaration} :
    cluster.isBeingDeleted = false ↔ cluster.metadata.deletionTimestamp = none := by
  simp [isBeingDeleted]

/-- The reference by which other objects belong to the resource. It needs a name and a uid. -/
def ownerReference? (cluster : ClusterDeclaration) : Option OwnerReference := do
  let name ← cluster.metadata.name
  let uid ← cluster.metadata.uid
  return { apiVersion, kind, name, uid, controller := some true, blockOwnerDeletion := none }

end ClusterDeclaration

/-- The fields of references to secrets. -/
def SecretRef.fields : Fields := [fieldOf "namespace" String, fieldOf "name" String]

instance : Formed SecretRef := ⟨.record SecretRef.fields⟩

instance : Wire SecretRef where
  encode r := .object (field "namespace" r.inNamespace ++ field "name" r.name)
  decode v := do
    let m ← Members.ofValue SecretRef.fields.names v
    return ⟨← m.need "namespace", ← m.need "name"⟩

def ClusterSpec.fields : Fields :=
  [fieldOf "region" String, fieldOf "tokenSecretRef" SecretRef,
   fieldOf "highAvailability" (Option Bool), fieldOf "nodePools" (KeyMap PoolShape),
   fieldOf "kubernetesVersion" (Option String), fieldOf "tags" (Option (List String))]

instance : Formed ClusterSpec := ⟨.record ClusterSpec.fields⟩

instance : Wire ClusterSpec where
  encode s := .object <|
    field "region" s.region ++ field "tokenSecretRef" s.tokenSecretRef ++
    fieldIfSome "highAvailability" s.highAvailability ++ field "nodePools" s.nodePools ++
    fieldIfSome "kubernetesVersion" s.kubernetesVersion ++ fieldIfSome "tags" s.tags
  decode v := do
    let m ← Members.ofValue ClusterSpec.fields.names v
    return {
      region := ← m.need "region"
      tokenSecretRef := ← m.need "tokenSecretRef"
      highAvailability := ← m.optional "highAvailability"
      nodePools := ← m.need "nodePools"
      kubernetesVersion := ← m.optional "kubernetesVersion"
      tags := ← m.optional "tags" }

def ClusterStatus.fields : Fields :=
  [fieldOf "phase" Phase, fieldOf "clusterID" (Option Int64),
   fieldOf "nodePoolStatuses" (KeyMap PoolRecord), fieldOf "failureMessage" (Option String)]

instance : Formed ClusterStatus := ⟨.record ClusterStatus.fields⟩

instance : Wire ClusterStatus where
  encode s := .object <|
    field "phase" s.phase ++ fieldIfSome "clusterID" s.clusterId ++
    (if s.pools.isEmpty then [] else field "nodePoolStatuses" s.pools) ++
    fieldIfSome "failureMessage" s.failureMessage
  decode v := do
    let m ← Members.ofValue ClusterStatus.fields.names v
    return {
      phase := ← m.getD "phase" Phase.unknown
      clusterId := ← m.optional "clusterID"
      pools := ← m.getD "nodePoolStatuses" KeyMap.empty
      failureMessage := ← m.optional "failureMessage" }

def ClusterDeclaration.fields : Fields :=
  [fieldOf "metadata" Metadata, fieldOf "spec" ClusterSpec, fieldOf "status" (Option ClusterStatus)]

instance : Formed ClusterDeclaration := ⟨.record ClusterDeclaration.fields⟩

instance : Wire ClusterDeclaration where
  encode c := .object <|
    field "apiVersion" ClusterDeclaration.apiVersion ++ field "kind" ClusterDeclaration.kind ++
    field "metadata" c.metadata ++ field "spec" c.spec ++ fieldIfSome "status" c.status
  decode v := do
    let m ← Members.ofValue ClusterDeclaration.fields.names v
    return {
      metadata := ← m.need "metadata"
      spec := ← m.need "spec"
      status := ← m.optionalNamed "status" }

end ClusterKeeper
