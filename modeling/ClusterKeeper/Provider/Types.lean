import ClusterKeeper.Data.Wire
/-!
What the managed-cluster provider knows and what it is asked for.

Remote things carry the provider's identifiers. Requests to change something leave out what is to
stay as it is.
-/

namespace ClusterKeeper

/-- The provider's identifier of a cluster. -/
abbrev ClusterId := Int64

/-- The provider's identifier of a node pool. -/
abbrev PoolId := Int64

/-- The status that the provider reports of clusters and nodes that are ready. -/
def readyStatus : String := "ready"

/-- A version of Kubernetes that the provider offers. -/
structure RemoteVersion where
  id : String
  deriving Repr, DecidableEq

/-- The control plane of a remote cluster. -/
structure ControlPlane where
  highlyAvailable : Bool
  deriving Repr, DecidableEq

/-- A cluster at the provider. -/
structure RemoteCluster where
  id : ClusterId
  label : String
  region : String
  version : String
  status : String
  tags : List String
  controlPlane : ControlPlane
  deriving Repr, DecidableEq

/-- The automatic scaling of a pool at the provider. -/
structure RemoteScaling where
  enabled : Bool
  min : UInt32
  max : UInt32
  deriving Repr, DecidableEq

namespace RemoteScaling

/-- No automatic scaling. -/
def off : RemoteScaling := ⟨false, 0, 0⟩

end RemoteScaling

/-- A node of a pool at the provider. -/
structure RemoteNode where
  id : String
  instanceId : Option Int64
  status : String
  deriving Repr, DecidableEq

/-- A node pool at the provider. It has no name of its own; a tag carries one. -/
structure RemotePool where
  id : PoolId
  count : UInt32
  instanceType : String
  tags : List String
  scaling : RemoteScaling
  nodes : List RemoteNode
  deriving Repr, DecidableEq

/-- A kubeconfig as the provider hands it out, in base64. -/
structure EncodedKubeconfig where
  content : String
  deriving Repr, DecidableEq

/-- The wanted control plane; none leaves it as it is. -/
structure ControlPlaneRequest where
  highlyAvailable : Option Bool
  deriving Repr, DecidableEq

/-- A node pool to be created. -/
structure PoolCreation where
  count : UInt32
  instanceType : String
  tags : List String
  scaling : Option RemoteScaling
  deriving Repr, DecidableEq

/-- A change of a node pool. -/
structure PoolUpdate where
  count : UInt32
  tags : Option (List String)
  scaling : Option RemoteScaling
  deriving Repr, DecidableEq

/-- A cluster to be created. -/
structure ClusterCreation where
  label : String
  region : String
  version : String
  pools : List PoolCreation
  tags : List String
  controlPlane : Option ControlPlaneRequest
  deriving Repr, DecidableEq

/-- A change of a cluster. -/
structure ClusterUpdate where
  tags : Option (List String)
  controlPlane : Option ControlPlaneRequest
  deriving Repr, DecidableEq

/-! ### Written forms -/

def RemoteVersion.fields : Fields := [fieldOf "id" String]

instance : Formed RemoteVersion := ⟨.record RemoteVersion.fields⟩

instance : Wire RemoteVersion where
  encode v := .object (field "id" v.id)
  decode v := do
    let m ← Members.ofValue RemoteVersion.fields.names v
    return ⟨← m.need "id"⟩

def ControlPlane.fields : Fields := [fieldOf "high_availability" Bool]

instance : Formed ControlPlane := ⟨.record ControlPlane.fields⟩

instance : Wire ControlPlane where
  encode c := .object (field "high_availability" c.highlyAvailable)
  decode v := do
    let m ← Members.ofValue ControlPlane.fields.names v
    return ⟨← m.need "high_availability"⟩

def RemoteCluster.fields : Fields :=
  [fieldOf "id" ClusterId, fieldOf "label" String, fieldOf "region" String,
   fieldOf "k8s_version" String, fieldOf "status" String, fieldOf "tags" (List String),
   fieldOf "control_plane" ControlPlane]

instance : Formed RemoteCluster := ⟨.record RemoteCluster.fields⟩

instance : Wire RemoteCluster where
  encode c := .object <|
    field "id" c.id ++ field "label" c.label ++ field "region" c.region ++
    field "k8s_version" c.version ++ field "status" c.status ++ field "tags" c.tags ++
    field "control_plane" c.controlPlane
  decode v := do
    let m ← Members.ofValue RemoteCluster.fields.names v
    return {
      id := ← m.need "id"
      label := ← m.need "label"
      region := ← m.need "region"
      version := ← m.need "k8s_version"
      status := ← m.need "status"
      tags := ← m.getD "tags" []
      controlPlane := ← m.getD "control_plane" ⟨false⟩ }

/-- The fields of automatic scaling. -/
def RemoteScaling.fields : Fields :=
  [fieldOf "enabled" Bool, fieldOf "min" UInt32, fieldOf "max" UInt32]

instance : Formed RemoteScaling := ⟨.record RemoteScaling.fields⟩

instance : Wire RemoteScaling where
  encode s := .object (field "enabled" s.enabled ++ field "min" s.min ++ field "max" s.max)
  decode v := do
    let m ← Members.ofValue RemoteScaling.fields.names v
    return ⟨← m.need "enabled", ← m.need "min", ← m.need "max"⟩

/-- The fields of nodes. -/
def RemoteNode.fields : Fields :=
  [fieldOf "id" String, fieldOf "instance_id" (Option Int64), fieldOf "status" String]

instance : Formed RemoteNode := ⟨.record RemoteNode.fields⟩

instance : Wire RemoteNode where
  encode n := .object <|
    field "id" n.id ++ field "instance_id" n.instanceId ++ field "status" n.status
  decode v := do
    let m ← Members.ofValue RemoteNode.fields.names v
    return ⟨← m.need "id", ← m.optional "instance_id", ← m.need "status"⟩

def RemotePool.fields : Fields :=
  [fieldOf "id" PoolId, fieldOf "count" UInt32, fieldOf "type" String,
   fieldOf "tags" (List String), fieldOf "autoscaler" RemoteScaling,
   fieldOf "nodes" (List RemoteNode)]

instance : Formed RemotePool := ⟨.record RemotePool.fields⟩

instance : Wire RemotePool where
  encode p := .object <|
    field "id" p.id ++ field "count" p.count ++ field "type" p.instanceType ++
    field "tags" p.tags ++ field "autoscaler" p.scaling ++ field "nodes" p.nodes
  decode v := do
    let m ← Members.ofValue RemotePool.fields.names v
    return {
      id := ← m.need "id"
      count := ← m.need "count"
      instanceType := ← m.need "type"
      tags := ← m.getD "tags" []
      scaling := ← m.getD "autoscaler" RemoteScaling.off
      nodes := ← m.getD "nodes" [] }

def EncodedKubeconfig.fields : Fields := [fieldOf "kubeconfig" String]

instance : Formed EncodedKubeconfig := ⟨.record EncodedKubeconfig.fields⟩

instance : Wire EncodedKubeconfig where
  encode k := .object (field "kubeconfig" k.content)
  decode v := do
    let m ← Members.ofValue EncodedKubeconfig.fields.names v
    return ⟨← m.need "kubeconfig"⟩

/-- The fields of wanted control planes. -/
def ControlPlaneRequest.fields : Fields := [fieldOf "high_availability" (Option Bool)]

instance : Formed ControlPlaneRequest := ⟨.record ControlPlaneRequest.fields⟩

instance : Wire ControlPlaneRequest where
  encode c := .object (fieldIfSome "high_availability" c.highlyAvailable)
  decode v := do
    let m ← Members.ofValue ControlPlaneRequest.fields.names v
    return ⟨← m.optional "high_availability"⟩

/-- The fields of pools to be created. -/
def PoolCreation.fields : Fields :=
  [fieldOf "count" UInt32, fieldOf "type" String, fieldOf "tags" (List String),
   fieldOf "autoscaler" (Option RemoteScaling)]

instance : Formed PoolCreation := ⟨.record PoolCreation.fields⟩

instance : Wire PoolCreation where
  encode p := .object <|
    field "count" p.count ++ field "type" p.instanceType ++ fieldUnlessEmpty "tags" p.tags ++
    fieldIfSome "autoscaler" p.scaling
  decode v := do
    let m ← Members.ofValue PoolCreation.fields.names v
    return {
      count := ← m.need "count"
      instanceType := ← m.need "type"
      tags := ← m.getD "tags" []
      scaling := ← m.optional "autoscaler" }

/-- The fields of changes of pools. -/
def PoolUpdate.fields : Fields :=
  [fieldOf "count" UInt32, fieldOf "tags" (Option (List String)),
   fieldOf "autoscaler" (Option RemoteScaling)]

instance : Formed PoolUpdate := ⟨.record PoolUpdate.fields⟩

instance : Wire PoolUpdate where
  encode p := .object <|
    field "count" p.count ++ fieldIfSome "tags" p.tags ++ fieldIfSome "autoscaler" p.scaling
  decode v := do
    let m ← Members.ofValue PoolUpdate.fields.names v
    return {
      count := ← m.need "count"
      tags := ← m.optional "tags"
      scaling := ← m.optional "autoscaler" }

/-- The fields of clusters to be created. -/
def ClusterCreation.fields : Fields :=
  [fieldOf "label" String, fieldOf "region" String, fieldOf "k8s_version" String,
   fieldOf "node_pools" (List PoolCreation), fieldOf "tags" (List String),
   fieldOf "control_plane" (Option ControlPlaneRequest)]

instance : Formed ClusterCreation := ⟨.record ClusterCreation.fields⟩

instance : Wire ClusterCreation where
  encode c := .object <|
    field "label" c.label ++ field "region" c.region ++ field "k8s_version" c.version ++
    field "node_pools" c.pools ++ fieldUnlessEmpty "tags" c.tags ++
    fieldIfSome "control_plane" c.controlPlane
  decode v := do
    let m ← Members.ofValue ClusterCreation.fields.names v
    return {
      label := ← m.need "label"
      region := ← m.need "region"
      version := ← m.need "k8s_version"
      pools := ← m.need "node_pools"
      tags := ← m.getD "tags" []
      controlPlane := ← m.optional "control_plane" }

/-- The fields of changes of clusters. -/
def ClusterUpdate.fields : Fields :=
  [fieldOf "tags" (Option (List String)), fieldOf "control_plane" (Option ControlPlaneRequest)]

instance : Formed ClusterUpdate := ⟨.record ClusterUpdate.fields⟩

instance : Wire ClusterUpdate where
  encode c := .object (fieldIfSome "tags" c.tags ++ fieldIfSome "control_plane" c.controlPlane)
  decode v := do
    let m ← Members.ofValue ClusterUpdate.fields.names v
    return ⟨← m.optional "tags", ← m.optional "control_plane"⟩

end ClusterKeeper
