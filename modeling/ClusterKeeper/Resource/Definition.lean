import ClusterKeeper.Resource.Cluster
import ClusterKeeper.Resource.Schema
/-!
The definition of the resource, as it is installed at the API server: its names, its schema, and the
columns in which it is listed.
-/

namespace ClusterKeeper.Definition

/-- The group and version of definitions. -/
def apiVersion : String := "apiextensions.k8s.io/v1"

def kind : String := "CustomResourceDefinition"

def name : String := ClusterDeclaration.plural ++ "." ++ ClusterDeclaration.group

/-- Notes on a value that may be null. -/
def optionalNotes (description : String) : SchemaNotes :=
  { SchemaNotes.of description with nullable := true }

/-- Notes on a value that has a default. -/
def defaultNotes (description : String) (default : Value) : SchemaNotes :=
  { SchemaNotes.of description with default := some default }

def describedText (description : String) : Schema := .text (SchemaNotes.of description) []

/-- The lower and the upper bound that are accepted as the least number of nodes. -/
def minimumRange : Nat × Nat := (0, 100)

/-- The lower and the upper bound that are accepted as the greatest number of nodes. -/
def maximumRange : Nat × Nat := (3, 100)

/-- The number of nodes, within a range. -/
def nodeBound (description : String) (range : Nat × Nat) : Schema :=
  .integer (SchemaNotes.of description) "uint32" (some range.1) (some range.2)

def scalingBounds : Schema :=
  .record (optionalNotes "Optional autoscaler bounds")
    [("max", nodeBound "Maximum number of nodes (3-100)" maximumRange),
     ("min", nodeBound "Minimum number of nodes (0-100)" minimumRange)]
    ["max", "min"]

def poolShape (description : String) : Schema :=
  .record (SchemaNotes.of description)
    [("autoscaler", scalingBounds),
     ("linodeType", .text
        (defaultNotes "Linode instance type for the nodes (default: g6-standard-1)"
          (encode PoolShape.defaultInstanceType)) []),
     ("nodeCount", .integer
        (defaultNotes "Number of nodes in the pool (default: 3)"
          (encode PoolShape.defaultNodeCount)) "uint32" (some 0) none)]
    []

/-- The schema of references to secrets. -/
def secretRef : Schema :=
  .record (SchemaNotes.of "Secret holding the Linode API token")
    [("name", describedText "Name of the secret"),
     ("namespace", describedText "Namespace of the secret")]
    ["name", "namespace"]

def spec : Schema :=
  .record (SchemaNotes.of "Specification for an LKEClusterConfig")
    [("highAvailability", .flag
        (optionalNotes "Request a highly-available control plane (defaults to false)")),
     ("kubernetesVersion", .text
        (optionalNotes
          "Kubernetes version, either an explicit `major.minor` or \"latest\"") []),
     ("nodePools", .map (SchemaNotes.of "Node pools keyed by logical name") <|
        poolShape ("A pool of worker nodes sharing an instance type\n\nEquality is structural: " ++
          "two pools are equal iff node count, instance type and autoscaler (including its " ++
          "presence) are equal.")),
     ("region", describedText "Region where the cluster is provisioned"),
     ("tags", .list
        (optionalNotes ("Tags applied to the remote cluster\n\nWhen unset, the " ++
          "`lke.anza-labs.dev/tags` annotation is consulted instead."))
        Schema.bareText),
     ("tokenSecretRef", secretRef)]
    ["nodePools", "region", "tokenSecretRef"]

def poolRecord : Schema :=
  .record (SchemaNotes.of ("Observed state of one logical node pool\n\nAn absent `id` means " ++
      "the pool is desired but not yet created remotely."))
    [("details", poolShape "Pool shape as last observed"),
     ("id", .integer (optionalNotes "Remote node pool ID") "int64" none none)]
    ["details"]

def status : Schema :=
  .record (optionalNotes "Status for an LKEClusterConfig")
    [("clusterID", .integer (optionalNotes "ID of the remote cluster; never changes once set")
        "int64" none none),
     ("failureMessage", .text
        (optionalNotes "Human-readable description of the last failure") []),
     ("nodePoolStatuses", .map (SchemaNotes.of "Observed node pools keyed by logical name")
        poolRecord),
     ("phase", .text
        (defaultNotes "Advisory lifecycle phase" (encode (default : Phase)))
        (Phase.all.map Phase.name))]
    []

def resource : Schema :=
  .record
    { SchemaNotes.of
        "Auto-generated derived type for LkeClusterConfigSpec via `CustomResource`" with
      title := some "LkeClusterConfig" }
    [("spec", spec), ("status", status)]
    ["spec"]

/-- A column in which resources are listed. -/
def column (path title type : String) : Value :=
  .object (field "jsonPath" path ++ field "name" title ++ field "type" type)

/-- The columns in which resources are listed. -/
def columns : List Value :=
  [column ".status.phase" "Phase" "string",
   column ".spec.region" "Region" "string",
   column ".status.clusterID" "ClusterID" "integer",
   column ".metadata.creationTimestamp" "Age" "date"]

/-- The names of the resource. -/
def names : Value :=
  .object <|
    field "categories" ([] : List String) ++ field "kind" ClusterDeclaration.kind ++
    field "plural" ClusterDeclaration.plural ++ field "shortNames" ["lke"] ++
    field "singular" "lkeclusterconfig"

/-- The one version of the resource. -/
def servedVersion : Value :=
  .object <|
    field "additionalPrinterColumns" columns ++ field "name" ClusterDeclaration.version ++
    field "schema" (Value.object (field "openAPIV3Schema" resource.toValue)) ++
    field "served" true ++ field "storage" true ++
    field "subresources" (Value.object (field "status" (Value.object [])))

/-- The definition as it is written. -/
def document : Value :=
  .object <|
    field "apiVersion" apiVersion ++ field "kind" kind ++
    field "metadata" (Value.object (field "name" name)) ++
    field "spec" (Value.object <|
      field "group" ClusterDeclaration.group ++ field "names" names ++
      field "scope" "Namespaced" ++ field "versions" [servedVersion])

end ClusterKeeper.Definition
