import ClusterKeeper.Api.Http
import ClusterKeeper.Pass.Reconcile
import ClusterKeeper.Resource.Definition
/-!
What a pass asks of the API server, as requests.

The status is applied as a whole by one manager, so that pools that are gone disappear. Finalizers
are read, changed and written back.
-/

namespace ClusterKeeper.Api

/-- The name under which fields are managed. -/
def fieldManager : String := "lke-operator"

/-- The query of a request that applies fields, also where another manager has them. -/
def applyQuery : String := "?&force=true&fieldManager=" ++ fieldManager

/-- The path of the declarations in a namespace. -/
def clustersPath (inNamespace : String) : String :=
  "/apis/" ++ ClusterDeclaration.apiVersion ++ "/namespaces/" ++ inNamespace ++ "/" ++
    ClusterDeclaration.plural

def secretsPath (inNamespace : String) : String :=
  "/api/" ++ Secret.apiVersion ++ "/namespaces/" ++ inNamespace ++ "/secrets"

def definitionPath : String :=
  "/apis/" ++ Definition.apiVersion ++ "/customresourcedefinitions/" ++ Definition.name

/-! ### Declarations -/

/-- Reads a declaration. -/
def getCluster (inNamespace name : String) : Client ClusterDeclaration :=
  named name <| send ⟨.get, clustersPath inNamespace ++ "/" ++ name, none⟩

/-- A status as all that is managed of a declaration. -/
def statusPatch (status : ClusterStatus) : Value :=
  .object <|
    field "apiVersion" ClusterDeclaration.apiVersion ++ field "kind" ClusterDeclaration.kind ++
    field "status" status

/-- Writes the status of a declaration. -/
def patchStatus (inNamespace name : String) (status : ClusterStatus) : Client Unit := do
  let _ : ClusterDeclaration ← named name <| send
    ⟨.patch, clustersPath inNamespace ++ "/" ++ name ++ "/status" ++ applyQuery,
      some (.applyPatch, statusPatch status)⟩
  return ()

/-- Finalizers as a change of a declaration. -/
def finalizersPatch (finalizers : List String) : Value :=
  .object (field "metadata" (Value.object (field "finalizers" finalizers)))

/-- Writes the finalizers of a declaration. -/
def setFinalizers (inNamespace name : String) (finalizers : List String) : Client Unit := do
  let _ : ClusterDeclaration ← named name <| send
    ⟨.patch, clustersPath inNamespace ++ "/" ++ name ++ "?",
      some (.mergePatch, finalizersPatch finalizers)⟩
  return ()

/-- Puts the finalizer on a declaration, behind the others, unless it has it. -/
def addFinalizer (inNamespace name : String) : Client Unit := do
  let cluster ← getCluster inNamespace name
  let finalizers := cluster.metadata.finalizerList
  if finalizers.contains clusterFinalizer then return ()
  setFinalizers inNamespace name (finalizers ++ [clusterFinalizer])

/-- Takes the finalizer off a declaration, if there is one. -/
def removeFinalizer (inNamespace name : String) : Client Unit := do
  match ← orAbsent (getCluster inNamespace name) with
  | none => return ()
  | some cluster =>
      setFinalizers inNamespace name
        (cluster.metadata.finalizerList.filter (· != clusterFinalizer))

/-! ### Secrets -/

/-- Reads a secret, if it exists. -/
def getSecret (inNamespace name : String) : Client (Option Secret) :=
  orAbsent <| named name <| send ⟨.get, secretsPath inNamespace ++ "/" ++ name, none⟩

def createSecret (inNamespace : String) (secret : Secret) : Client Unit := do
  let _ : Secret ← send ⟨.post, secretsPath inNamespace ++ "?", some (.json, encode secret)⟩
  return ()

/-- Puts a secret in the place of the one of its name. -/
def replaceSecret (inNamespace : String) (secret : Secret) : Client Unit := do
  let name := secret.metadata.anyName
  let _ : Secret ← named name <| send
    ⟨.put, secretsPath inNamespace ++ "/" ++ name ++ "?", some (.json, encode secret)⟩
  return ()

/-! ### The definition of the resource -/

/-- A definition as the server answers with it; only its form is looked at. -/
structure InstalledDefinition where
  metadata : Metadata

/-- The form of a definition's spec: an object whose known members are of their kinds. -/
def checkDefinitionSpec (v : Value) : Except Mismatch Unit := do
  let m ← storedMembers v
  let _ : Option String ← storedMember m "group"
  let _ : Option String ← storedMember m "scope"
  let _ : Option (KeyMap Value) ← storedMember m "names"
  let _ : Option (List Value) ← storedMember m "versions"
  return ()

instance : Wire InstalledDefinition where
  encode d := .object <|
    field "apiVersion" Definition.apiVersion ++ field "kind" Definition.kind ++
    field "metadata" d.metadata
  decode v := do
    let m ← storedMembers v
    requireStoredText m "apiVersion" Definition.apiVersion
    requireStoredText m "kind" Definition.kind
    match ← storedMember (α := Value) m "spec" with
    | some spec => checkDefinitionSpec spec
    | none => pure ()
    let _ : Option (KeyMap Value) ← storedMember m "status"
    return ⟨(← storedMember m "metadata").getD Metadata.blank⟩

/-- Installs or updates the definition of the resource. -/
def ensureDefinition : Client Unit := do
  let _ : InstalledDefinition ← named Definition.name <| send
    ⟨.patch, definitionPath ++ applyQuery, some (.applyPatch, Definition.document)⟩
  return ()

/-! ### Calls -/

/-- The calls of a pass that are requests to the API server. -/
def ofCall? : (c : Call) → Option (Dialogue Request (fun _ => Delivery) c.Reply)
  | .patchStatus inNamespace name status => some (patchStatus inNamespace name status).run
  | .addFinalizer inNamespace name => some (addFinalizer inNamespace name).run
  | .removeFinalizer inNamespace name => some (removeFinalizer inNamespace name).run
  | .getSecret inNamespace name => some (getSecret inNamespace name).run
  | .createSecret inNamespace secret => some (createSecret inNamespace secret).run
  | .replaceSecret inNamespace secret => some (replaceSecret inNamespace secret).run
  | _ => none

end ClusterKeeper.Api
