import ClusterKeeper.Pass.Call
import ClusterKeeper.Text.Blank
/-!
Keeping the kubeconfig of a cluster in a secret beside the resource.

A secret that holds the kubeconfig already is left alone; in one that does not, the one entry is
set. A missing secret is created, marked, and made to belong to the resource.
-/

namespace ClusterKeeper.Credentials

/-- The entry of the secret with the kubeconfig. -/
def entryName : String := "kubeconfig"

/-- The label of secrets made here. -/
def managerLabel : String := "app.kubernetes.io/managed-by"

/-- The value of that label. -/
def managerName : String := "lke-operator"

def secretName (cluster : String) : String := cluster ++ "-kubeconfig"

/-- The kubeconfig in what the provider hands out, in base64 between white space. -/
def decode (kubeconfig : EncodedKubeconfig) : Except Fault Octets :=
  match Text.Base64.decode (Text.trim kubeconfig.content) with
  | .ok octets => .ok ⟨octets⟩
  | .error flaw => .error (.serialization s!"kubeconfig is not valid base64: {flaw.message}")

def newSecret (cluster : ClusterDeclaration) (octets : Octets) : Secret where
  metadata :=
    { Metadata.blank with
      name := some (secretName cluster.name)
      inNamespace := some cluster.inNamespace
      labels := some (KeyMap.ofList [(managerLabel, managerName)])
      ownerReferences := cluster.ownerReference?.map fun reference => [reference] }
  data := some (KeyMap.ofList [(entryName, octets)])
  stringData := none
  type := none
  immutable := none

/-- Makes the secret hold the kubeconfig. -/
def store (cluster : ClusterDeclaration) (octets : Octets) : Step Unit := do
  let found ← Step.fallible <|
    (Call.getSecret cluster.inNamespace (secretName cluster.name)).ask
  match found with
  | none =>
      Step.fallible (Call.createSecret cluster.inNamespace (newSecret cluster octets)).ask
  | some secret =>
      if secret.entry? entryName = some octets then return ()
      else Step.fallible <|
        (Call.replaceSecret cluster.inNamespace (secret.withEntry entryName octets)).ask

/-- Brings the secret up to date. False where the provider has no kubeconfig yet. -/
def sync (cluster : ClusterDeclaration) (id : ClusterId) : Step Bool := do
  let reply : Except ProviderFault EncodedKubeconfig ←
    liftM (Call.getKubeconfig id).ask
  match reply with
  | .error .notAvailable => return false
  | .error cause => throw (.provider "get kubeconfig" cause)
  | .ok kubeconfig =>
      let octets ← liftExcept (decode kubeconfig)
      store cluster octets
      return true

end ClusterKeeper.Credentials
