import ClusterKeeper.Pass.Reconcile
import ClusterKeeper.Proofs.Logic.Pass
import ClusterKeeper.Proofs.Pools.Converged
import ClusterKeeper.Proofs.Pools.Resumption
import ClusterKeeper.Proofs.Settling.Choices
import ClusterKeeper.Proofs.Tags.Change
import ClusterKeeper.Proofs.Text.Base64
/-!
Sites: what there is for a resource, at the API server and at the provider.

A faithful provider does what it is asked to do and reports what is there, and a faithful API server
stores what is written. Nobody tells a pass to stop. Identifiers are bounded, so a provider has room
for so many more clusters and pools. A declaration does not change at a site, but for its finalizers
and its status.
-/

namespace ClusterKeeper

open Pools

/-- The secrets of an API server, by namespace and name. -/
structure Vault where
  find : String → String → Option Secret
  named : ∀ inNamespace name secret, find inNamespace name = some secret →
    secret.metadata.anyName = name

namespace Vault

/-- The vault with a secret in its place. -/
def put (v : Vault) (inNamespace : String) (secret : Secret) : Vault where
  find := fun other name =>
    if other = inNamespace ∧ name = secret.metadata.anyName then some secret else v.find other name
  named := by
    intro other name found hfound
    split at hfound
    · next heq =>
        rw [← Option.some.inj hfound]
        exact heq.2.symm
    · exact v.named other name found hfound

/-- A secret is written. The server may change its metadata, but for the name. -/
def Stores (v : Vault) (inNamespace : String) (secret : Secret) (v' : Vault) : Prop :=
  ∃ stored, stored.metadata.anyName = secret.metadata.anyName ∧ stored.data = secret.data ∧
    v' = v.put inNamespace stored

/-- The secret of the cluster has the kubeconfig. -/
def Holds (v : Vault) (cluster : ClusterDeclaration) (kubeconfig : Octets) : Prop :=
  ∃ secret, v.find cluster.inNamespace (Credentials.secretName cluster.name) = some secret ∧
    secret.entry? Credentials.entryName = some kubeconfig

theorem Stores.holds {v v' : Vault} {cluster : ClusterDeclaration} {secret : Secret}
    {kubeconfig : Octets} (h : v.Stores cluster.inNamespace secret v')
    (hname : secret.metadata.anyName = Credentials.secretName cluster.name)
    (hentry : secret.entry? Credentials.entryName = some kubeconfig) :
    v'.Holds cluster kubeconfig := by
  obtain ⟨stored, hstored, hdata, rfl⟩ := h
  have hplace : Credentials.secretName cluster.name = stored.metadata.anyName := by
    rw [hstored, hname]
  refine ⟨stored, if_pos ⟨rfl, hplace⟩, ?_⟩
  rw [Secret.entry?, hdata]
  exact hentry

/-- The secret comes to have the kubeconfig, and is left alone if it has it. -/
structure Syncs (v : Vault) (cluster : ClusterDeclaration) (kubeconfig : Octets) (v' : Vault) :
    Prop where
  holds : v'.Holds cluster kubeconfig
  same : v.Holds cluster kubeconfig → v' = v

end Vault

/-- An answer is a kubeconfig exactly if it is its written form between white space. -/
theorem Credentials.decode_eq_ok_iff {kubeconfig : EncodedKubeconfig} {octets : Octets} :
    decode kubeconfig = .ok octets ↔ Text.Wraps kubeconfig.content octets.toList := by
  rw [← Text.decode_trim_eq_ok_iff, decode]
  obtain ⟨list⟩ := octets
  cases Text.Base64.decode (Text.trim kubeconfig.content) <;> simp

theorem Credentials.kubeconfig_newSecret (cluster : ClusterDeclaration) (kubeconfig : Octets) :
    Secret.entry? (newSecret cluster kubeconfig) entryName = some kubeconfig := by
  have hkeys : ([(entryName, kubeconfig)].map (·.1)).Nodup := List.nodup_singleton _
  exact (KeyMap.get?_ofList hkeys).mpr (List.mem_singleton_self _)

theorem Secret.octets_withEntry (secret : Secret) (key : String) (octets : Octets) :
    Secret.entry? (secret.withEntry key octets) key = some octets :=
  KeyMap.get?_insert_self _ key octets

/-- A cluster at the provider. -/
structure Hosted where
  tags : List String
  highlyAvailable : Bool
  kubeconfig : Octets
  host : PoolHost

namespace Hosted

/-- The cluster is as it was asked for. -/
structure IsFor (h : Hosted) (request : ClusterCreation) : Prop where
  tags : h.tags = request.tags
  highlyAvailable : h.highlyAvailable =
    (request.controlPlane.bind ControlPlaneRequest.highlyAvailable).getD false
  pools : List.Forall₂ Meets h.host.pools request.pools
  distinct : (h.host.pools.map RemotePool.id).Nodup

/-- The cluster after a change of what the request names. -/
def changedBy (request : ClusterUpdate) (h : Hosted) : Hosted :=
  { h with
    tags := request.tags.getD h.tags
    highlyAvailable :=
      (request.controlPlane.bind ControlPlaneRequest.highlyAvailable).getD h.highlyAvailable }

/-- The cluster with other pools. -/
def withHost (host : PoolHost) (h : Hosted) : Hosted := { h with host }

/-- What is reported of the cluster; it is ready. -/
structure Reports (h : Hosted) (id : ClusterId) (remote : RemoteCluster) : Prop where
  id : remote.id = id
  tags : remote.tags = h.tags
  highlyAvailable : remote.controlPlane.highlyAvailable = h.highlyAvailable
  ready : remote.status = readyStatus

/-- Its pools can be told apart, and there is room for those that are missing. -/
structure IsWorkable (h : Hosted) (shapes : KeyMap PoolShape) : Prop where
  sound : IsSound h.host.pools
  room : (creations (planFor shapes h.host.pools).actions).length ≤ h.host.room

/-- Where the pools are as declared no room is needed. -/
theorem isWorkable_of_isConverged {h : Hosted} {shapes : KeyMap PoolShape}
    (hsound : IsSound h.host.pools) (hdecl : IsDeclarable shapes)
    (hconverged : IsConverged shapes h.host.pools) : h.IsWorkable shapes where
  sound := hsound
  room := by
    have hempty := isEmpty_planFor_of_isConverged hsound hdecl hconverged
    rw [actions_eq_nil hsound hdecl hempty]
    exact Nat.zero_le _

/-- A new cluster is workable. -/
theorem IsFor.isWorkable {h : Hosted} {cluster : ClusterDeclaration} {version : String}
    (hfor : h.IsFor (creationRequest cluster version))
    (hdecl : IsDeclarable cluster.spec.nodePools) : h.IsWorkable cluster.spec.nodePools := by
  apply isWorkable_of_isConverged _ hdecl
  · exact isConverged_of_meets hdecl hfor.pools
  · exact isSound_of_meets hdecl hfor.pools hfor.distinct

end Hosted

/-- What there is for a resource. -/
structure Site where
  finalizers : Option (List String)
  status : Option ClusterStatus
  vault : Vault
  clusters : ClusterId → Option Hosted
  /-- How many pools one more cluster can have, if there can be one more. -/
  offer : Option Nat

namespace Site

/-- The resource as it is stored. -/
def resource (cluster : ClusterDeclaration) (s : Site) : ClusterDeclaration :=
  { cluster with
    metadata := { cluster.metadata with finalizers := s.finalizers }
    status := s.status }

/-- The resource is kept until its cluster is gone. -/
def IsGuarded (s : Site) : Prop := clusterFinalizer ∈ s.finalizers.getD []

theorem isGuarded_resource_iff {cluster : ClusterDeclaration} {s : Site} :
    (s.resource cluster).isGuarded = true ↔ s.IsGuarded := ClusterDeclaration.isGuarded_iff

/-- The recorded status, or that of a new resource. -/
def currentStatus (s : Site) : ClusterStatus := s.status.getD ClusterStatus.blank

/-- The site with another status on record. -/
def withStatus (s : Site) (status : ClusterStatus) : Site := { s with status := some status }

/-- The site with a cluster changed. -/
def withCluster (s : Site) (id : ClusterId) (h : Hosted) : Site :=
  { s with clusters := fun other => if other = id then some h else s.clusters other }

theorem withCluster_self {s : Site} {id : ClusterId} {h : Hosted} (hlive : s.clusters id = some h) :
    s.withCluster id h = s := by
  have hsame : (fun other => if other = id then some h else s.clusters other) = s.clusters := by
    funext other
    split
    · next heq => rw [heq, hlive]
    · rfl
  rw [withCluster, hsame]

theorem withCluster_withCluster (s : Site) (id : ClusterId) (h h' : Hosted) :
    (s.withCluster id h).withCluster id h' = s.withCluster id h' := by
  have hlast : (fun other => if other = id then some h' else (s.withCluster id h).clusters other) =
      fun other => if other = id then some h' else s.clusters other := by
    funext other
    split
    · rfl
    · next hne => exact if_neg hne
  rw [withCluster, hlast]
  rfl

theorem clusters_withCluster (s : Site) (id : ClusterId) (h : Hosted) :
    (s.withCluster id h).clusters id = some h := if_pos rfl

/-- The cluster on record, if the provider knows it. -/
def recorded? (s : Site) : Option Hosted := s.currentStatus.clusterId.bind s.clusters

/-- The cluster on record can be worked on, or else a cluster can be made. -/
def IsStartable (s : Site) (cluster : ClusterDeclaration) : Prop :=
  match s.recorded? with
  | some h => h.IsWorkable cluster.spec.nodePools
  | none => ∃ capacity, s.offer = some capacity ∧ cluster.spec.nodePools.size ≤ capacity

/-- What is there is as declared, and what is recorded is what is there. -/
structure IsSettled (s : Site) (cluster : ClusterDeclaration) (id : ClusterId) (h : Hosted) :
    Prop where
  guarded : s.IsGuarded
  live : s.clusters id = some h
  status : s.currentStatus = ⟨.active, some id, observed h.host.pools, none⟩
  tags : Tags.InLine cluster h.tags
  highlyAvailable : h.highlyAvailable = cluster.spec.highAvailability.getD false
  sound : IsSound h.host.pools
  converged : IsConverged cluster.spec.nodePools h.host.pools
  held : s.vault.Holds cluster h.kubeconfig

/-- The cluster comes to be settled; if it is settled, nothing changes. -/
structure Settles (s : Site) (cluster : ClusterDeclaration) (id : ClusterId) (h : Hosted)
    (s' : Site) (h' : Hosted) : Prop where
  settled : s'.IsSettled cluster id h'
  same : s.IsSettled cluster id h → s' = s

end Site

/-- The call reads, or it asks for the control plane of a cluster to be as declared and leaves the
tags alone. -/
def Call.IsResting (cluster : ClusterDeclaration) (id : ClusterId) : Call → Prop
  | connect _ | listVersions | getCluster _ | getKubeconfig _ | listPools _ | getSecret .. => True
  | updateCluster other request =>
      other = id ∧ request = ⟨none, some ⟨some (cluster.spec.highAvailability.getD false)⟩⟩
  | _ => False

namespace Hosted

variable {h : Hosted} {id : ClusterId} {cluster : ClusterDeclaration} {remote : RemoteCluster}

/-- After an update the cluster is highly available or not, as declared. -/
theorem highlyAvailable_changedBy (h : Hosted) (cluster : ClusterDeclaration)
    (remote : RemoteCluster) : (h.changedBy (updateRequest cluster remote)).highlyAvailable =
      cluster.spec.highAvailability.getD false := rfl

variable (hreport : h.Reports id remote)
include hreport

theorem Reports.tagChange?_eq :
    tagChange? cluster remote = Tags.change? (Tags.desired? cluster) h.tags :=
  congrArg (Tags.change? (Tags.desired? cluster)) hreport.tags

/-- After an update the tags are as declared. -/
theorem Reports.inLine_changedBy :
    Tags.InLine cluster (h.changedBy (updateRequest cluster remote)).tags := by
  have htags : (h.changedBy (updateRequest cluster remote)).tags =
      (tagChange? cluster remote).getD h.tags := rfl
  rw [htags, hreport.tagChange?_eq, ← Tags.change?_desired?_eq_none_iff]
  exact Tags.change?_getD _ _

variable (htags : Tags.InLine cluster h.tags)
include htags

theorem Reports.tagChange?_eq_none : tagChange? cluster remote = none := by
  rw [hreport.tagChange?_eq, Tags.change?_desired?_eq_none_iff]
  exact htags

/-- Where the tags are as declared, they are not asked for. -/
theorem Reports.updateRequest_eq :
    updateRequest cluster remote =
      ⟨none, some ⟨some (cluster.spec.highAvailability.getD false)⟩⟩ := by
  rw [updateRequest, hreport.tagChange?_eq_none htags]
  rfl

variable (hha : h.highlyAvailable = cluster.spec.highAvailability.getD false)
include hha

theorem Reports.changedBy_eq : h.changedBy (updateRequest cluster remote) = h := by
  rw [hreport.updateRequest_eq htags]
  obtain ⟨tags, highlyAvailable, kubeconfig, host⟩ := h
  obtain rfl : highlyAvailable = cluster.spec.highAvailability.getD false := hha
  rfl

theorem Reports.settingsDiffer_eq : settingsDiffer cluster remote = false := by
  rw [settingsDiffer, hreport.tagChange?_eq_none htags, hreport.highlyAvailable, hha]
  exact bne_self_eq_false _

end Hosted

/-- What comes of a call, at a provider and an API server that do what they are asked to. -/
def Site.Does (cluster : ClusterDeclaration) (s : Site) :
    (c : Call) → Response c.Reply → Site → Prop
  | .connect _, response, s' => response.reply = Except.ok () ∧ s' = s
  | .listVersions, response, s' =>
      (∃ offered, response.reply = Except.ok offered ∧ Version.IsOffer offered) ∧ s' = s
  | .getCluster id, response, s' =>
      (∀ h, s.clusters id = some h → ∃ remote, response.reply = Except.ok remote ∧
        h.Reports id remote) ∧
      (s.clusters id = none → response.reply = Except.error ProviderFault.notFound) ∧ s' = s
  | .createCluster request, response, s' =>
      ∀ capacity, s.offer = some capacity → request.pools.length ≤ capacity →
        ∃ remote h offer, response.reply = Except.ok remote ∧ s.clusters remote.id = none ∧
          h.IsFor request ∧ s' = { s.withCluster remote.id h with offer }
  | .updateCluster id request, response, s' =>
      ∀ h, s.clusters id = some h →
        response.reply = Except.ok () ∧ s' = s.withCluster id (h.changedBy request)
  | .getKubeconfig id, response, s' =>
      ∀ h, s.clusters id = some h →
        (∃ kubeconfig, response.reply = Except.ok kubeconfig ∧
          Text.Wraps kubeconfig.content h.kubeconfig.toList) ∧ s' = s
  | .listPools id, response, s' =>
      ∀ h, s.clusters id = some h →
        (∃ listing, response.reply = Except.ok listing ∧ Shows h.host.pools listing) ∧ s' = s
  | .createPool id request, response, s' =>
      ∀ h, s.clusters id = some h → ∃ host,
        Obliging id h.host (.createPool id request) response host ∧
          s' = s.withCluster id (h.withHost host)
  | .updatePool id pool request, response, s' =>
      ∀ h, s.clusters id = some h → ∃ host,
        Obliging id h.host (.updatePool id pool request) response host ∧
          s' = s.withCluster id (h.withHost host)
  | .deletePool id pool, response, s' =>
      ∀ h, s.clusters id = some h → ∃ host,
        Obliging id h.host (.deletePool id pool) response host ∧
          s' = s.withCluster id (h.withHost host)
  | .patchStatus inNamespace name status, response, s' =>
      inNamespace = cluster.inNamespace → name = cluster.name →
        response.reply = Except.ok () ∧ s' = s.withStatus status
  | .addFinalizer inNamespace name, response, s' =>
      inNamespace = cluster.inNamespace → name = cluster.name →
        response.reply = Except.ok () ∧
          ∃ finalizers, s' = { s with finalizers } ∧ s'.IsGuarded
  | .getSecret inNamespace name, response, s' =>
      response.reply = Except.ok (s.vault.find inNamespace name) ∧ s' = s
  | .createSecret inNamespace secret, response, s' =>
      s.vault.find inNamespace secret.metadata.anyName = none →
        response.reply = Except.ok () ∧
          ∃ vault, s.vault.Stores inNamespace secret vault ∧ s' = { s with vault }
  | .replaceSecret inNamespace secret, response, s' =>
      s.vault.find inNamespace secret.metadata.anyName ≠ none →
        response.reply = Except.ok () ∧
          ∃ vault, s.vault.Stores inNamespace secret vault ∧ s' = { s with vault }
  | .deleteCluster _, _, _ => True
  | .removeFinalizer _ _, _, _ => True

/-- Collaborators that do what they are asked to, and do not tell a pass to stop. -/
def Faithful (cluster : ClusterDeclaration) : Conduct Site := fun s c response s' =>
  response.cancels = false ∧ s.Does cluster c response s'

theorem isCalm_faithful (cluster : ClusterDeclaration) : (Faithful cluster).IsCalm :=
  fun _ _ _ _ h => h.1

/-- What comes of a request about the pools of a cluster that is there. -/
theorem Site.Does.toCall {cluster : ClusterDeclaration} {s s' : Site} {id : ClusterId}
    {action : PoolAction} {response : Response (action.toCall id).Reply} {h : Hosted}
    (hdoes : s.Does cluster (action.toCall id) response s') (hlive : s.clusters id = some h) :
    ∃ host, Obliging id h.host (action.toCall id) response host ∧
      s' = s.withCluster id (h.withHost host) := by
  cases action with
  | create name shape => exact hdoes h hlive
  | update name pool shape => exact hdoes h hlive
  | delete name pool => exact hdoes h hlive

end ClusterKeeper
