import ClusterKeeper.Proofs.Pass.Kubeconfig
/-!
To whom the secret with the kubeconfig belongs.

A secret that is made here has the label by which secrets are watched, and a reference to the
resource with which it is collected. Of a secret that is found only the entry is looked at and set,
so it is left with the marks that it had, whatever they are.
-/

namespace ClusterKeeper

variable {σ : Type} {cluster : ClusterDeclaration} {octets : Octets} {v v' : Vault}
  {calls : List Call} {name uid : String}

/-- The reference is to the resource, as what controls its owner. -/
structure OwnerReference.Controls (reference : OwnerReference) (cluster : ClusterDeclaration) :
    Prop where
  apiVersion : reference.apiVersion = ClusterDeclaration.apiVersion
  kind : reference.kind = ClusterDeclaration.kind
  name : some reference.name = cluster.metadata.name
  uid : some reference.uid = cluster.metadata.uid
  controller : reference.controller = some true

/-- The secret is watched, and it is collected with the resource. -/
structure Secret.IsOwnedBy (secret : Secret) (cluster : ClusterDeclaration) : Prop where
  label : (secret.metadata.labels.bind fun labels => labels.get? Credentials.managerLabel) =
    some Credentials.managerName
  controlled : ∃ reference ∈ secret.metadata.ownerReferences.getD [], reference.Controls cluster

/-- The label and the references are all that ownership depends on. -/
theorem Secret.IsOwnedBy.of_marks {secret other : Secret} (h : other.IsOwnedBy cluster)
    (hlabels : secret.metadata.labels = other.metadata.labels)
    (hreferences : secret.metadata.ownerReferences = other.metadata.ownerReferences) :
    secret.IsOwnedBy cluster where
  label := hlabels ▸ h.label
  controlled := hreferences ▸ h.controlled

theorem ClusterDeclaration.exists_ownerReference (hname : cluster.metadata.name = some name)
    (huid : cluster.metadata.uid = some uid) :
    ∃ reference, cluster.ownerReference? = some reference ∧ reference.Controls cluster := by
  refine ⟨_, by rw [ownerReference?, hname, huid]; rfl, ?_⟩
  exact ⟨rfl, rfl, hname.symm, huid.symm, rfl⟩

/-- A secret that was made here belongs to the resource. -/
theorem Credentials.IsFirst.isOwnedBy {sent : Secret} (h : IsFirst cluster octets sent)
    (hname : cluster.metadata.name = some name) (huid : cluster.metadata.uid = some uid) :
    sent.IsOwnedBy cluster := by
  obtain ⟨reference, hreference, hcontrols⟩ :=
    ClusterDeclaration.exists_ownerReference hname huid
  constructor
  · rw [h.labels]
    rfl
  · rw [h.ownerReferences, hreference]
    exact ⟨reference, List.mem_singleton_self reference, hcontrols⟩

/-- A secret is left with the marks that it had. -/
theorem Credentials.Maintains.isOwnedBy_iff (h : Maintains cluster octets v calls v')
    (hname : cluster.metadata.name = some name) (huid : cluster.metadata.uid = some uid) :
    ∃ stored, v'.secretOf cluster = some stored ∧ (stored.IsOwnedBy cluster ↔
      ∀ found, v.secretOf cluster = some found → found.IsOwnedBy cluster) := by
  cases h with
  | @held secret hfound hentry =>
      refine ⟨secret, hfound, ?_⟩
      rw [hfound]
      simp
  | @made sent _ hfound hfirst haccepts =>
      obtain ⟨stored, hstored, hdata, hlabels, hreferences, rfl⟩ := haccepts
      have howned := (hfirst.isOwnedBy hname huid).of_marks hlabels hreferences
      refine ⟨stored, Vault.secretOf_put (hstored.trans hfirst.anyName_eq), ?_⟩
      rw [hfound]
      simp [howned]
  | @amended old sent _ hfound _ hamends haccepts =>
      obtain ⟨stored, hstored, hdata, hlabels, hreferences, rfl⟩ := haccepts
      have hplace : stored.metadata.anyName = secretName cluster.name := by
        rw [hstored, hamends.metadata]
        exact v.named _ _ old hfound
      rw [hamends.metadata] at hlabels hreferences
      have hsame : stored.IsOwnedBy cluster ↔ old.IsOwnedBy cluster :=
        ⟨fun h => h.of_marks hlabels.symm hreferences.symm,
          fun h => h.of_marks hlabels hreferences⟩
      refine ⟨stored, Vault.secretOf_put hplace, ?_⟩
      rw [hfound]
      simp [hsame]

/-- Only a kubeconfig that can be read is synchronised. -/
theorem World.exists_decode_of_synced {world : World σ} {id : ClusterId} {scene : Scene σ}
    (h : (world.runCalls (Credentials.sync cluster id).run scene).1 = .ok true) :
    ∃ kubeconfig octets, world.handedOut id scene = .ok kubeconfig ∧
      Credentials.decode kubeconfig = .ok octets := by
  have hends : ∀ {result}, (Credentials.keep cluster (world.handedOut id scene)).run =
      .done result → result = .ok true := by
    intro result hkeep
    rw [← (World.runCalls_sync_of_keep cluster hkeep).1]
    exact h
  cases hreply : world.handedOut id scene with
  | error cause =>
      rw [hreply] at hends
      by_cases hcause : cause = .notAvailable
      · rw [hcause] at hends
        cases hends rfl
      · rw [Credentials.keep_error hcause] at hends
        cases hends rfl
  | ok kubeconfig =>
      rw [hreply] at hends
      cases hdecode : Credentials.decode kubeconfig with
      | ok octets => exact ⟨kubeconfig, octets, rfl, hdecode⟩
      | error fault =>
          rw [Credentials.keep_unreadable hdecode] at hends
          cases hends rfl

/-- After the kubeconfig was synchronised, there is a secret, and it belongs to the resource unless
one was found that does not. -/
theorem synced_secret_owned_iff {world : World σ} {view : σ → Vault}
    (hworks : world.Keeps view Vault.Works) (hname : cluster.metadata.name = some name)
    (huid : cluster.metadata.uid = some uid) {id : ClusterId} {scene : Scene σ}
    (hsynced : (world.runCalls (Credentials.sync cluster id).run scene).1 = .ok true) :
    let run := world.runCalls (Credentials.sync cluster id).run scene
    ∃ stored, (view run.2.state).secretOf cluster = some stored ∧ (stored.IsOwnedBy cluster ↔
      ∀ found, (view scene.state).secretOf cluster = some found → found.IsOwnedBy cluster) := by
  obtain ⟨kubeconfig, octets, hreply, hdecode⟩ := World.exists_decode_of_synced hsynced
  obtain ⟨-, calls, hmaintains, -⟩ := World.runCalls_sync_of_decode cluster hworks hreply hdecode
  exact hmaintains.isOwnedBy_iff hname huid

/-- The workshop, with the identifier that it was given when it was stored. -/
def storedWorkshop : ClusterDeclaration :=
  { workshop with metadata := { workshop.metadata with uid := some "uid-1" } }

/-- Another secret in the namespace of the workshop. -/
def tokenSecret : Secret :=
  { staleSecret with metadata := { staleSecret.metadata with name := some "token" } }

/-- Where there is no secret for the kubeconfig, the one that is made belongs to the workshop. -/
theorem first_secret_owned :
    let run := (courierWorld (.ok spacedKubeconfig)).runCalls
      (Credentials.sync storedWorkshop 42).run (.start false .blank (soloVault tokenSecret))
    ∃ stored, run.2.state.find "default" "workshop-kubeconfig" = some stored ∧
      stored.IsOwnedBy storedWorkshop ∧
      (stored.metadata.labels.bind fun labels => labels.get? "app.kubernetes.io/managed-by") =
        some "lke-operator" := by
  have hname : storedWorkshop.metadata.name = some "workshop" := rfl
  have huid : storedWorkshop.metadata.uid = some "uid-1" := rfl
  have hsynced : ((courierWorld (.ok spacedKubeconfig)).runCalls
      (Credentials.sync storedWorkshop 42).run
      (.start false .blank (soloVault tokenSecret))).1 = .ok true := by
    decide +kernel
  have hnone : (soloVault tokenSecret).secretOf storedWorkshop = none := by decide +kernel
  obtain ⟨stored, hstored, howned⟩ :=
    synced_secret_owned_iff (courierWorld_works _) hname huid hsynced
  have hmade : stored.IsOwnedBy storedWorkshop := by
    apply howned.mpr
    intro found hfound
    change (soloVault tokenSecret).secretOf storedWorkshop = some found at hfound
    rw [hnone] at hfound
    cases hfound
  exact ⟨stored, hstored, hmade, hmade.label⟩

/-- A secret that somebody else made gets the kubeconfig and is still nobody's. -/
theorem stale_secret_not_owned :
    let run := (courierWorld (.ok spacedKubeconfig)).runCalls
      (Credentials.sync storedWorkshop 42).run (.start false .blank (soloVault staleSecret))
    (courierWorld (.ok spacedKubeconfig)).Keeps id Vault.Works ∧ run.1 = .ok true ∧
      run.2.state.Holds storedWorkshop ⟨[107, 117, 98, 101]⟩ ∧
      ∃ stored, run.2.state.secretOf storedWorkshop = some stored ∧
        ¬ stored.IsOwnedBy storedWorkshop := by
  intro run
  have hstored : run.2.state.secretOf storedWorkshop =
      some (staleSecret.withEntry "kubeconfig" ⟨[107, 117, 98, 101]⟩) := by decide +kernel
  refine ⟨courierWorld_works _, by decide +kernel, ⟨_, hstored, Secret.octets_withEntry _ _ _⟩,
    _, hstored, ?_⟩
  rintro ⟨hlabel, -⟩
  cases hlabel

end ClusterKeeper
