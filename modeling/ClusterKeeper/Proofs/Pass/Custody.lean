import ClusterKeeper.Proofs.Pass.Interruption
/-!
Custody of remote clusters.

A situation is a resource together with the clusters that were made for it and still exist. Passes
change it, and so do edits of the resource and others who delete clusters. The provider is only
trusted to be truthful about what exists: any call may fail, and a deletion may take its time.
`Reached.isKept` says that no cluster is ever left behind and none is made twice.
-/

namespace ClusterKeeper

/-- A resource and what was made for it. -/
structure Situation where
  resource : ClusterDeclaration
  /-- The clusters that exist. -/
  live : List ClusterId
  /-- What existed each time that the finalizer was to be taken off. -/
  releases : List (List ClusterId)

namespace ClusterDeclaration

/-- The declaration with other finalizers. -/
def withFinalizers (cluster : ClusterDeclaration) (finalizers : Option (List String)) :
    ClusterDeclaration :=
  { cluster with metadata := { cluster.metadata with finalizers } }

/-- The declaration with that status. -/
def withStatus (cluster : ClusterDeclaration) (status : ClusterStatus) : ClusterDeclaration :=
  { cluster with status := some status }

/-- What the owner makes of a declaration: it keeps its name, its status and its guard. -/
structure Edits (before after : ClusterDeclaration) : Prop where
  name : after.name = before.name
  inNamespace : after.inNamespace = before.inNamespace
  status : after.status = before.status
  guarded : clusterFinalizer ∈ before.metadata.finalizers.getD [] →
    clusterFinalizer ∈ after.metadata.finalizers.getD []

end ClusterDeclaration

namespace Situation

/-- Clusters may cease to exist; nothing else changes. -/
structure Fades (s s' : Situation) : Prop where
  resource : s'.resource = s.resource
  live : s'.live.Sublist s.live
  releases : s'.releases = s.releases

/-- The status is written. -/
structure Writes (s : Situation) (status : ClusterStatus) (s' : Situation) : Prop where
  resource : s'.resource = s.resource.withStatus status
  live : s'.live.Sublist s.live
  releases : s'.releases = s.releases

/-- The finalizer is put on, surely where the reply says so. -/
structure Guards (s : Situation) (reply : Except Fault Unit) (s' : Situation) : Prop where
  resource : ∃ finalizers, s'.resource = s.resource.withFinalizers finalizers
  guarded : clusterFinalizer ∈ s.resource.metadata.finalizers.getD [] →
    clusterFinalizer ∈ s'.resource.metadata.finalizers.getD []
  done : reply = .ok () → clusterFinalizer ∈ s'.resource.metadata.finalizers.getD []
  live : s'.live.Sublist s.live
  releases : s'.releases = s.releases

/-- The finalizer is taken off, or not. -/
structure Releases (s s' : Situation) : Prop where
  resource : ∃ finalizers, s'.resource = s.resource.withFinalizers finalizers
  live : s'.live.Sublist s.live
  releases : s'.releases = s.releases ++ [s.live]

/-- A cluster is made where the reply says so. -/
structure Makes (s : Situation) (reply : Except ProviderFault RemoteCluster) (s' : Situation) :
    Prop where
  resource : s'.resource = s.resource
  refused : ∀ fault, reply = .error fault → s'.live.Sublist s.live
  accepted : ∀ remote, reply = .ok remote → s'.live.Sublist (remote.id :: s.live)
  releases : s'.releases = s.releases

/-- A call is about this resource. -/
def IsAddressed (s : Situation) (inNamespace name : String) : Prop :=
  inNamespace = s.resource.inNamespace ∧ name = s.resource.name

/-- Every cluster that exists is the one on record, under a guarded resource, and none existed when
the finalizer was to be taken off. -/
structure IsKept (s : Situation) : Prop where
  recorded : s.live.Sublist s.resource.currentStatus.clusterId.toList
  guarded : s.live ≠ [] → clusterFinalizer ∈ s.resource.metadata.finalizers.getD []
  released : ∀ live ∈ s.releases, live = []

end Situation

open Situation

/-- Collaborators that are truthful about the existence of clusters and write what they are told to
write. A pass is not told to stop while it waits for a cluster to be created. -/
def Truthful (s : Situation) : (c : Call) → Response c.Reply → Situation → Prop
  | .createCluster _, response, s' =>
      (response.cancels && response.suspends) = false ∧ s.Makes response.reply s'
  | .getCluster id, response, s' =>
      s.Fades s' ∧ (response.reply = Except.error ProviderFault.notFound → id ∉ s'.live)
  | .deleteCluster id, response, s' =>
      s.Fades s' ∧ (response.reply = Except.error ProviderFault.notFound → id ∉ s'.live)
  | .patchStatus inNamespace name status, response, s' =>
      response.reply = Except.ok () ∧
        (s.IsAddressed inNamespace name → s.Writes status s') ∧
        (¬ s.IsAddressed inNamespace name → s.Fades s')
  | .addFinalizer inNamespace name, response, s' =>
      (s.IsAddressed inNamespace name → s.Guards response.reply s') ∧
        (¬ s.IsAddressed inNamespace name → s.Fades s')
  | .removeFinalizer inNamespace name, _, s' =>
      (s.IsAddressed inNamespace name → s.Releases s') ∧
        (¬ s.IsAddressed inNamespace name → s.Fades s')
  | _, _, s' => s.Fades s'

theorem Truthful.fades {s s' : Situation} {c : Call} {response : Response c.Reply}
    (h : Truthful s c response s') (hkind : c.IsRoutine) : s.Fades s' := by
  cases c with
  | createCluster request => exact absurd hkind id
  | patchStatus inNamespace name status => exact absurd hkind id
  | addFinalizer inNamespace name => exact absurd hkind id
  | removeFinalizer inNamespace name => exact absurd hkind id
  | getCluster id => exact h.1
  | deleteCluster id => exact h.1
  | _ => exact h

namespace Situation

variable {s s' : Situation}

theorem IsKept.fades (h : s.IsKept) (hfades : s.Fades s') : s'.IsKept where
  recorded := by
    rw [hfades.resource]
    exact hfades.live.trans h.recorded
  guarded := by
    intro hlive
    rw [hfades.resource]
    refine h.guarded fun hnil => hlive ?_
    have hsub := hfades.live
    rw [hnil] at hsub
    exact List.sublist_nil.mp hsub
  released := by
    rw [hfades.releases]
    exact h.released

/-- A status with the identifier on record can be written. -/
theorem IsKept.writes (h : s.IsKept) {status : ClusterStatus} (hwrites : s.Writes status s')
    (hid : s.resource.currentStatus.clusterId = status.clusterId) : s'.IsKept where
  recorded := by
    have hsub := hwrites.live.trans h.recorded
    rw [hid] at hsub
    rw [hwrites.resource]
    exact hsub
  guarded := by
    intro hlive
    rw [hwrites.resource]
    refine h.guarded fun hnil => hlive ?_
    have hsub := hwrites.live
    rw [hnil] at hsub
    exact List.sublist_nil.mp hsub
  released := by
    rw [hwrites.releases]
    exact h.released

theorem IsKept.guards (h : s.IsKept) {reply : Except Fault Unit} (hguards : s.Guards reply s') :
    s'.IsKept where
  recorded := by
    obtain ⟨finalizers, hresource⟩ := hguards.resource
    rw [hresource]
    exact hguards.live.trans h.recorded
  guarded := by
    intro hlive
    refine hguards.guarded (h.guarded fun hnil => hlive ?_)
    have hsub := hguards.live
    rw [hnil] at hsub
    exact List.sublist_nil.mp hsub
  released := by
    rw [hguards.releases]
    exact h.released

/-- Where no cluster exists the finalizer can be taken off. -/
theorem IsKept.releases (h : s.IsKept) (hreleases : s.Releases s') (hlive : s.live = []) :
    s'.IsKept := by
  have hnil : s'.live = [] := by
    have hsub := hreleases.live
    rw [hlive] at hsub
    exact List.sublist_nil.mp hsub
  constructor
  · rw [hnil]
    exact List.nil_sublist _
  · intro hne
    exact absurd hnil hne
  · intro live hmem
    rw [hreleases.releases, hlive] at hmem
    rcases List.mem_append.mp hmem with hmem | hmem
    · exact h.released live hmem
    · exact List.mem_singleton.mp hmem

/-- Where no cluster exists one can be made and its identifier written. -/
theorem IsKept.made (h : s.IsKept) {remote : RemoteCluster} {made : Situation}
    {status : ClusterStatus} (hlive : s.live = [])
    (hguarded : clusterFinalizer ∈ s.resource.metadata.finalizers.getD [])
    (hmakes : s.Makes (.ok remote) made) (hwrites : made.Writes status s')
    (hid : status.clusterId = some remote.id) : s'.IsKept where
  recorded := by
    have hsub := hwrites.live.trans (hmakes.accepted remote rfl)
    rw [hlive] at hsub
    rw [hwrites.resource]
    change s'.live.Sublist status.clusterId.toList
    rw [hid]
    exact hsub
  guarded := by
    intro _
    rw [hwrites.resource, hmakes.resource]
    exact hguarded
  released := by
    rw [hwrites.releases, hmakes.releases]
    exact h.released

theorem IsKept.edited (h : s.IsKept) {resource : ClusterDeclaration}
    (hedits : s.resource.Edits resource) : IsKept { s with resource } where
  recorded := by
    have hstatus : resource.currentStatus = s.resource.currentStatus :=
      congrArg (fun status => status.getD ClusterStatus.blank) hedits.status
    change s.live.Sublist resource.currentStatus.clusterId.toList
    rw [hstatus]
    exact h.recorded
  guarded := fun hlive => hedits.guarded (h.guarded hlive)
  released := h.released

end Situation

/-- The clusters are kept, and the pass has the identifier on record in memory. -/
structure Tracked (cluster : ClusterDeclaration) (scene : Scene Situation) : Prop where
  name : cluster.name = scene.state.resource.name
  inNamespace : cluster.inNamespace = scene.state.resource.inNamespace
  memory : scene.state.resource.currentStatus.clusterId = scene.memory.clusterId
  kept : scene.state.IsKept

variable {cluster : ClusterDeclaration} {scene : Scene Situation}

theorem Tracked.isAddressed (h : Tracked cluster scene) :
    scene.state.IsAddressed cluster.inNamespace cluster.name :=
  ⟨h.inNamespace, h.name⟩

/-- A call that leaves the name and the identifier on record as they are. -/
theorem Tracked.after (h : Tracked cluster scene) {c : Call} {response : Response c.Reply}
    {abandoned : Bool} {s' : Situation} (hname : s'.resource.name = scene.state.resource.name)
    (hinNamespace : s'.resource.inNamespace = scene.state.resource.inNamespace)
    (hstatus : s'.resource.currentStatus = scene.state.resource.currentStatus)
    (hkept : s'.IsKept) : Tracked cluster (World.after scene c response abandoned s') where
  name := h.name.trans hname.symm
  inNamespace := h.inNamespace.trans hinNamespace.symm
  memory := (congrArg ClusterStatus.clusterId hstatus).trans h.memory
  kept := hkept

theorem Tracked.fades (h : Tracked cluster scene) {c : Call} {response : Response c.Reply}
    {abandoned : Bool} {s' : Situation} (hfades : scene.state.Fades s') :
    Tracked cluster (World.after scene c response abandoned s') := by
  apply h.after
  · rw [hfades.resource]
  · rw [hfades.resource]
  · rw [hfades.resource]
  · exact h.kept.fades hfades

/-- A call that changes no more than the finalizers. -/
theorem Tracked.withFinalizers (h : Tracked cluster scene) {c : Call} {response : Response c.Reply}
    {abandoned : Bool} {s' : Situation} {finalizers : Option (List String)}
    (hresource : s'.resource = scene.state.resource.withFinalizers finalizers)
    (hkept : s'.IsKept) : Tracked cluster (World.after scene c response abandoned s') := by
  apply h.after
  · rw [hresource]
    rfl
  · rw [hresource]
    rfl
  · rw [hresource]
    rfl
  · exact hkept

theorem preserves_live_nil :
    Conduct.Preserves Truthful Call.IsRoutine fun scene => scene.state.live = [] where
  checked := fun _ h => h
  after := by
    intro scene c response abandoned s' hkind hconduct hlive
    have hsub := (hconduct.fades hkind).live
    rw [hlive] at hsub
    exact List.sublist_nil.mp hsub

theorem upholds_tracked : Conduct.Upholds Truthful cluster (Tracked cluster) where
  checked := fun _ h => ⟨h.name, h.inNamespace, h.memory, h.kept⟩
  after := fun _ _ _ _ _ hkind hconduct h => h.fades (hconduct.fades hkind)
  recording := fun _ _ hstatus h => ⟨h.name, h.inNamespace, h.memory.trans hstatus.symm, h.kept⟩
  patched := by
    intro scene response s' hconduct h
    have hwrites := hconduct.2.1 h.isAddressed
    refine ⟨?_, ?_, ?_, h.kept.writes hwrites h.memory⟩
    · change cluster.name = s'.resource.name
      rw [hwrites.resource]
      exact h.name
    · change cluster.inNamespace = s'.resource.inNamespace
      rw [hwrites.resource]
      exact h.inNamespace
    · change s'.resource.currentStatus.clusterId = scene.memory.clusterId
      rw [hwrites.resource]
      rfl

theorem upholds_isGuarded : Conduct.Upholds Truthful cluster
    fun scene => clusterFinalizer ∈ scene.state.resource.metadata.finalizers.getD [] where
  checked := fun _ h => h
  after := by
    intro scene c response abandoned s' hkind hconduct hguarded
    change clusterFinalizer ∈ s'.resource.metadata.finalizers.getD []
    rw [(hconduct.fades hkind).resource]
    exact hguarded
  recording := fun _ _ _ h => h
  patched := by
    intro scene response s' hconduct hguarded
    change clusterFinalizer ∈ s'.resource.metadata.finalizers.getD []
    by_cases haddressed : scene.state.IsAddressed cluster.inNamespace cluster.name
    · rw [(hconduct.2.1 haddressed).resource]
      exact hguarded
    · rw [(hconduct.2.2 haddressed).resource]
      exact hguarded

/-- Where the provider does not know the cluster in memory, none exists. -/
theorem Tracked.live_eq_nil (h : Tracked cluster scene) {id : ClusterId}
    (hid : scene.memory.clusterId = some id) {s' : Situation} (hfades : scene.state.Fades s')
    (hgone : id ∉ s'.live) : s'.live = [] := by
  have hsub := hfades.live.trans h.kept.recorded
  rw [h.memory, hid] at hsub
  refine List.eq_nil_iff_forall_not_mem.mpr fun other hmem => hgone ?_
  rw [← List.mem_singleton.mp (hsub.subset hmem)]
  exact hmem

/-- Truthful collaborators keep the clusters, through every way that a pass can go. -/
theorem governs_custody : Conduct.Governs Truthful cluster (Tracked cluster)
    (fun scene => Tracked cluster scene ∧
      clusterFinalizer ∈ scene.state.resource.metadata.finalizers.getD [])
    (fun scene => Tracked cluster scene ∧ scene.state.live = []) (fun _ => False) where
  upholds := upholds_tracked
  upholdsGuarded := upholds_tracked.and upholds_isGuarded
  preservesVacant := upholds_tracked.toPreserves.and preserves_live_nil
  inv_of_guarded := fun _ h => h.1
  added := by
    intro scene response s' hconduct h hreply
    have hguards := hconduct.1 h.isAddressed
    obtain ⟨finalizers, hresource⟩ := hguards.resource
    exact ⟨h.withFinalizers hresource (h.kept.guards hguards), hguards.done hreply⟩
  notAdded := by
    intro scene response s' fault hconduct h _
    have hguards := hconduct.1 h.isAddressed
    obtain ⟨finalizers, hresource⟩ := hguards.resource
    exact h.withFinalizers hresource (h.kept.guards hguards)
  vacant_of_none := by
    intro scene h hnone
    have hsub := h.kept.recorded
    rw [h.memory, hnone] at hsub
    exact ⟨h, List.sublist_nil.mp hsub⟩
  unknown := by
    intro scene id response s' h hid hconduct hreply
    exact ⟨h.fades hconduct.1, h.live_eq_nil hid hconduct.1 (hconduct.2 hreply)⟩
  deleted := by
    intro scene id response s' h hid hconduct hreply
    exact ⟨h.fades hconduct.1, h.live_eq_nil hid hconduct.1 (hconduct.2 hreply)⟩
  creates := by
    rintro scene version ⟨h, hguarded⟩ ⟨_, hlive⟩
    constructor
    · intro response s' hconduct hgiven
      rw [hconduct.1] at hgiven
      exact absurd hgiven (by simp)
    · intro response s' fault hconduct _ hreply
      have hmakes := hconduct.2
      rw [hreply] at hmakes
      have hfades : scene.state.Fades s' :=
        ⟨hmakes.resource, hmakes.refused fault rfl, hmakes.releases⟩
      refine ⟨h.fades hfades, ?_⟩
      change clusterFinalizer ∈ s'.resource.metadata.finalizers.getD []
      rw [hfades.resource]
      exact hguarded
    · intro response made remote hconduct _ hreply
      have hmakes := hconduct.2
      rw [hreply] at hmakes
      intro _ status written s' hwritten
      have haddressed : made.IsAddressed cluster.inNamespace cluster.name := by
        rw [IsAddressed, hmakes.resource]
        exact h.isAddressed
      have hwrites := hwritten.2.1 haddressed
      have hresource : s'.resource = scene.state.resource.withStatus status := by
        rw [hwrites.resource, hmakes.resource]
      refine ⟨⟨?_, ?_, ?_, h.kept.made hlive hguarded hmakes hwrites rfl⟩, ?_⟩
      · change cluster.name = s'.resource.name
        rw [hresource]
        exact h.name
      · change cluster.inNamespace = s'.resource.inNamespace
        rw [hresource]
        exact h.inNamespace
      · change s'.resource.currentStatus.clusterId = status.clusterId
        rw [hresource]
        rfl
      · change clusterFinalizer ∈ s'.resource.metadata.finalizers.getD []
        rw [hresource]
        exact hguarded
  released := by
    rintro scene response s' ⟨h, hlive⟩ hconduct
    have hreleases := hconduct.1 h.isAddressed
    obtain ⟨finalizers, hresource⟩ := hreleases.resource
    exact h.withFinalizers hresource (h.kept.releases hreleases hlive)

/-- A pass among truthful collaborators leaves the clusters kept. -/
theorem isKept_run {τ : Type} {world : World τ} {view : τ → Situation}
    (hkeeps : world.Keeps view Truthful) (settings : Settings) (cancelled : Bool)
    (memory : ClusterStatus) {t : τ} (h : (view t).IsKept) :
    (view (world.run (reconcile settings (view t).resource)
      (.start cancelled memory t)).2.state).IsKept := by
  have htracked : Tracked (view t).resource
      (((Scene.start cancelled memory t).through view).recording (view t).resource.currentStatus) :=
    ⟨rfl, rfl, rfl, h⟩
  have hpass := World.run_of_ensures hkeeps
    (governs_custody.ensures_reconcile settings htracked fun hguarded =>
      ⟨htracked, ClusterDeclaration.isGuarded_iff.mp hguarded⟩)
  rcases hpass with hkept | ⟨_, hlost⟩
  · exact hkept.kept
  · exact absurd hlost id

/-! ### Whole runs -/

/-- The situations that come about, in any order of passes, edits, and deletions by others. -/
inductive Reached : Situation → Prop where
  | start {resource : ClusterDeclaration} : resource.status = none → Reached ⟨resource, [], []⟩
  | pass {τ : Type} {world : World τ} {view : τ → Situation} (settings : Settings)
      (cancelled : Bool) (memory : ClusterStatus) {t : τ} : world.Keeps view Truthful →
      Reached (view t) →
      Reached (view (world.run (reconcile settings (view t).resource)
        (.start cancelled memory t)).2.state)
  | edited {s : Situation} {resource : ClusterDeclaration} : Reached s →
      s.resource.Edits resource → Reached { s with resource }
  | removed {s : Situation} {live : List ClusterId} : Reached s → live.Sublist s.live →
      Reached { s with live }

/-- No cluster is orphaned and none is made twice: between passes there is at most one cluster, the
one on record, and whenever the finalizer was to be taken off there was none. -/
theorem Reached.isKept {s : Situation} (h : Reached s) : s.IsKept := by
  induction h with
  | start hstatus =>
      constructor
      · exact List.nil_sublist _
      · exact fun hne => absurd rfl hne
      · exact fun live hmem => absurd hmem List.not_mem_nil
  | pass settings cancelled memory hkeeps _ ih =>
      exact isKept_run hkeeps settings cancelled memory ih
  | edited _ hedits ih => exact ih.edited hedits
  | removed _ hsub ih => exact ih.fades ⟨rfl, hsub, rfl⟩

/-- A provider that makes and deletes clusters at once, and reports none of their pools. -/
def plainWorld : World Situation where
  respond := fun
    | .connect _, s => (promptly (.ok ()), s)
    | .createCluster _, s =>
        (promptly (.ok remoteWorkshop), { s with live := remoteWorkshop.id :: s.live })
    | .getCluster id, s =>
        if id ∈ s.live then (promptly (.ok remoteWorkshop), s)
        else (promptly (.error .notFound), s)
    | .deleteCluster id, s =>
        if id ∈ s.live then (promptly (.ok ()), { s with live := s.live.erase id })
        else (promptly (.error .notFound), s)
    | .patchStatus inNamespace name status, s =>
        if inNamespace = s.resource.inNamespace ∧ name = s.resource.name then
          (promptly (.ok ()), { s with resource := s.resource.withStatus status })
        else (promptly (.ok ()), s)
    | .removeFinalizer inNamespace name, s =>
        if inNamespace = s.resource.inNamespace ∧ name = s.resource.name then
          (promptly (.ok ()),
            { s with
              resource := s.resource.withFinalizers none
              releases := s.releases ++ [s.live] })
        else (promptly (.ok ()), s)
    | c, s => (promptly c.unreached, s)

theorem Situation.Fades.refl (s : Situation) : s.Fades s := ⟨rfl, List.Sublist.refl _, rfl⟩

theorem plainWorld_keeps : plainWorld.Keeps id Truthful := by
  intro c s
  cases c with
  | createCluster request =>
      refine ⟨rfl, rfl, ?_, ?_, rfl⟩
      · intro fault hreply
        cases hreply
      · intro remote hreply
        obtain rfl : remoteWorkshop = remote := Except.ok.inj hreply
        exact List.Sublist.refl _
  | getCluster id =>
      by_cases hmem : id ∈ s.live
      · have hrespond : plainWorld.respond (.getCluster id) s =
            (promptly (Except.ok remoteWorkshop), s) := if_pos hmem
        rw [hrespond]
        refine ⟨Situation.Fades.refl s, ?_⟩
        intro hreply
        cases hreply
      · have hrespond : plainWorld.respond (.getCluster id) s =
            (promptly (Except.error .notFound), s) := if_neg hmem
        rw [hrespond]
        exact ⟨Situation.Fades.refl s, fun _ => hmem⟩
  | deleteCluster id =>
      by_cases hmem : id ∈ s.live
      · have hrespond : plainWorld.respond (.deleteCluster id) s =
            (promptly (Except.ok ()), { s with live := s.live.erase id }) := if_pos hmem
        rw [hrespond]
        refine ⟨⟨rfl, List.erase_sublist, rfl⟩, ?_⟩
        intro hreply
        cases hreply
      · have hrespond : plainWorld.respond (.deleteCluster id) s =
            (promptly (Except.error .notFound), s) := if_neg hmem
        rw [hrespond]
        exact ⟨Situation.Fades.refl s, fun _ => hmem⟩
  | patchStatus inNamespace name status =>
      by_cases haddressed : s.IsAddressed inNamespace name
      · have hrespond : plainWorld.respond (.patchStatus inNamespace name status) s =
            (promptly (Except.ok ()), { s with resource := s.resource.withStatus status }) :=
          if_pos haddressed
        rw [hrespond]
        exact ⟨rfl, fun _ => ⟨rfl, List.Sublist.refl _, rfl⟩, fun hnot => absurd haddressed hnot⟩
      · have hrespond : plainWorld.respond (.patchStatus inNamespace name status) s =
            (promptly (Except.ok ()), s) := if_neg haddressed
        rw [hrespond]
        exact ⟨rfl, fun h => absurd h haddressed, fun _ => Situation.Fades.refl s⟩
  | addFinalizer inNamespace name =>
      refine ⟨fun _ => ⟨⟨s.resource.metadata.finalizers, rfl⟩, id, ?_, List.Sublist.refl _, rfl⟩,
        fun _ => Situation.Fades.refl s⟩
      intro hreply
      cases hreply
  | removeFinalizer inNamespace name =>
      by_cases haddressed : s.IsAddressed inNamespace name
      · have hrespond : plainWorld.respond (.removeFinalizer inNamespace name) s =
            (promptly (Except.ok ()),
              { s with
                resource := s.resource.withFinalizers none
                releases := s.releases ++ [s.live] }) := if_pos haddressed
        rw [hrespond]
        exact ⟨fun _ => ⟨⟨none, rfl⟩, List.Sublist.refl _, rfl⟩,
          fun hnot => absurd haddressed hnot⟩
      · have hrespond : plainWorld.respond (.removeFinalizer inNamespace name) s =
            (promptly (Except.ok ()), s) := if_neg haddressed
        rw [hrespond]
        exact ⟨fun h => absurd h haddressed, fun _ => Situation.Fades.refl s⟩
  | _ => exact Situation.Fades.refl s

/-- The situation after a pass in that world. -/
def Situation.passed (s : Situation) : Situation :=
  (plainWorld.run (reconcile Settings.standard s.resource) (.start false .blank s)).2.state

/-- The resource when it is to be deleted. -/
def ClusterDeclaration.marked (cluster : ClusterDeclaration) : ClusterDeclaration :=
  { cluster with metadata := { cluster.metadata with deletionTimestamp := some ⟨0, false⟩ } }

/-- The situation after the first pass over a new resource. -/
def workshopMade : Situation := Situation.passed ⟨workshop, [], []⟩

/-- The situation after two more passes, once the resource is to be deleted. -/
def workshopReleased : Situation :=
  { workshopMade with resource := workshopMade.resource.marked }.passed.passed

theorem reached_passed {s : Situation} (h : Reached s) : Reached s.passed :=
  Reached.pass Settings.standard false .blank plainWorld_keeps h

theorem reached_workshopMade : Reached workshopMade := reached_passed (Reached.start rfl)

theorem reached_workshopReleased : Reached workshopReleased :=
  reached_passed (reached_passed (reached_workshopMade.edited ⟨rfl, rfl, rfl, id⟩))

/-- A cluster is made and recorded, and gone when the resource is released. -/
theorem workshop_isKept :
    (workshopMade.live = [42] ∧ workshopMade.IsKept) ∧
      workshopReleased.releases = [[]] ∧ workshopReleased.IsKept := by
  refine ⟨⟨by rfl, ?_⟩, by rfl, ?_⟩
  · exact Reached.isKept reached_workshopMade
  · exact Reached.isKept reached_workshopReleased

end ClusterKeeper
