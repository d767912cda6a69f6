import ClusterKeeper.Proofs.Pass.Interruption
import ClusterKeeper.Proofs.Settling.Parts
/-!
Passes that come to rest.

Among faithful collaborators the first pass over a resource without a cluster creates one, and the
next pass settles it: what is at the provider is as declared, and it is on record. Every later pass
finds it settled, changes nothing and writes nothing.
-/

namespace ClusterKeeper

open Pools Dialogue

variable {τ : Type} {cluster : ClusterDeclaration} {kind : Call → Prop} {s : Site}
  {m : ClusterStatus} {scene : Scene Site} {id : ClusterId} {hosted : Hosted}

namespace Stands

/-- The resource is guarded before anything is made for it. -/
theorem ensures_guardResource (h : Stands kind s m scene)
    (hfree : s.IsGuarded ∨ ∀ c, kind c) :
    Pass.Ensures (Faithful cluster) (guardResource (s.resource cluster)) (fun r scene' =>
      r = .ok () ∧ ∃ finalizers, Stands kind { s with finalizers } m scene' ∧
        Site.IsGuarded { s with finalizers } ∧
        (s.IsGuarded → finalizers = s.finalizers)) scene := by
  by_cases hguarded : s.IsGuarded
  · have hdone : guardResource (s.resource cluster) = .done (.ok ()) :=
      if_pos (Site.isGuarded_resource_iff.mpr hguarded)
    rw [hdone]
    exact ⟨rfl, s.finalizers, h, hguarded, fun _ => rfl⟩
  · have hcall : guardResource (s.resource cluster) =
        Pass.call (.addFinalizer cluster.inNamespace cluster.name) :=
      if_neg fun hcarried => hguarded (Site.isGuarded_resource_iff.mp hcarried)
    rw [hcall]
    intro response s' hfaithful
    rw [h.state] at hfaithful
    obtain ⟨hgoing, hdoes⟩ := hfaithful
    obtain ⟨hreply, finalizers, rfl, hguards⟩ := hdoes rfl rfl
    exact ⟨hreply, finalizers, h.after hgoing (hfree.resolve_left hguarded _), hguards,
      fun hold => absurd hold hguarded⟩

/-- A pass over a resource that is kept and accepted ends as its attempt does. -/
theorem ensures_reconcile (h : Stands kind s m scene) (settings : Settings)
    (hkept : cluster.isBeingDeleted = false) (hvalid : cluster.spec.validate = .ok ())
    (hconnect : kind (.connect cluster.spec.tokenSecretRef))
    (hfree : s.IsGuarded ∨ ∀ c, kind c)
    {post : Progress → Scene Site → Prop}
    (hconverge : ∀ finalizers scene, Stands kind { s with finalizers } s.currentStatus scene →
      Site.IsGuarded { s with finalizers } →
      (s.IsGuarded → finalizers = s.finalizers) →
      Attempt.Ensures (Faithful cluster) (Attempt.converge cluster) (returning post) scene) :
    Pass.Ensures (Faithful cluster) (reconcile settings (s.resource cluster))
      (fun ending scene' => ∃ progress, ending = .through (progress.action settings) ∧
        post progress scene') scene := by
  rw [reconcile, Pass.ensures_bind, Pass.ensures_record]
  have hkept' : ¬ (s.resource cluster).isBeingDeleted = true := by
    intro hdeleted
    exact Bool.false_ne_true (hkept.symm.trans hdeleted)
  rw [if_neg hkept', reconcileChange]
  have hvalid' : (s.resource cluster).spec.validate = .ok () := hvalid
  rw [hvalid']
  refine (Pass.ensures_bind _ _ _).mpr ?_
  apply Pass.Ensures.mono ((h.recording _).ensures_guardResource hfree)
  rintro _ scene ⟨rfl, finalizers, h, hguarded, hsame⟩
  refine (Pass.ensures_bind _ _ _).mpr ?_
  intro response s' hfaithful
  rw [h.state] at hfaithful
  obtain ⟨hgoing, hreply, rfl⟩ := hfaithful
  rw [hreply]
  refine (Pass.ensures_bind _ _ _).mpr ?_
  refine Pass.Ensures.mono (hconverge finalizers _ (h.after hgoing hconnect) hguarded hsame) ?_
  intro r scene' hpost
  cases r with
  | ok progress => exact ⟨progress, rfl, hpost⟩
  | error fault => exact hpost.elim

end Stands

namespace Site

/-- A cluster that is on record and there has an identifier on record. -/
theorem exists_of_recorded? (h : s.recorded? = some hosted) :
    ∃ id, s.currentStatus.clusterId = some id ∧ s.clusters id = some hosted :=
  Option.bind_eq_some_iff.mp h

/-- A status that has an identifier is on record. -/
theorem withStatus_currentStatus (hid : s.currentStatus.clusterId = some id) :
    s.withStatus s.currentStatus = s := by
  obtain ⟨finalizers, status, vault, clusters, offer⟩ := s
  cases status with
  | none => cases hid
  | some status => rfl

theorem IsSettled.isWorkable (h : s.IsSettled cluster id hosted)
    (hdecl : IsDeclarable cluster.spec.nodePools) : hosted.IsWorkable cluster.spec.nodePools :=
  Hosted.isWorkable_of_isConverged h.sound hdecl h.converged

end Site

namespace Stands

variable (h : Stands kind s m scene) (settings : Settings)
  (hkept : cluster.isBeingDeleted = false) (hvalid : cluster.spec.validate = .ok ())
  (hdecl : IsDeclarable cluster.spec.nodePools)
include h hkept hvalid hdecl

/-- A pass over a resource whose cluster is there settles it. -/
theorem ensures_reconcile_of_live (hid : s.currentStatus.clusterId = some id)
    (hlive : s.clusters id = some hosted) (hwork : hosted.IsWorkable cluster.spec.nodePools)
    (hrest : ∀ c, Call.IsResting cluster id c → kind c)
    (hfree : s.IsSettled cluster id hosted ∨ ∀ c, kind c) :
    Pass.Ensures (Faithful cluster) (reconcile settings (s.resource cluster))
      (fun ending scene' => ending = .through (.requeue settings.resyncDelay) ∧ ∃ s' hosted',
        Stands kind s' s'.currentStatus scene' ∧ s.Settles cluster id hosted s' hosted') scene := by
  have hconverge : ∀ finalizers scene,
      Stands kind { s with finalizers } s.currentStatus scene →
      Site.IsGuarded { s with finalizers } →
      (s.IsGuarded → finalizers = s.finalizers) →
      Attempt.Ensures (Faithful cluster) (Attempt.converge cluster)
        (returning fun progress scene' => progress = .settled ∧ ∃ s' hosted',
          Stands kind s' s'.currentStatus scene' ∧ s.Settles cluster id hosted s' hosted')
        scene := by
    intro finalizers scene h hguarded hsame
    have hrecorded : Site.withStatus { s with finalizers } s.currentStatus =
        { s with finalizers } := Site.withStatus_currentStatus (s := { s with finalizers }) hid
    have hunchanged : s.IsSettled cluster id hosted →
        Site.withStatus { s with finalizers } s.currentStatus = s := by
      intro hsettled
      rw [hrecorded, hsame hsettled.guarded]
    have hfree' : (Site.withStatus { s with finalizers } s.currentStatus).IsSettled cluster id
        hosted ∨ ∀ c, kind c := by
      refine hfree.imp_left fun hsettled => ?_
      rw [hunchanged hsettled]
      exact hsettled
    rw [← hrecorded] at h
    apply (h.ensures_converge_of_live hid hlive hguarded hdecl hwork hrest hfree').mono_returning
    rintro progress scene' ⟨hprogress, s', hosted', h, hsettles⟩
    refine ⟨hprogress, s', hosted', h, hsettles.settled, fun hsettled => ?_⟩
    rw [hunchanged hsettled] at hsettles
    exact hsettles.same hsettled
  have hpass := h.ensures_reconcile settings hkept hvalid (hrest _ trivial)
    (hfree.imp_left fun hsettled => hsettled.guarded) hconverge
  apply hpass.mono
  rintro ending scene' ⟨_, hending, rfl, hsettles⟩
  exact ⟨hending, hsettles⟩

/-- A pass over a resource whose cluster is not there creates one. -/
theorem ensures_reconcile_of_gone (hgone : s.recorded? = none) {capacity : Nat}
    (hoffer : s.offer = some capacity) (hsize : cluster.spec.nodePools.size ≤ capacity)
    (hall : ∀ c, kind c) :
    Pass.Ensures (Faithful cluster) (reconcile settings (s.resource cluster))
      (fun ending scene' => ending = .through (.requeue settings.requeueDelay) ∧ ∃ s' hosted,
        Stands kind s' s'.currentStatus scene' ∧ s'.recorded? = some hosted ∧
          hosted.IsWorkable cluster.spec.nodePools) scene := by
  have hpass := h.ensures_reconcile settings hkept hvalid (hall _) (Or.inr hall)
    fun finalizers scene h _ _ => h.ensures_converge_of_gone hall hgone hdecl hoffer hsize
  apply hpass.mono
  rintro ending scene' ⟨_, hending, rfl, hcreated⟩
  exact ⟨hending, hcreated⟩

end Stands

/-- Passes over a resource, one after the other: how each ends, and in which scene. -/
def World.passes (world : World τ) (settings : Settings) (stored : τ → ClusterDeclaration)
    (t : τ) : Nat → PassEnd × Scene τ
  | 0 => world.run (reconcile settings (stored t)) (.start false .blank t)
  | n + 1 =>
      let before := (world.passes settings stored t n).2.state
      world.run (reconcile settings (stored before)) (.start false .blank before)

section Run

variable {world : World τ} {view : τ → Site} (hkeeps : world.Keeps view (Faithful cluster))
  (settings : Settings) (hkept : cluster.isBeingDeleted = false)
  (hvalid : cluster.spec.validate = .ok ())
  (hdecl : IsDeclarable cluster.spec.nodePools)
include hkeeps hkept hvalid hdecl

/-- A pass settles a cluster that is there. -/
theorem run_settles {t : τ} (hlive : (view t).recorded? = some hosted)
    (hwork : hosted.IsWorkable cluster.spec.nodePools) :
    let pass := world.run (reconcile settings ((view t).resource cluster)) (.start false .blank t)
    pass.1 = .through (.requeue settings.resyncDelay) ∧
      ∃ id hosted', (view pass.2.state).IsSettled cluster id hosted' := by
  obtain ⟨id, hid, hlive⟩ := Site.exists_of_recorded? hlive
  have hstart : Stands (fun _ => True) (view t) .blank
      ((Scene.start false .blank t).through view) :=
    ⟨rfl, rfl, rfl, fun _ _ => trivial⟩
  obtain ⟨hending, s', hosted', h, hsettles⟩ := World.run_of_ensures hkeeps
    (hstart.ensures_reconcile_of_live settings hkept hvalid hdecl hid hlive hwork
      (fun _ _ => trivial) (Or.inr fun _ => trivial))
  obtain rfl := h.state
  exact ⟨hending, id, hosted', hsettles.settled⟩

/-- A pass over a settled resource changes nothing, and does not try to. -/
theorem run_rests {t : τ} (hsettled : (view t).IsSettled cluster id hosted) :
    let pass := world.run (reconcile settings ((view t).resource cluster)) (.start false .blank t)
    pass.1 = .through (.requeue settings.resyncDelay) ∧ view pass.2.state = view t ∧
      ∀ e ∈ pass.2.exchanges, Call.IsResting cluster id e.call := by
  have hid : (view t).currentStatus.clusterId = some id := by
    rw [hsettled.status]
  have hstart : Stands (Call.IsResting cluster id) (view t) .blank
      ((Scene.start false .blank t).through view) :=
    ⟨rfl, rfl, rfl, fun _ he => absurd he List.not_mem_nil⟩
  obtain ⟨hending, s', hosted', h, hsettles⟩ := World.run_of_ensures hkeeps
    (hstart.ensures_reconcile_of_live settings hkept hvalid hdecl hid hsettled.live
      (hsettled.isWorkable hdecl) (fun _ hresting => hresting) (Or.inl hsettled))
  obtain rfl := h.state
  exact ⟨hending, hsettles.same hsettled, h.calls⟩

/-- A pass creates a cluster where none is there. -/
theorem run_creates {t : τ} (hgone : (view t).recorded? = none) {capacity : Nat}
    (hoffer : (view t).offer = some capacity) (hsize : cluster.spec.nodePools.size ≤ capacity) :
    let pass := world.run (reconcile settings ((view t).resource cluster)) (.start false .blank t)
    pass.1 = .through (.requeue settings.requeueDelay) ∧
      ∃ hosted, (view pass.2.state).recorded? = some hosted ∧
        hosted.IsWorkable cluster.spec.nodePools := by
  have hstart : Stands (fun _ => True) (view t) .blank
      ((Scene.start false .blank t).through view) :=
    ⟨rfl, rfl, rfl, fun _ _ => trivial⟩
  obtain ⟨hending, s', hosted, h, hlive, hwork⟩ := World.run_of_ensures hkeeps
    (hstart.ensures_reconcile_of_gone settings hkept hvalid hdecl hgone hoffer hsize
      fun _ => trivial)
  obtain rfl := h.state
  exact ⟨hending, hosted, hlive, hwork⟩

/-- From a pass on that settles a resource, passes settle it and the later ones change nothing. -/
theorem rests_from {t : τ} {k : Nat} :
    let pass := world.passes settings (fun t => (view t).resource cluster) t
    (pass k).1 = .through (.requeue settings.resyncDelay) →
      (view (pass k).2.state).IsSettled cluster id hosted → ∀ n, k ≤ n →
        (pass n).1 = .through (.requeue settings.resyncDelay) ∧
          view (pass n).2.state = view (pass k).2.state ∧
          (k < n → ∀ e ∈ (pass n).2.exchanges, Call.IsResting cluster id e.call) := by
  intro pass hending hsettled n hn
  induction hn with
  | refl => exact ⟨hending, rfl, fun hlt => absurd hlt (Nat.lt_irrefl k)⟩
  | step _ ih =>
      obtain ⟨_, hsame, _⟩ := ih
      rw [← hsame] at hsettled
      obtain ⟨hending', hstays, hresting⟩ := run_rests hkeeps settings hkept hvalid hdecl hsettled
      exact ⟨hending', hstays.trans hsame, fun _ => hresting⟩

end Run

/-- Passes come to rest. At most the first one creates a cluster, the next one settles it, and every
later one finds it settled, changes nothing, and makes only calls that could not change anything. -/
theorem passes_come_to_rest {world : World τ} {view : τ → Site}
    (hkeeps : world.Keeps view (Faithful cluster)) (settings : Settings)
    (hkept : cluster.isBeingDeleted = false) (hvalid : cluster.spec.validate = .ok ())
    (hplain : ∀ name shape, cluster.spec.nodePools.get? name = some shape → IsPlain name) {t : τ}
    (hstart : (view t).IsStartable cluster) :
    let pass := world.passes settings (fun t => (view t).resource cluster) t
    ∃ k ≤ 1, (k = 0 ↔ (view t).recorded?.isSome = true) ∧
      (∀ n < k, (pass n).1 = .through (.requeue settings.requeueDelay)) ∧
      ∃ id hosted, ∀ n, k ≤ n →
        (pass n).1 = .through (.requeue settings.resyncDelay) ∧
        (view (pass n).2.state).IsSettled cluster id hosted ∧
        (k < n → view (pass n).2.state = view (pass k).2.state ∧
          ∀ e ∈ (pass n).2.exchanges, Call.IsResting cluster id e.call) := by
  intro pass
  have hdecl := cluster.spec.isDeclarable hvalid hplain
  have hrests : ∀ k id hosted, (pass k).1 = .through (.requeue settings.resyncDelay) →
      (view (pass k).2.state).IsSettled cluster id hosted → ∀ n, k ≤ n →
        (pass n).1 = .through (.requeue settings.resyncDelay) ∧
        (view (pass n).2.state).IsSettled cluster id hosted ∧
        (k < n → view (pass n).2.state = view (pass k).2.state ∧
          ∀ e ∈ (pass n).2.exchanges, Call.IsResting cluster id e.call) := by
    intro k id hosted hending hsettled n hn
    obtain ⟨hending', hsame, hresting⟩ :=
      rests_from hkeeps settings hkept hvalid hdecl hending hsettled n hn
    refine ⟨hending', ?_, fun hlt => ⟨hsame, hresting hlt⟩⟩
    rw [hsame]
    exact hsettled
  rw [Site.IsStartable] at hstart
  cases hrecorded : (view t).recorded? with
  | some hosted =>
      rw [hrecorded] at hstart
      obtain ⟨hending, id, hosted', hsettled⟩ :=
        run_settles hkeeps settings hkept hvalid hdecl hrecorded hstart
      refine ⟨0, Nat.zero_le 1, ⟨fun _ => rfl, fun _ => rfl⟩, ?_, id, hosted', ?_⟩
      · exact fun n hn => absurd hn (Nat.not_lt_zero n)
      · exact hrests 0 id hosted' hending hsettled
  | none =>
      rw [hrecorded] at hstart
      obtain ⟨capacity, hoffer, hsize⟩ := hstart
      obtain ⟨hfirst, hosted, hlive, hwork⟩ :=
        run_creates hkeeps settings hkept hvalid hdecl hrecorded hoffer hsize
      obtain ⟨hending, id, hosted', hsettled⟩ :=
        run_settles hkeeps settings hkept hvalid hdecl hlive hwork
      refine ⟨1, Nat.le_refl 1, ⟨fun hone => absurd hone Nat.one_ne_zero, fun hnone => ?_⟩, ?_,
        id, hosted', ?_⟩
      · cases hnone
      · intro n hn
        obtain rfl := Nat.lt_one_iff.mp hn
        exact hfirst
      · exact hrests 1 id hosted' hending hsettled

/-! ### A provider of one cluster -/

/-- The cluster of a small provider. -/
structure Lodging where
  tags : List String
  highlyAvailable : Bool
  ledger : Ledger

namespace Lodging

/-- The identifier of the cluster. -/
def place : ClusterId := 42

/-- Its kubeconfig, as it is handed out. -/
def kubeconfig : EncodedKubeconfig := ⟨"a3ViZQ=="⟩

/-- The octets of its kubeconfig. -/
def octets : Octets := ⟨[107, 117, 98, 101]⟩

theorem wraps_kubeconfig : Text.Wraps kubeconfig.content octets.toList :=
  Text.decode_trim_eq_ok_iff.mp (by decide +kernel)

/-- What the provider has of the cluster. -/
def asHosted (l : Lodging) : Hosted := ⟨l.tags, l.highlyAvailable, octets, l.ledger.host⟩

/-- What it reports of the cluster. -/
def remote (l : Lodging) : RemoteCluster :=
  ⟨place, "", "", "", readyStatus, l.tags, ⟨l.highlyAvailable⟩⟩

/-- The cluster that is made for a request. -/
def ofRequest (request : ClusterCreation) : Lodging where
  tags := request.tags
  highlyAvailable := (request.controlPlane.bind ControlPlaneRequest.highlyAvailable).getD false
  ledger :=
    { pools := request.pools.map (Ledger.newPool 1)
      made := []
      upcoming := [2, 3]
      ascending := List.pairwise_pair.mpr (by decide)
      above := by
        intro pool hpool other hother
        obtain ⟨_, _, rfl⟩ := List.mem_map.mp hpool
        change (1 : PoolId) < other
        rcases List.mem_pair.mp hother with rfl | rfl
        · decide
        · decide }

/-- The cluster after a change. -/
def changedBy (request : ClusterUpdate) (l : Lodging) : Lodging :=
  { l with
    tags := request.tags.getD l.tags
    highlyAvailable :=
      (request.controlPlane.bind ControlPlaneRequest.highlyAvailable).getD l.highlyAvailable }

theorem isFor_ofRequest {request : ClusterCreation} (hone : request.pools.length ≤ 1) :
    (ofRequest request).asHosted.IsFor request where
  tags := rfl
  highlyAvailable := rfl
  pools := by
    apply List.forall₂_map_left_iff.mpr
    apply List.forall₂_same.mpr
    exact fun pool _ => ⟨rfl, rfl, rfl, rfl⟩
  distinct := by
    change ((request.pools.map (Ledger.newPool 1)).map RemotePool.id).Nodup
    rcases hpools : request.pools with _ | ⟨first, _ | ⟨second, rest⟩⟩
    · exact List.nodup_nil
    · exact List.nodup_singleton _
    · rw [hpools] at hone
      exact absurd hone (by simp)

end Lodging

/-- What is stored of a resource, and a provider with a place for one cluster. -/
structure Depot where
  finalizers : Option (List String)
  status : Option ClusterStatus
  vault : Vault
  lodging : Option Lodging

namespace Depot

def site (d : Depot) : Site where
  finalizers := d.finalizers
  status := d.status
  vault := d.vault
  clusters := fun id => if id = Lodging.place then d.lodging.map Lodging.asHosted else none
  offer := if d.lodging.isNone then some 1 else none

/-- What the provider answers when it is asked for a cluster. -/
def report (d : Depot) (id : ClusterId) : Except ProviderFault RemoteCluster :=
  match d.lodging with
  | some l => if id = Lodging.place then .ok l.remote else .error .notFound
  | none => .error .notFound

/-- The pools that the provider lists. -/
def listing (d : Depot) : List RemotePool :=
  match d.lodging with
  | some l => l.ledger.pools.map bare
  | none => []

/-- What comes of a call about pools. -/
def onLedger (d : Depot) (c : Call) : Response c.Reply × Depot :=
  match d.lodging with
  | some l =>
      (promptly (ledgerWorld.respond c l.ledger).1.reply,
        { d with lodging := some { l with ledger := (ledgerWorld.respond c l.ledger).2 } })
  | none => (promptly c.unreached, d)

theorem clusters_eq_some {d : Depot} (h : d.site.clusters id = some hosted) :
    id = Lodging.place ∧ ∃ l, d.lodging = some l ∧ l.asHosted = hosted := by
  by_cases hid : id = Lodging.place
  · have hlodging : d.lodging.map Lodging.asHosted = some hosted := by
      rw [← h]
      exact (if_pos hid).symm
    exact ⟨hid, Option.map_eq_some_iff.mp hlodging⟩
  · have hnone : d.site.clusters id = none := if_neg hid
    rw [hnone] at h
    cases h

/-- The site after something was done about the cluster. -/
theorem site_withLodging (d : Depot) (l : Lodging) :
    Depot.site { d with lodging := some l } =
      { d.site.withCluster Lodging.place l.asHosted with offer := none } := by
  have hclusters : (fun id => if id = Lodging.place then some l.asHosted else none) =
      (d.site.withCluster Lodging.place l.asHosted).clusters := by
    funext id
    by_cases hid : id = Lodging.place
    · exact (if_pos hid).trans (if_pos hid).symm
    · exact (if_neg hid).trans ((if_neg hid).trans (if_neg hid)).symm
  exact congrArg (fun clusters => Site.mk d.finalizers d.status d.vault clusters none) hclusters

theorem site_withLodging_of_some {d : Depot} {l : Lodging} (h : d.lodging = some l)
    (l' : Lodging) : Depot.site { d with lodging := some l' } =
      d.site.withCluster Lodging.place l'.asHosted := by
  have hoffer : d.site.offer = none := by
    rw [site, h]
    rfl
  rw [site_withLodging, ← hoffer]
  rfl

end Depot

/-- What the small provider does, and an API server that stores what is written. -/
def depotWorld : World Depot where
  respond := fun
    | .connect _, d => (promptly (.ok ()), d)
    | .listVersions, d => (promptly (.ok [⟨"1.30"⟩]), d)
    | .getCluster id, d => (promptly (d.report id), d)
    | .createCluster request, d =>
        (promptly (.ok (Lodging.ofRequest request).remote),
          { d with lodging := some (.ofRequest request) })
    | .updateCluster _ request, d =>
        (promptly (.ok ()), { d with lodging := d.lodging.map (Lodging.changedBy request) })
    | .getKubeconfig _, d => (promptly (.ok Lodging.kubeconfig), d)
    | .listPools _, d => (promptly (.ok d.listing), d)
    | .createPool id request, d => d.onLedger (.createPool id request)
    | .updatePool id pool request, d => d.onLedger (.updatePool id pool request)
    | .deletePool id pool, d => d.onLedger (.deletePool id pool)
    | .patchStatus _ _ status, d => (promptly (.ok ()), { d with status := some status })
    | .addFinalizer _ _, d => (promptly (.ok ()), { d with finalizers := some [clusterFinalizer] })
    | .getSecret inNamespace name, d => (promptly (.ok (d.vault.find inNamespace name)), d)
    | .createSecret inNamespace secret, d =>
        (promptly (.ok ()), { d with vault := d.vault.put inNamespace secret })
    | .replaceSecret inNamespace secret, d =>
        (promptly (.ok ()), { d with vault := d.vault.put inNamespace secret })
    | .deleteCluster id, d => (promptly (Call.unreached (.deleteCluster id)), d)
    | .removeFinalizer inNamespace name, d =>
        (promptly (Call.unreached (.removeFinalizer inNamespace name)), d)

namespace Depot

theorem onLedger_does {d : Depot} {c : Call} (h : d.site.clusters id = some hosted)
    (hobliging : ∀ l : Ledger,
      Obliging id l.host c (promptly (ledgerWorld.respond c l).1.reply)
        (ledgerWorld.respond c l).2.host) :
    ∃ host, Obliging id hosted.host c (d.onLedger c).1 host ∧
      (d.onLedger c).2.site = d.site.withCluster id (hosted.withHost host) := by
  obtain ⟨rfl, l, hlodging, rfl⟩ := clusters_eq_some h
  have hdone : d.onLedger c = (promptly (ledgerWorld.respond c l.ledger).1.reply,
      { d with lodging := some { l with ledger := (ledgerWorld.respond c l.ledger).2 } }) := by
    rw [onLedger, hlodging]
  rw [hdone]
  exact ⟨_, hobliging l.ledger, site_withLodging_of_some hlodging _⟩

theorem cancels_onLedger (d : Depot) (c : Call) : (d.onLedger c).1.cancels = false := by
  rw [onLedger]
  split
  · rfl
  · rfl

end Depot

theorem depotWorld_keeps (cluster : ClusterDeclaration) :
    depotWorld.Keeps Depot.site (Faithful cluster) := by
  intro c d
  cases c with
  | connect tokenSecretRef => exact ⟨rfl, rfl, rfl⟩
  | listVersions =>
      refine ⟨rfl, ⟨[⟨"1.30"⟩], rfl, List.cons_ne_nil _ _, ?_⟩, rfl⟩
      intro entry hentry
      rw [List.mem_singleton.mp hentry]
      exact ⟨⟨1, 30⟩, by rfl⟩
  | getCluster id =>
      refine ⟨rfl, ?_, ?_, rfl⟩
      · intro h hlive
        obtain ⟨rfl, l, hlodging, rfl⟩ := Depot.clusters_eq_some hlive
        refine ⟨l.remote, ?_, rfl, rfl, rfl, rfl⟩
        change d.report Lodging.place = _
        rw [Depot.report, hlodging]
        exact if_pos rfl
      · intro hnone
        change d.report id = _
        rw [Depot.report]
        split
        · next l hlodging =>
            apply if_neg
            intro hid
            have hsome : d.site.clusters id = some l.asHosted := by
              rw [Depot.site, hlodging]
              exact if_pos hid
            rw [hnone] at hsome
            cases hsome
        · rfl
  | createCluster request =>
      refine ⟨rfl, fun capacity hoffer hroom => ?_⟩
      cases hlodging : d.lodging with
      | none =>
          have hone : d.site.offer = some 1 := by
            rw [Depot.site, hlodging]
            rfl
          rw [hone] at hoffer
          obtain rfl := Option.some.inj hoffer
          refine ⟨_, (Lodging.ofRequest request).asHosted, none, rfl, ?_,
            Lodging.isFor_ofRequest hroom, d.site_withLodging _⟩
          rw [Depot.site, hlodging]
          rfl
      | some l =>
          have hnone : d.site.offer = none := by
            rw [Depot.site, hlodging]
            rfl
          rw [hnone] at hoffer
          cases hoffer
  | updateCluster id request =>
      refine ⟨rfl, fun h hlive => ⟨rfl, ?_⟩⟩
      obtain ⟨rfl, l, hlodging, rfl⟩ := Depot.clusters_eq_some hlive
      change Depot.site { d with lodging := d.lodging.map (Lodging.changedBy request) } = _
      rw [hlodging]
      exact Depot.site_withLodging_of_some hlodging (l.changedBy request)
  | getKubeconfig id =>
      refine ⟨rfl, fun h hlive => ⟨⟨Lodging.kubeconfig, rfl, ?_⟩, rfl⟩⟩
      obtain ⟨rfl, l, hlodging, rfl⟩ := Depot.clusters_eq_some hlive
      exact Lodging.wraps_kubeconfig
  | listPools id =>
      refine ⟨rfl, fun h hlive => ⟨⟨d.listing, rfl, ?_, ?_⟩, rfl⟩⟩
      · obtain ⟨rfl, l, hlodging, rfl⟩ := Depot.clusters_eq_some hlive
        rw [Depot.listing, hlodging, List.map_map]
        exact List.Perm.refl _
      · rw [Depot.listing]
        split
        · intro pool hpool node hnode
          obtain ⟨_, _, rfl⟩ := List.mem_map.mp hpool
          cases hnode
        · exact fun pool hpool => absurd hpool List.not_mem_nil
  | createPool id request =>
      refine ⟨d.cancels_onLedger _, fun h hlive => Depot.onLedger_does hlive fun l => ?_⟩
      exact ledgerWorld_keeps id (.createPool id request) l
  | updatePool id pool request =>
      refine ⟨d.cancels_onLedger _, fun h hlive => Depot.onLedger_does hlive fun l => ?_⟩
      exact ledgerWorld_keeps id (.updatePool id pool request) l
  | deletePool id pool =>
      refine ⟨d.cancels_onLedger _, fun h hlive => Depot.onLedger_does hlive fun l => ?_⟩
      exact ledgerWorld_keeps id (.deletePool id pool) l
  | patchStatus inNamespace name status => exact ⟨rfl, fun _ _ => ⟨rfl, rfl⟩⟩
  | addFinalizer inNamespace name =>
      refine ⟨rfl, fun _ _ => ⟨rfl, some [clusterFinalizer], rfl, ?_⟩⟩
      exact List.mem_singleton_self _
  | getSecret inNamespace name => exact ⟨rfl, rfl, rfl⟩
  | createSecret inNamespace secret =>
      exact ⟨rfl, fun _ => ⟨rfl, _, ⟨secret, rfl, rfl, rfl⟩, rfl⟩⟩
  | replaceSecret inNamespace secret =>
      exact ⟨rfl, fun _ => ⟨rfl, _, ⟨secret, rfl, rfl, rfl⟩, rfl⟩⟩
  | deleteCluster id => exact ⟨rfl, trivial⟩
  | removeFinalizer inNamespace name => exact ⟨rfl, trivial⟩

/-- A depot in which nothing is. -/
def emptyDepot : Depot where
  finalizers := none
  status := none
  vault := ⟨fun _ _ => none, fun _ _ _ hfound => by cases hfound⟩
  lodging := none

/-- The workshop with tags, and highly available. -/
def markedWorkshop : ClusterDeclaration :=
  { workshop with
    spec := { workshop.spec with tags := some ["team-a", "edge"], highAvailability := some true } }

/-- The cluster of the workshop, as somebody has left it: with another tag, and not highly
available. -/
def neglectedLodging : Lodging :=
  { Lodging.ofRequest (creationRequest markedWorkshop "1.30") with
    tags := ["scratch"]
    highlyAvailable := false }

/-- A depot with that cluster, which is on record. -/
def neglectedDepot : Depot :=
  { emptyDepot with
    status := some { ClusterStatus.blank with clusterId := some Lodging.place }
    lodging := some neglectedLodging }

/-- The passes over the workshop, from a depot on. -/
def workshopPass (start : Depot) : Nat → PassEnd × Scene Depot :=
  depotWorld.passes Settings.standard (fun d => d.site.resource markedWorkshop) start

/-- Where nothing is the first pass creates a cluster, and all later ones find it as declared. Where
there is a cluster the first pass makes it as declared. -/
theorem workshop_comes_to_rest :
    (workshopPass emptyDepot 0).1 = .through (.requeue Settings.standard.requeueDelay) ∧
      (∃ id hosted, Tags.Same ["team-a", "edge"] hosted.tags ∧ hosted.highlyAvailable = true ∧
        ∀ n, 1 ≤ n →
          (workshopPass emptyDepot n).1 = .through (.requeue Settings.standard.resyncDelay) ∧
          (workshopPass emptyDepot n).2.state.site.IsSettled markedWorkshop id hosted ∧
          (1 < n → (workshopPass emptyDepot n).2.state.site =
              (workshopPass emptyDepot 1).2.state.site ∧
            ∀ e ∈ (workshopPass emptyDepot n).2.exchanges,
              Call.IsResting markedWorkshop id e.call)) ∧
      ∃ id hosted, Tags.Same ["team-a", "edge"] hosted.tags ∧ hosted.highlyAvailable = true ∧
        ∀ n,
          (workshopPass neglectedDepot n).1 = .through (.requeue Settings.standard.resyncDelay) ∧
          (workshopPass neglectedDepot n).2.state.site.IsSettled markedWorkshop id hosted ∧
          (0 < n → (workshopPass neglectedDepot n).2.state.site =
              (workshopPass neglectedDepot 0).2.state.site ∧
            ∀ e ∈ (workshopPass neglectedDepot n).2.exchanges,
              Call.IsResting markedWorkshop id e.call) := by
  have hplain : ∀ name shape, markedWorkshop.spec.nodePools.get? name = some shape →
      IsPlain name := by
    intro name shape hshape
    have hmem := List.mem_singleton.mp (KeyMap.get?_eq_some_iff.mp hshape)
    cases hmem
    decide
  have hwanted : Tags.Wanted markedWorkshop (some ["team-a", "edge"]) := .declared rfl
  have hempty : emptyDepot.site.IsStartable markedWorkshop := ⟨1, rfl, Nat.le_refl 1⟩
  have hneglected : neglectedDepot.site.IsStartable markedWorkshop := by
    have hfor : (Lodging.ofRequest (creationRequest markedWorkshop "1.30")).asHosted.IsFor
        (creationRequest markedWorkshop "1.30") := Lodging.isFor_ofRequest (Nat.le_refl 1)
    have hnew := hfor.isWorkable (markedWorkshop.spec.isDeclarable rfl hplain)
    have hwork : neglectedLodging.asHosted.IsWorkable markedWorkshop.spec.nodePools :=
      ⟨hnew.sound, hnew.room⟩
    exact hwork
  obtain ⟨k, hk, hcreates, hbefore, id, hosted, hrests⟩ := passes_come_to_rest
    (depotWorld_keeps markedWorkshop) Settings.standard rfl rfl hplain hempty
  have hnot : k ≠ 0 := fun hzero => Bool.false_ne_true (hcreates.mp hzero)
  obtain rfl : k = 1 := by omega
  obtain ⟨k', -, hlives, -, id', hosted', hrests'⟩ := passes_come_to_rest
    (depotWorld_keeps markedWorkshop) Settings.standard rfl rfl hplain hneglected
  obtain rfl : k' = 0 := hlives.mpr rfl
  have hsettled := (hrests 1 (Nat.le_refl 1)).2.1
  have hsettled' := (hrests' 0 (Nat.le_refl 0)).2.1
  refine ⟨hbefore 0 Nat.zero_lt_one, ?_, ?_⟩
  · exact ⟨id, hosted, hsettled.tags _ hwanted, hsettled.highlyAvailable, hrests⟩
  · exact ⟨id', hosted', hsettled'.tags _ hwanted, hsettled'.highlyAvailable,
      fun n => hrests' n (Nat.zero_le n)⟩

end ClusterKeeper
