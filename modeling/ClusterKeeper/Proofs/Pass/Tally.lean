import ClusterKeeper.Proofs.Pass.Custody
import ClusterKeeper.Proofs.Pass.Gating
import ClusterKeeper.Proofs.Pass.Settlement
import ClusterKeeper.Proofs.Pass.Stages
/-!
Failure counts when a resource is released.

A pass that takes the finalizer off after the provider said that the cluster is gone forgets the
failures of the resource. One that finds no cluster on record takes it off at once, and forgets
nothing: the next resource of that name begins with the failures of this one.
-/

namespace ClusterKeeper

variable {σ : Type} {conduct : Conduct σ} {settings : Settings} {cluster : ClusterDeclaration}
  {scene : Scene σ} {exchanges : List Exchange}

/-- What changes failure counts: a pass, or a failed pass that is responded to. -/
inductive Occurrence : Type 1 where
  | pass {σ : Type} (world : World σ) (settings : Settings) (cluster : ClusterDeclaration)
      (cancelled : Bool) (memory : ClusterStatus) (state : σ)
  | failure (cluster : ClusterDeclaration) (fault : Fault)

/-- The failure counts after an occurrence. -/
def FailureCounts.after (counts : FailureCounts) : Occurrence → FailureCounts
  | .pass world settings cluster cancelled memory state =>
      (world.run (reconcile settings cluster) (.start cancelled memory state)).1.account cluster.key
        counts
  | .failure cluster fault => (respondToFailure counts cluster.key fault).2

/-- The failure counts after a history, which begins without any. -/
def tally (history : List Occurrence) : FailureCounts :=
  history.foldl FailureCounts.after .none

theorem tally_snoc (history : List Occurrence) (occurrence : Occurrence) :
    tally (history ++ [occurrence]) = (tally history).after occurrence := by
  rw [tally, List.foldl_append]
  rfl

/-- The finalizer was taken off. -/
def Exchange.Releases : Exchange → Prop
  | ⟨.removeFinalizer _ _, response, _, _⟩ => (response.reply : Except Fault Unit) = .ok ()
  | _ => False

theorem Exchange.Releases.releasesResource {e : Exchange} (h : e.Releases) :
    e.call.ReleasesResource := by
  obtain ⟨c, response, abandoned, memory⟩ := e
  cases c <;> first | exact trivial | exact h.elim

/-- No finalizer was taken off. -/
def Unreleased (exchanges : List Exchange) : Prop := ∀ e ∈ exchanges, ¬ e.Releases

theorem Unreleased.snoc (h : Unreleased exchanges) {e : Exchange} (he : ¬ e.Releases) :
    Unreleased (exchanges ++ [e]) :=
  List.forall_mem_append.mpr ⟨h, List.forall_mem_singleton.mpr he⟩

theorem preserves_unreleased (conduct : Conduct σ) :
    conduct.Preserves (fun c => ¬ c.ReleasesResource) fun scene => Unreleased scene.exchanges :=
  Conduct.preserves_exchanges fun _ _ _ _ _ hkind h =>
    h.snoc fun hreleases => hkind hreleases.releasesResource

theorem keeps_unreleased_engage :
    Attempt.Keeps conduct (fun scene => Unreleased scene.exchanges) (Attempt.engage cluster) := by
  apply Attempt.keeps_engage
  · apply (preserves_unreleased conduct).mono
    rintro c hc hreleases
    cases c <;> first | exact hreleases | exact hc trivial
  · exact Attempt.keeps_amend_exchanges fun _ _ _ h => h.snoc id

/-- How a pass ends in which the finalizer was taken off. -/
def ClusterDeclaration.release (cluster : ClusterDeclaration) : PassEnd :=
  if cluster.currentStatus.clusterId = none then .idle else .through .awaitChange

/-- Where the finalizer was taken off, the pass ends so. -/
def EndsReleased (cluster : ClusterDeclaration) (ending : PassEnd) (exchanges : List Exchange) :
    Prop :=
  (∃ e ∈ exchanges, e.Releases) → ending = cluster.release

theorem Unreleased.endsReleased (h : Unreleased exchanges) (ending : PassEnd) :
    EndsReleased cluster ending exchanges := by
  rintro ⟨e, he, hreleases⟩
  exact absurd hreleases (h e he)

theorem Unreleased.ensures_releaseResource (h : Unreleased scene.exchanges) :
    Pass.Ensures conduct (releaseResource cluster cluster.release)
      (fun ending scene' => EndsReleased cluster ending scene'.exchanges) scene := by
  rw [Pass.ensures_releaseResource]
  intro response state _
  rw [Scene.exchanges_after]
  cases hreply : (response.reply : Except Fault Unit) with
  | ok _ => exact fun _ => rfl
  | error fault =>
      refine (h.snoc fun hreleases => ?_).endsReleased _
      have hok : (response.reply : Except Fault Unit) = .ok () := hreleases
      rw [hreply] at hok
      cases hok

theorem Unreleased.ensures_recordFailure (h : Unreleased scene.exchanges) (fault : Fault)
    (ending : PassEnd) :
    Pass.Ensures conduct (recordFailure cluster fault)
      (fun _ scene' => EndsReleased cluster ending scene'.exchanges) scene :=
  (keeps_recordFailure_exchanges (fun _ _ _ h => h.snoc id) fault scene h).mono
    fun _ _ hscene => hscene.endsReleased ending

/-- What there is when a pass goes on to the provider. -/
structure Engaging (cluster : ClusterDeclaration) (scene : Scene σ) : Prop where
  unreleased : Unreleased scene.exchanges
  recorded : cluster.isBeingDeleted = true → cluster.release = .through .awaitChange

theorem Unreleased.ensures_prepare (h : Unreleased scene.exchanges) :
    Pass.Ensures conduct (prepare cluster) (unlessEnded (Engaging cluster)
      fun ending scene' => EndsReleased cluster ending scene'.exchanges) scene := by
  have hkeeps : ∀ {kept : Scene σ}, cluster.isBeingDeleted = false → Unreleased kept.exchanges →
      Engaging cluster kept := fun hkept hscene => ⟨hscene, by simp [hkept]⟩
  apply Pass.ensures_prepare
  · exact fun _ _ => h.endsReleased _
  · intro _ _ hid
    have hrelease : cluster.release = .idle := if_pos hid
    rw [← hrelease]
    exact h.ensures_releaseResource
  · intro _ _ id hid
    exact ⟨h, fun _ => if_neg (by simp [hid])⟩
  · exact fun _ fault _ => h.ensures_recordFailure fault .idle
  · exact fun hkept _ => hkeeps hkept h
  · intro hkept response state hconduct
    have hafter := (preserves_unreleased conduct).after scene _ response false state id hconduct h
    cases (response.reply : Except Fault Unit) with
    | error fault => exact hafter.endsReleased _
    | ok _ => exact hkeeps hkept hafter

theorem keeps_engaging : Attempt.Keeps conduct (Engaging cluster) (Attempt.engage cluster) :=
  fun scene h => (keeps_unreleased_engage scene h.unreleased).mono
    fun _ _ hengaged => ⟨hengaged, h.recorded⟩

theorem Engaging.ensures_wrapUp (h : Engaging cluster scene) (r : Except Fault Progress) :
    Pass.Ensures conduct (wrapUp settings cluster r)
      (fun ending scene' => EndsReleased cluster ending scene'.exchanges) scene := by
  apply Pass.ensures_wrapUp
  · exact fun fault _ => h.unreleased.ensures_recordFailure fault _
  · intro hdeleted _
    rw [← h.recorded hdeleted]
    exact h.unreleased.ensures_releaseResource
  · exact fun _ _ _ => h.unreleased.endsReleased _

theorem Unreleased.ensures_reconcile (h : Unreleased scene.exchanges) :
    Pass.Ensures conduct (reconcile settings cluster)
      (fun ending scene' => EndsReleased cluster ending scene'.exchanges) scene := by
  have hentered : Unreleased (scene.recording cluster.currentStatus).exchanges := h
  apply Pass.ensures_reconcile
  · exact hentered.ensures_prepare
  · exact keeps_engaging
  · exact fun r _ hengaged => hengaged.ensures_wrapUp r

/-- After a pass that took the finalizer off, the failures of the resource are forgotten if a
cluster was on record; if none was, they are counted as before. The backoff after the next failure
of a resource with that name goes by this. -/
theorem released_resource_count (history : List Occurrence) (world : World σ) (settings : Settings)
    (cluster : ClusterDeclaration) (cancelled : Bool) (memory : ClusterStatus) (state : σ)
    (hreleased : ∃ e ∈ (world.run (reconcile settings cluster)
      (.start cancelled memory state)).2.exchanges, e.Releases) :
    let before := (tally history).count cluster.key
    let counts := tally (history ++ [.pass world settings cluster cancelled memory state])
    let left := if cluster.currentStatus.clusterId = none then before else 0
    counts.count cluster.key = left ∧ ∀ fault, fault ≠ .cancelled →
      (respondToFailure counts cluster.key fault).1 = .backOff (FailureCounts.next left) := by
  intro before counts left
  have hnothing : Unreleased ((Scene.start cancelled memory state).through id).exchanges :=
    fun _ he => absurd he List.not_mem_nil
  have hends : EndsReleased cluster
      (world.run (reconcile settings cluster) (.start cancelled memory state)).1
      (world.run (reconcile settings cluster) (.start cancelled memory state)).2.exchanges :=
    World.run_of_ensures (world.keeps_any id) hnothing.ensures_reconcile
  have hcounts : counts = cluster.release.account cluster.key (tally history) := by
    rw [← hends hreleased]
    exact tally_snoc history _
  have hcount : counts.count cluster.key = left := by
    rw [hcounts, PassEnd.account, ClusterDeclaration.release]
    by_cases hid : cluster.currentStatus.clusterId = none
    · simp [left, before, hid, PassEnd.idle]
    · simp [left, hid, PassEnd.through, FailureCounts.count_reset]
  refine ⟨hcount, fun fault hfault => ?_⟩
  simp [respondToFailure, hfault, FailureCounts.count_fail, hcount]

/-- The secret with the token could not be read, so that the provider was not connected to. -/
def connectionFault : Fault := .api (.transport "connection refused")

/-- A pass over the workshop that could not connect. -/
def workshopFailure : Occurrence := .failure workshop connectionFault

/-- The workshop when it is to be deleted, with a cluster on record that the provider does not know.
-/
def vanishedWorkshop : ClusterDeclaration := (workshop.withStatus provisioningWorkshop).marked

/-- A pass over a resource with a provider that knows no cluster. -/
def vacantPass (cluster : ClusterDeclaration) : Occurrence :=
  .pass plainWorld Settings.standard cluster false .blank ⟨cluster, [], []⟩

/-- The calls of that pass. -/
def vacantExchanges (cluster : ClusterDeclaration) : List Exchange :=
  (plainWorld.run (reconcile Settings.standard cluster)
    (.start false .blank ⟨cluster, [], []⟩)).2.exchanges

/-- Once the provider said that the cluster is gone, the failure is forgotten. -/
theorem vanished_workshop_count :
    (∃ e ∈ vacantExchanges vanishedWorkshop, e.Releases) ∧
      (tally [workshopFailure]).count vanishedWorkshop.key = 1 ∧
      (tally [workshopFailure, vacantPass vanishedWorkshop]).count vanishedWorkshop.key = 0 := by
  have hreleased : ∃ e ∈ vacantExchanges vanishedWorkshop, e.Releases :=
    ⟨_, List.mem_of_getLast? (by rfl), by rfl⟩
  have hcount := released_resource_count [workshopFailure] plainWorld Settings.standard
    vanishedWorkshop false .blank ⟨vanishedWorkshop, [], []⟩ hreleased
  exact ⟨hreleased, by decide +kernel, hcount.1⟩

/-- With no cluster on record the finalizer is taken off and the failure still counts. -/
theorem vacant_workshop_count :
    (∃ e ∈ vacantExchanges workshop.marked, e.Releases) ∧
      (tally [workshopFailure, vacantPass workshop.marked]).count workshop.marked.key = 1 := by
  have hreleased : ∃ e ∈ vacantExchanges workshop.marked, e.Releases :=
    ⟨_, List.mem_of_getLast? (by rfl), by rfl⟩
  exact ⟨hreleased, by decide +kernel⟩

end ClusterKeeper
