import ClusterKeeper.Proofs.Pass.Invariance
import ClusterKeeper.Proofs.Settling.Steps
/-!
Parts of a pass among faithful collaborators.

Between the parts of an update the status on record is the one in memory. Each part leaves one more
thing as declared and on record, and nothing changes in a part whose thing is so already.
-/

namespace ClusterKeeper

open Pools Dialogue

variable {cluster : ClusterDeclaration} {kind : Call → Prop} {s : Site} {m : ClusterStatus}
  {scene : Scene Site} {id : ClusterId} {hosted : Hosted}

namespace Stands

/-- The status in memory is put on record, without a failure. -/
theorem ensures_persist (h : Stands kind s m scene) (hall : ∀ c, kind c) :
    Attempt.Ensures (Faithful cluster) (Attempt.persist cluster) (returning fun _ scene' =>
      Stands kind (s.withStatus { m with failureMessage := none })
        { m with failureMessage := none } scene') scene := by
  rw [Attempt.ensures_persist]
  intro response s' hfaithful
  obtain ⟨hgoing, hdoes⟩ := hfaithful
  obtain ⟨hreply, hwritten⟩ := hdoes rfl rfl
  have hmemory : scene.memory = m := h.memory
  have hstate : scene.state = s := h.state
  change s' = scene.state.withStatus { scene.memory with failureMessage := none } at hwritten
  rw [hmemory, hstate] at hwritten
  rw [hwritten, hmemory, hreply]
  exact (h.recording _).after hgoing (hall _)

/-- A phase is entered and put on record. -/
theorem ensures_enter (h : Stands kind (s.withStatus m) m scene) (hall : ∀ c, kind c)
    (phase : Phase) :
    Attempt.Ensures (Faithful cluster) (Attempt.enter cluster phase) (returning fun _ scene' =>
      ∃ m', m'.clusterId = m.clusterId ∧ Stands kind (s.withStatus m') m' scene') scene := by
  rw [Attempt.ensures_enter]
  split
  · exact ⟨m, rfl, h⟩
  · rw [h.memory]
    apply ((h.recording { m with phase }).ensures_persist hall).mono_returning
    intro _ scene' h
    exact ⟨{ m with phase, failureMessage := none }, rfl, h⟩

/-- The cluster is put on record as active, unless it is without a failure. -/
theorem ensures_markActive (h : Stands kind (s.withStatus m) m scene)
    (hfree : m.phase = .active ∧ m.failureMessage = none ∨ ∀ c, kind c) :
    Attempt.Ensures (Faithful cluster) (Attempt.markActive cluster) (returning fun _ scene' =>
      Stands kind (s.withStatus { m with phase := .active, failureMessage := none })
        { m with phase := .active, failureMessage := none } scene') scene := by
  rw [Attempt.markActive, Attempt.ensures_bind, Attempt.ensures_status, orFault_ok, h.memory]
  split
  · next hactive =>
      obtain ⟨phase, clusterId, pools, failure⟩ := m
      obtain ⟨rfl, rfl⟩ := hactive
      exact h
  · next hactive =>
      rw [Attempt.ensures_bind, Attempt.ensures_modifyStatus, orFault_ok, h.memory]
      exact (h.recording _).ensures_persist (hfree.resolve_left hactive)

/-- A plan for the pools is carried out. -/
theorem ensures_apply (h : Stands kind s m scene) (hlive : s.clusters id = some hosted)
    {shapes : KeyMap PoolShape} (hdecl : IsDeclarable shapes) (hwork : hosted.IsWorkable shapes)
    (hall : ∀ c, kind c) :
    Step.Ensures (Faithful cluster) ((planFor shapes hosted.host.pools).apply id)
      (returning fun _ scene' => ∃ host,
        Stands kind (s.withCluster id (hosted.withHost host)) m scene' ∧ IsSound host.pools ∧
          IsConverged shapes host.pools) scene := by
  have hdone : ∀ {host : PoolHost} {action rest} {scene : Scene Site} {response s'},
      Stands kind (s.withCluster id (hosted.withHost host)) m scene →
      Outstanding shapes (action :: rest) host.pools →
      (creations (action :: rest)).length ≤ host.room →
      Faithful cluster scene.state (action.toCall id) response s' →
      action.Passes id response.reply ∧ ∃ host', host.CarriesOut action host' ∧
        s' = s.withCluster id (hosted.withHost host') := by
    intro host action rest scene response s' h hrest hroom hfaithful
    rw [h.state] at hfaithful
    obtain ⟨host', hobliging, rfl⟩ := hfaithful.2.toCall (s.clusters_withCluster id _)
    obtain ⟨hpasses, hcarries⟩ := hobliging.carriesOut hrest hroom
    exact ⟨hpasses, host', hcarries, s.withCluster_withCluster id _ _⟩
  refine PoolPlan.ensures_apply (fun rest scene => ∃ host,
    Stands kind (s.withCluster id (hosted.withHost host)) m scene ∧
      Outstanding shapes rest host.pools ∧ Exhaustive shapes rest host.pools ∧
      (creations rest).length ≤ host.room) ?_ ?_ ?_ ?_
  · rintro action rest scene response s' ⟨host, h, hrest, hexhaustive, hroom⟩ hfaithful _
    obtain ⟨_, host', hcarries, rfl⟩ := hdone h hrest hroom hfaithful
    exact ⟨host', h.after hfaithful.1 (hall _), outstanding_of_carriesOut hdecl hrest hcarries,
      exhaustive_of_carriesOut hdecl hrest hcarries hexhaustive, room_of_carriesOut hcarries hroom⟩
  · rintro action rest scene response s' fault ⟨host, h, hrest, _, hroom⟩ hfaithful hpasses
    exact absurd (hdone h hrest hroom hfaithful).1 hpasses
  · rintro scene ⟨host, h, hrest, hexhaustive, _⟩
    exact ⟨host, h, hrest.sound, isConverged_of_exhaustive hrest hexhaustive⟩
  · have hstart : s.withCluster id (hosted.withHost hosted.host) = s :=
      Site.withCluster_self hlive
    rw [← hstart] at h
    exact ⟨hosted.host, h, outstanding_planFor hwork.sound hdecl,
      exhaustive_planFor hwork.sound hdecl, hwork.room⟩

/-- The pools are listed and remembered. -/
theorem ensures_observePools (h : Stands kind s m scene) (hlive : s.clusters id = some hosted)
    (hsound : IsSound hosted.host.pools) (hlist : kind (.listPools id)) :
    Attempt.Ensures (Faithful cluster) (Attempt.observePools id) (returning fun _ scene' =>
      Stands kind s { m with pools := observed hosted.host.pools } scene') scene := by
  apply (h.ensures_step fun scene h => h.ensures_listPools hlive hlist).seq
  rintro listing scene ⟨hshows, h⟩
  rw [Attempt.ensures_modifyStatus, h.memory, hshows.observed_eq hsound]
  exact h.recording _

/-- The pools come to be as declared and as recorded; if they are, nothing changes. -/
structure SettlesPools (shapes : KeyMap PoolShape) (host : PoolHost) (m : ClusterStatus)
    (host' : PoolHost) (m' : ClusterStatus) : Prop where
  sound : IsSound host'.pools
  converged : IsConverged shapes host'.pools
  clusterId : m'.clusterId = m.clusterId
  recorded : m'.pools = observed host'.pools
  same : IsConverged shapes host.pools → m.pools = observed host.pools → host' = host ∧ m' = m

/-- The pools are brought to their shapes, and put on record. -/
theorem ensures_convergePools (h : Stands kind (s.withStatus m) m scene)
    (hlive : s.clusters id = some hosted) (hdecl : IsDeclarable cluster.spec.nodePools)
    (hwork : hosted.IsWorkable cluster.spec.nodePools) (hlist : kind (.listPools id))
    (hfree : IsConverged cluster.spec.nodePools hosted.host.pools ∧
      m.pools = observed hosted.host.pools ∨ ∀ c, kind c) :
    Attempt.Ensures (Faithful cluster) (Attempt.convergePools cluster id)
      (returning fun _ scene' => ∃ host m',
        Stands kind ((s.withCluster id (hosted.withHost host)).withStatus m') m' scene' ∧
          SettlesPools cluster.spec.nodePools hosted.host m host m') scene := by
  have hsame : s.withCluster id (hosted.withHost hosted.host) = s := Site.withCluster_self hlive
  apply (h.ensures_step fun scene h => h.ensures_listPools hlive hlist).seq
  rintro listing scene ⟨hshows, h⟩
  dsimp only
  rw [hshows.observed_eq hwork.sound]
  split
  · next hempty =>
      have hconverged := (isEmpty_planFor_iff hwork.sound hdecl).mp hempty
      rw [Attempt.ensures_bind, Attempt.ensures_status, orFault_ok, h.memory]
      split
      · next hrecorded =>
          rw [← hsame] at h
          exact ⟨hosted.host, m, h, hwork.sound, hconverged, rfl, hrecorded, fun _ _ => ⟨rfl, rfl⟩⟩
      · next hrecorded =>
          have hall := hfree.resolve_left fun hand => hrecorded hand.2
          rw [Attempt.ensures_bind, Attempt.ensures_modifyStatus, orFault_ok, h.memory]
          apply ((h.recording _).ensures_persist hall).mono_returning
          intro _ scene' h
          rw [← hsame] at h
          exact ⟨hosted.host, _, h, hwork.sound, hconverged, rfl, rfl,
            fun _ heq => absurd heq hrecorded⟩
  · next hempty =>
      have hnot : ¬ IsConverged cluster.spec.nodePools hosted.host.pools := fun hconverged =>
        hempty (isEmpty_planFor_of_isConverged hwork.sound hdecl hconverged)
      have hall := hfree.resolve_left fun hand => hnot hand.1
      apply (h.ensures_enter hall .updating).seq
      rintro _ scene ⟨m₁, hid, h⟩
      apply (h.ensures_step fun scene h => h.ensures_apply hlive hdecl hwork hall).seq
      rintro _ scene ⟨host, h, hsound, hconverged⟩
      apply (h.ensures_observePools (Site.clusters_withCluster _ id _) hsound (hall _)).seq
      intro _ scene h
      apply (h.ensures_persist hall).mono_returning
      intro _ scene' h
      exact ⟨host, _, h, hsound, hconverged, hid, rfl, fun hold => absurd hold hnot⟩

section Update

variable (hlive : s.clusters id = some hosted) {remote : RemoteCluster}
  (hreport : hosted.Reports id remote)
include hlive hreport

/-- After all parts of an update the cluster is settled. -/
theorem settles_updated (hguarded : s.IsGuarded)
    (hid : m.clusterId = some id) {host : PoolHost} {m' : ClusterStatus} {vault : Vault}
    (hpools : SettlesPools cluster.spec.nodePools hosted.host m host m')
    (hvault : s.vault.Syncs cluster hosted.kubeconfig vault) :
    (s.withStatus m).Settles cluster id hosted
      ({ s.withCluster id ((hosted.changedBy (updateRequest cluster remote)).withHost host) with
        vault }.withStatus { m' with phase := .active, failureMessage := none })
      ((hosted.changedBy (updateRequest cluster remote)).withHost host) where
  settled :=
    { guarded := hguarded
      live := s.clusters_withCluster id _
      status := by
        change (⟨.active, m'.clusterId, m'.pools, none⟩ : ClusterStatus) = _
        rw [hpools.clusterId, hid, hpools.recorded]
        rfl
      tags := hreport.inLine_changedBy
      highlyAvailable := hosted.highlyAvailable_changedBy cluster remote
      sound := hpools.sound
      converged := hpools.converged
      held := hvault.holds }
  same := by
    intro hsettled
    have hmemory : m = ⟨.active, some id, observed hosted.host.pools, none⟩ := hsettled.status
    have hpools' : m.pools = observed hosted.host.pools := by
      rw [hmemory]
    obtain ⟨rfl, rfl⟩ := hpools.same hsettled.converged hpools'
    obtain rfl := hvault.same hsettled.held
    rw [hreport.changedBy_eq hsettled.tags hsettled.highlyAvailable]
    have hsame : s.withCluster id (hosted.withHost hosted.host) = s := Site.withCluster_self hlive
    rw [hsame, hmemory]

variable (hguarded : s.IsGuarded)
  (hdecl : IsDeclarable cluster.spec.nodePools) (hwork : hosted.IsWorkable cluster.spec.nodePools)
  (hrest : ∀ c, Call.IsResting cluster id c → kind c)
include hguarded hdecl hwork hrest

theorem ensures_updateAnnounced (h : Stands kind (s.withStatus m) m scene)
    (hid : m.clusterId = some id)
    (hfree : (s.withStatus m).IsSettled cluster id hosted ∨ ∀ c, kind c) :
    Attempt.Ensures (Faithful cluster) (Attempt.updateAnnounced cluster remote)
      (returning fun progress scene' => progress = .settled ∧ ∃ s' hosted',
        Stands kind s' s'.currentStatus scene' ∧
          (s.withStatus m).Settles cluster id hosted s' hosted') scene := by
  obtain rfl := hreport.id
  have hmemory : (s.withStatus m).IsSettled cluster remote.id hosted →
      m = ⟨.active, some remote.id, observed hosted.host.pools, none⟩ := fun hsettled =>
    hsettled.status
  have hrecorded : (s.withStatus m).IsSettled cluster remote.id hosted →
      m.pools = observed hosted.host.pools := by
    intro hsettled
    rw [hmemory hsettled]
  have hasked : kind (.updateCluster remote.id (updateRequest cluster remote)) := by
    rcases hfree with hsettled | hall
    · exact hrest _ ⟨rfl, hreport.updateRequest_eq hsettled.tags⟩
    · exact hall _
  apply (h.ensures_step fun scene h => h.ensures_updateCluster hlive _ hasked).seq
  intro _ scene h
  have h : Stands kind ((s.withCluster remote.id
    (hosted.changedBy (updateRequest cluster remote))).withStatus m) m scene := h
  apply (h.ensures_convergePools (s.clusters_withCluster remote.id _) hdecl
    ⟨hwork.sound, hwork.room⟩ (hrest _ trivial)
    (hfree.imp_left fun hsettled => ⟨hsettled.converged, hrecorded hsettled⟩)).seq
  rintro _ scene ⟨host, m₂, h, hpools⟩
  rw [s.withCluster_withCluster] at h
  have hlive₂ := s.clusters_withCluster remote.id
    ((hosted.changedBy (updateRequest cluster remote)).withHost host)
  apply (h.ensures_step fun scene h => h.ensures_sync hlive₂ (hrest _ trivial) (hrest _ trivial)
    (hfree.imp_left fun hsettled => hsettled.held)).seq
  rintro _ scene ⟨rfl, vault, h, hvault⟩
  apply (h.ensures_step fun scene h => h.ensures_isReady hlive₂ (hrest _ trivial)
    (hrest _ trivial)).seq
  rintro _ scene ⟨rfl, h⟩
  have hactive : m₂.phase = .active ∧ m₂.failureMessage = none ∨ ∀ c, kind c := by
    refine hfree.imp_left fun hsettled => ?_
    obtain ⟨_, rfl⟩ := hpools.same hsettled.converged (hrecorded hsettled)
    rw [hmemory hsettled]
    exact ⟨rfl, rfl⟩
  have hmark : Attempt.Ensures (Faithful cluster) (Attempt.markActive cluster) _ scene :=
    ensures_markActive (s := { s.withCluster remote.id ((hosted.changedBy
      (updateRequest cluster remote)).withHost host) with vault }) h hactive
  apply hmark.seq
  intro _ scene h
  exact ⟨rfl, _, _, h, settles_updated hlive hreport hguarded hid hpools hvault⟩

/-- A cluster is brought to its declaration. -/
theorem ensures_update (h : Stands kind (s.withStatus m) m scene) (hid : m.clusterId = some id)
    (hfree : (s.withStatus m).IsSettled cluster id hosted ∨ ∀ c, kind c) :
    Attempt.Ensures (Faithful cluster) (Attempt.update cluster remote)
      (returning fun progress scene' => progress = .settled ∧ ∃ s' hosted',
        Stands kind s' s'.currentStatus scene' ∧
          (s.withStatus m).Settles cluster id hosted s' hosted') scene := by
  rw [Attempt.update_eq]
  split
  · next hdiffers =>
      have hnot : ∀ m, ¬ (s.withStatus m).IsSettled cluster id hosted := by
        intro m hsettled
        rw [hreport.settingsDiffer_eq hsettled.tags hsettled.highlyAvailable] at hdiffers
        exact Bool.false_ne_true hdiffers
      have hall := hfree.resolve_left (hnot m)
      apply (h.ensures_enter hall .updating).seq
      rintro _ scene ⟨m₁, hid₁, h⟩
      apply (ensures_updateAnnounced hlive hreport hguarded hdecl hwork hrest h (hid₁.trans hid)
        (Or.inr hall)).mono_returning
      rintro progress scene' ⟨hprogress, s', hosted', h, hsettles⟩
      exact ⟨hprogress, s', hosted', h, hsettles.settled, fun hsettled => absurd hsettled (hnot m)⟩
  · exact ensures_updateAnnounced hlive hreport hguarded hdecl hwork hrest h hid hfree

end Update

/-- A cluster is created and put on record. -/
theorem ensures_create (h : Stands kind s m scene) (hall : ∀ c, kind c)
    (hdecl : IsDeclarable cluster.spec.nodePools) {capacity : Nat}
    (hoffer : s.offer = some capacity) (hsize : cluster.spec.nodePools.size ≤ capacity) :
    Attempt.Ensures (Faithful cluster) (Attempt.create cluster)
      (returning fun progress scene' => progress = .inFlight ∧ ∃ s' hosted,
        Stands kind s' s'.currentStatus scene' ∧ s'.recorded? = some hosted ∧
          hosted.IsWorkable cluster.spec.nodePools) scene := by
  apply (h.ensures_step fun scene h => h.ensures_chooseVersion cluster.spec (hall _)).seq
  intro version scene h
  have hroom : (creationRequest cluster version).pools.length ≤ capacity := by
    rw [creationRequest, Pools.creations, List.length_map]
    exact hsize
  apply (h.ensures_step fun scene h => h.ensures_createCluster hall _ hoffer hroom).seq
  rintro remote scene ⟨hosted, offer, hfor, h⟩
  rw [Attempt.ensures_bind, Attempt.ensures_modifyStatus, orFault_ok, h.memory]
  apply ((h.recording _).ensures_persist hall).seq
  intro _ scene h
  have hwork := hfor.isWorkable hdecl
  have hlive := s.clusters_withCluster remote.id hosted
  apply (h.ensures_observePools hlive hwork.sound (hall _)).seq
  intro _ scene h
  apply (h.ensures_persist hall).seq
  intro _ scene h
  exact ⟨rfl, _, hosted, h, hlive, hwork⟩

/-- A cluster that is on record and there is brought to its declaration. -/
theorem ensures_converge_of_live (h : Stands kind (s.withStatus m) m scene)
    (hid : m.clusterId = some id) (hlive : s.clusters id = some hosted)
    (hguarded : s.IsGuarded)
    (hdecl : IsDeclarable cluster.spec.nodePools)
    (hwork : hosted.IsWorkable cluster.spec.nodePools)
    (hrest : ∀ c, Call.IsResting cluster id c → kind c)
    (hfree : (s.withStatus m).IsSettled cluster id hosted ∨ ∀ c, kind c) :
    Attempt.Ensures (Faithful cluster) (Attempt.converge cluster)
      (returning fun progress scene' => progress = .settled ∧ ∃ s' hosted',
        Stands kind s' s'.currentStatus scene' ∧
          (s.withStatus m).Settles cluster id hosted s' hosted') scene := by
  rw [Attempt.converge, Attempt.ensures_bind, Attempt.ensures_status, orFault_ok, h.memory, hid]
  dsimp only
  have hgot : Attempt.Ensures (Faithful cluster) (Attempt.calls (Call.getCluster id).ask)
      (returning fun reply scene' => (∃ remote, reply = Except.ok remote ∧
        hosted.Reports id remote) ∧ Stands kind (s.withStatus m) m scene') scene := by
    apply h.ensures_call (.getCluster id) (hrest _ trivial)
    intro response s' scene' hdoes h
    obtain ⟨hreports, _, rfl⟩ := hdoes
    exact ⟨hreports hosted hlive, h⟩
  apply hgot.seq
  rintro _ scene ⟨⟨remote, rfl, hreport⟩, h⟩
  exact ensures_update hlive hreport hguarded hdecl hwork hrest h hid hfree

/-- A cluster that is not on record, or not there, is created. -/
theorem ensures_converge_of_gone (h : Stands kind s s.currentStatus scene) (hall : ∀ c, kind c)
    (hgone : s.recorded? = none) (hdecl : IsDeclarable cluster.spec.nodePools) {capacity : Nat}
    (hoffer : s.offer = some capacity) (hsize : cluster.spec.nodePools.size ≤ capacity) :
    Attempt.Ensures (Faithful cluster) (Attempt.converge cluster)
      (returning fun progress scene' => progress = .inFlight ∧ ∃ s' hosted,
        Stands kind s' s'.currentStatus scene' ∧ s'.recorded? = some hosted ∧
          hosted.IsWorkable cluster.spec.nodePools) scene := by
  rw [Attempt.converge, Attempt.ensures_bind, Attempt.ensures_status, orFault_ok, h.memory]
  cases hid : s.currentStatus.clusterId with
  | none => exact h.ensures_create hall hdecl hoffer hsize
  | some id =>
      have hnone : s.clusters id = none := by
        rw [Site.recorded?, hid] at hgone
        exact hgone
      have hgot : Attempt.Ensures (Faithful cluster) (Attempt.calls (Call.getCluster id).ask)
          (returning fun reply scene' => reply = Except.error ProviderFault.notFound ∧
            Stands kind s s.currentStatus scene') scene := by
        apply h.ensures_call (.getCluster id) (hall _)
        intro response s' scene' hdoes h
        obtain ⟨_, hmissing, rfl⟩ := hdoes
        exact ⟨hmissing hnone, h⟩
      apply hgot.seq
      rintro _ scene ⟨rfl, h⟩
      exact h.ensures_create hall hdecl hoffer hsize

end Stands

end ClusterKeeper
