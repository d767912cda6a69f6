import ClusterKeeper.Proofs.Settling.Site
/-!
Steps of a pass among faithful collaborators.

A pass stands at a site, with a status in memory, and all calls that it made are of a given kind.
Each step leaves it at the site that the step is meant to bring about. Where the site is that one
already, only calls that change nothing are made; where it is not, calls of every kind must be
allowed for.
-/

namespace ClusterKeeper

open Pools Dialogue

variable {α : Type} {cluster : ClusterDeclaration} {kind : Call → Prop} {s s' : Site}
  {m : ClusterStatus} {scene : Scene Site} {id : ClusterId} {hosted : Hosted}

/-- A pass that goes on, at a site, with a status in memory, and with calls of that kind only. -/
structure Stands (kind : Call → Prop) (s : Site) (m : ClusterStatus) (scene : Scene Site) :
    Prop where
  going : scene.cancelled = false
  memory : scene.memory = m
  state : scene.state = s
  calls : ∀ e ∈ scene.exchanges, kind e.call

namespace Stands

theorem checked (h : Stands kind s m scene) : Stands kind s m scene.checked where
  going := h.going
  memory := h.memory
  state := h.state
  calls := by
    rw [Scene.exchanges_checked]
    exact h.calls

theorem recording (h : Stands kind s m scene) (m' : ClusterStatus) :
    Stands kind s m' (scene.recording m') := ⟨h.going, rfl, h.state, h.calls⟩

theorem after (h : Stands kind s m scene) {c : Call} {response : Response c.Reply}
    {abandoned : Bool} (hgoing : response.cancels = false) (hkind : kind c) :
    Stands kind s' m (World.after scene c response abandoned s') where
  going := by
    change (scene.cancelled || response.cancels) = false
    rw [h.going, hgoing]
    rfl
  memory := h.memory
  state := rfl
  calls := by
    intro e he
    rw [Scene.exchanges_after] at he
    rcases List.mem_append.mp he with he | he
    · exact h.calls e he
    · rw [List.mem_singleton.mp he]
      exact hkind

/-- What comes of one call, with something made of its reply. -/
theorem ensures_ask (h : Stands kind s m scene) (c : Call) (f : c.Reply → Except Fault α)
    (hkind : kind c) {post : α → Scene Site → Prop}
    (hpost : ∀ response s' scene', s.Does cluster c response s' → Stands kind s' m scene' →
      ∃ a, f response.reply = .ok a ∧ post a scene') :
    Step.Ensures (Faithful cluster) (ExceptT.mk (.ask c fun reply => .done (f reply)))
      (returning post) scene := by
  apply Step.ensures_ask
  intro response s' hfaithful
  obtain ⟨hgoing, hdoes⟩ := hfaithful
  rw [h.state] at hdoes
  obtain ⟨a, hreply, ha⟩ := hpost response s' _ hdoes (h.after hgoing hkind)
  rw [hreply]
  exact ha

/-- What comes of one call that is no step. -/
theorem ensures_call (h : Stands kind s m scene) (c : Call) (hkind : kind c)
    {post : c.Reply → Scene Site → Prop}
    (hpost : ∀ response s' scene', s.Does cluster c response s' → Stands kind s' m scene' →
      post response.reply scene') :
    Attempt.Ensures (Faithful cluster) (Attempt.calls c.ask) (returning post) scene := by
  apply Attempt.ensures_calls_of_calm (isCalm_faithful cluster) h.going
  intro response s' hfaithful
  obtain ⟨hgoing, hdoes⟩ := hfaithful
  have hstate : scene.checked.state = s := h.state
  rw [hstate] at hdoes
  exact hpost response s' _ hdoes (h.checked.after hgoing hkind)

/-- A step of a pass ends as its calls do. -/
theorem ensures_step (h : Stands kind s m scene) {step : Step α}
    {post : Except Fault α → Scene Site → Prop}
    (hstep : ∀ scene, Stands kind s m scene → Step.Ensures (Faithful cluster) step post scene) :
    Attempt.Ensures (Faithful cluster) (Attempt.step step) post scene :=
  Attempt.ensures_step_of_calm (isCalm_faithful cluster) h.going (hstep _ h.checked)

/-- The cluster is reported. -/
theorem ensures_getCluster (h : Stands kind s m scene) (hlive : s.clusters id = some hosted)
    (hkind : kind (.getCluster id)) :
    Step.Ensures (Faithful cluster) (Step.provider getClusterOperation (Call.getCluster id).ask)
      (returning fun remote scene' => hosted.Reports id remote ∧ Stands kind s m scene') scene := by
  apply h.ensures_ask (.getCluster id) (fun reply => reply.mapError _) hkind
  intro response s' scene' hdoes hstands
  obtain ⟨hreports, _, rfl⟩ := hdoes
  obtain ⟨remote, hreply, hreport⟩ := hreports hosted hlive
  refine ⟨remote, ?_, hreport, hstands⟩
  rw [hreply]
  rfl

theorem ensures_listPools (h : Stands kind s m scene) (hlive : s.clusters id = some hosted)
    (hkind : kind (.listPools id)) :
    Step.Ensures (Faithful cluster) (Step.provider listPoolsOperation (Call.listPools id).ask)
      (returning fun listing scene' => Shows hosted.host.pools listing ∧ Stands kind s m scene')
      scene := by
  apply h.ensures_ask (.listPools id) (fun reply => reply.mapError _) hkind
  intro response s' scene' hdoes hstands
  obtain ⟨⟨listing, hreply, hshows⟩, rfl⟩ := hdoes hosted hlive
  refine ⟨listing, ?_, hshows, hstands⟩
  rw [hreply]
  rfl

/-- The cluster is found to be ready. -/
theorem ensures_isReady (h : Stands kind s m scene) (hlive : s.clusters id = some hosted)
    (hget : kind (.getCluster id)) (hlist : kind (.listPools id)) :
    Step.Ensures (Faithful cluster) (isReady id)
      (returning fun ready scene' => ready = true ∧ Stands kind s m scene') scene := by
  apply (h.ensures_getCluster hlive hget).seq
  rintro remote scene ⟨hreport, h⟩
  rw [if_pos hreport.ready]
  apply (h.ensures_listPools hlive hlist).seq
  rintro listing scene ⟨hshows, h⟩
  exact ⟨allNodesReady_iff.mpr hshows.ready, h⟩

/-- A version is chosen. -/
theorem ensures_chooseVersion (h : Stands kind s m scene) (spec : ClusterSpec)
    (hkind : kind .listVersions) :
    Step.Ensures (Faithful cluster) (chooseVersion spec)
      (returning fun _ scene' => Stands kind s m scene') scene := by
  unfold chooseVersion
  cases spec.explicitVersion? with
  | some version => exact h
  | none =>
      have hoffered : Step.Ensures (Faithful cluster)
          (Step.provider "list versions" Call.listVersions.ask)
          (returning fun offered scene' => Version.IsOffer offered ∧ Stands kind s m scene')
          scene := by
        apply h.ensures_ask .listVersions (fun reply => reply.mapError _) hkind
        intro response s' scene' hdoes hstands
        obtain ⟨⟨offered, hreply, hoffer⟩, rfl⟩ := hdoes
        refine ⟨offered, ?_, hoffer, hstands⟩
        rw [hreply]
        rfl
      apply hoffered.seq
      rintro offered scene ⟨hoffer, h⟩
      obtain ⟨latest, hlatest⟩ := hoffer.latestOf_eq_ok
      rw [hlatest]
      exact h

theorem ensures_createCluster (h : Stands kind s m scene) (hall : ∀ c, kind c)
    (request : ClusterCreation) {capacity : Nat} (hoffer : s.offer = some capacity)
    (hroom : request.pools.length ≤ capacity) :
    Step.Ensures (Faithful cluster)
      (Step.provider "create cluster" (Call.createCluster request).ask)
      (returning fun remote scene' => ∃ hosted offer, hosted.IsFor request ∧
        Stands kind { s.withCluster remote.id hosted with offer } m scene') scene := by
  apply h.ensures_ask (.createCluster request) (fun reply => reply.mapError _) (hall _)
  intro response s' scene' hdoes h
  obtain ⟨remote, hosted, offer, hreply, _, hfor, rfl⟩ := hdoes capacity hoffer hroom
  refine ⟨remote, ?_, hosted, offer, hfor, h⟩
  rw [hreply]
  rfl

theorem ensures_updateCluster (h : Stands kind s m scene) (hlive : s.clusters id = some hosted)
    (request : ClusterUpdate) (hkind : kind (.updateCluster id request)) :
    Step.Ensures (Faithful cluster)
      (Step.provider "update cluster" (Call.updateCluster id request).ask)
      (returning fun _ scene' => Stands kind (s.withCluster id (hosted.changedBy request)) m scene')
      scene := by
  apply h.ensures_ask (.updateCluster id request) (fun reply => reply.mapError _) hkind
  intro response s' scene' hdoes h
  obtain ⟨hreply, rfl⟩ := hdoes hosted hlive
  refine ⟨(), ?_, h⟩
  rw [hreply]
  rfl

/-- A secret is written. -/
theorem ensures_write (h : Stands kind s m scene) (c : Call) (f : c.Reply → Except Fault Unit)
    {secret : Secret} {kubeconfig : Octets} (hkind : kind c)
    (hname : secret.metadata.anyName = Credentials.secretName cluster.name)
    (hentry : secret.entry? Credentials.entryName = some kubeconfig)
    (hdone : ∀ response s', s.Does cluster c response s' → f response.reply = .ok () ∧
      ∃ vault, s.vault.Stores cluster.inNamespace secret vault ∧ s' = { s with vault })
    (hnew : ¬ s.vault.Holds cluster kubeconfig) :
    Step.Ensures (Faithful cluster) (ExceptT.mk (.ask c fun reply => .done (f reply)))
      (returning fun _ scene' => ∃ vault, Stands kind { s with vault } m scene' ∧
        s.vault.Syncs cluster kubeconfig vault) scene := by
  apply h.ensures_ask c f hkind
  intro response s' scene' hdoes hstands
  obtain ⟨hreply, vault, hstores, rfl⟩ := hdone response s' hdoes
  refine ⟨(), hreply, vault, hstands, hstores.holds hname hentry, ?_⟩
  exact fun hold => absurd hold hnew

/-- The secret is brought up to date. -/
theorem ensures_store (h : Stands kind s m scene) {kubeconfig : Octets}
    (hget : kind (.getSecret cluster.inNamespace (Credentials.secretName cluster.name)))
    (hfree : s.vault.Holds cluster kubeconfig ∨ ∀ c, kind c) :
    Step.Ensures (Faithful cluster) (Credentials.store cluster kubeconfig)
      (returning fun _ scene' => ∃ vault, Stands kind { s with vault } m scene' ∧
        s.vault.Syncs cluster kubeconfig vault) scene := by
  have hfound : Step.Ensures (Faithful cluster)
      (Step.fallible
        (Call.getSecret cluster.inNamespace (Credentials.secretName cluster.name)).ask)
      (returning fun found scene' => found = s.vault.find cluster.inNamespace
        (Credentials.secretName cluster.name) ∧ Stands kind s m scene') scene := by
    apply h.ensures_ask (.getSecret _ _) (fun reply => reply) hget
    intro response s' scene' hdoes hstands
    obtain ⟨hreply, rfl⟩ := hdoes
    exact ⟨_, hreply, rfl, hstands⟩
  apply hfound.seq
  rintro found scene ⟨rfl, h⟩
  cases hfind : s.vault.find cluster.inNamespace (Credentials.secretName cluster.name) with
  | none =>
      have hnew : ¬ s.vault.Holds cluster kubeconfig := by
        rintro ⟨secret, hsecret, _⟩
        rw [hfind] at hsecret
        cases hsecret
      refine h.ensures_write (.createSecret _ _) (fun reply => reply)
        (hfree.resolve_left hnew _) rfl (Credentials.kubeconfig_newSecret cluster kubeconfig) ?_
        hnew
      exact fun response s' hdoes => hdoes hfind
  | some secret =>
      by_cases hentry : secret.entry? Credentials.entryName = some kubeconfig
      · have hholds : s.vault.Holds cluster kubeconfig := ⟨secret, hfind, hentry⟩
        dsimp only
        rw [if_pos hentry]
        exact ⟨s.vault, h, hholds, fun _ => rfl⟩
      · have hnew : ¬ s.vault.Holds cluster kubeconfig := by
          rintro ⟨other, hother, hentry'⟩
          rw [hfind] at hother
          cases hother
          exact hentry hentry'
        have hname : (secret.withEntry Credentials.entryName kubeconfig).metadata.anyName =
            Credentials.secretName cluster.name := s.vault.named _ _ secret hfind
        dsimp only
        rw [if_neg hentry]
        refine h.ensures_write (.replaceSecret _ _) (fun reply => reply)
          (hfree.resolve_left hnew _) hname (secret.octets_withEntry _ kubeconfig) ?_ hnew
        intro response s' hdoes
        apply hdoes
        rw [hname, hfind]
        exact Option.some_ne_none secret

/-- The kubeconfig is fetched and kept. -/
theorem ensures_sync (h : Stands kind s m scene) (hlive : s.clusters id = some hosted)
    (hfetch : kind (.getKubeconfig id))
    (hget : kind (.getSecret cluster.inNamespace (Credentials.secretName cluster.name)))
    (hfree : s.vault.Holds cluster hosted.kubeconfig ∨ ∀ c, kind c) :
    Step.Ensures (Faithful cluster) (Credentials.sync cluster id)
      (returning fun synced scene' => synced = true ∧ ∃ vault,
        Stands kind { s with vault } m scene' ∧ s.vault.Syncs cluster hosted.kubeconfig vault)
      scene := by
  have hfetched : Step.Ensures (Faithful cluster)
      (ExceptT.mk (.ask (.getKubeconfig id) fun reply => .done (.ok reply)))
      (returning fun reply scene' => (∃ kubeconfig, reply = Except.ok kubeconfig ∧
        Text.Wraps kubeconfig.content hosted.kubeconfig.toList) ∧ Stands kind s m scene')
      scene := by
    apply h.ensures_ask (.getKubeconfig id) (fun reply => .ok reply) hfetch
    intro response s' scene' hdoes hstands
    obtain ⟨hreply, rfl⟩ := hdoes hosted hlive
    exact ⟨_, rfl, hreply, hstands⟩
  apply hfetched.seq
  rintro reply scene ⟨⟨kubeconfig, rfl, hwraps⟩, h⟩
  have hdecoded : (liftExcept (Credentials.decode kubeconfig) : Step Octets) =
      pure hosted.kubeconfig := by
    rw [Credentials.decode_eq_ok_iff.mpr hwraps]
    rfl
  dsimp only
  rw [hdecoded, pure_bind]
  apply (h.ensures_store hget hfree).seq
  intro _ scene hsynced
  exact ⟨rfl, hsynced⟩

end Stands

end ClusterKeeper
