import ClusterKeeper.Proofs.Pass.Announcement
import ClusterKeeper.Proofs.Tags.Change
/-!
What passes ask the provider to do about tags.

The requests of a pass are those for the declaration and for the cluster that was reported first
(`IsFitting`), whatever else happens in between. So a cluster is created with the tags that its
owner wants, and one that was reported is given others only where its tags are not the wanted ones.
The tags that were given, in any order, leave nothing to be changed in the next pass.
-/

namespace ClusterKeeper

open Dialogue (only_question)

variable {σ α : Type} {conduct : Conduct σ} {cluster : ClusterDeclaration} {scene : Scene σ}
  {heard : List RemoteCluster}

/-- A request of the provider is the one for the declaration and for the cluster that was reported
first. -/
def Call.IsFitting (cluster : ClusterDeclaration) (before : List Event) : Call → Prop
  | createCluster request => ∃ version, request = creationRequest cluster version
  | updateCluster id request => ∃ remote, [remote] <+: reports before ∧ id = remote.id ∧
      request = updateRequest cluster remote
  | _ => True

/-- The call is fitting once these clusters were reported, whatever came after them. -/
def Call.FitsAfter (cluster : ClusterDeclaration) (heard : List RemoteCluster) (c : Call) : Prop :=
  ∀ before, heard <+: reports before → c.IsFitting cluster before

theorem Call.IsUpkeep.fitsAfter {c : Call} (h : c.IsUpkeep) : c.FitsAfter cluster heard := by
  cases c <;> first | exact fun _ _ => trivial | exact h.elim

theorem Call.Dismantles.fitsAfter {c : Call} (h : c.Dismantles) : c.FitsAfter cluster heard := by
  cases c <;> first | exact fun _ _ => trivial | exact h.elim

/-- So far the requests were fitting, and these clusters were reported first. -/
structure Heeding (cluster : ClusterDeclaration) (heard : List RemoteCluster) (scene : Scene σ) :
    Prop where
  fitting : EachCall (fun before e => e.call.IsFitting cluster before) scene.log
  heard : heard <+: reports scene.log

theorem Heeding.forget (h : Heeding cluster heard scene) : Heeding cluster [] scene :=
  ⟨h.fitting, List.nil_prefix⟩

theorem Heeding.call (h : Heeding cluster heard scene) {c : Call}
    (hc : c.IsFitting cluster scene.log) (response : Response c.Reply) (abandoned : Bool)
    (state : σ) : Heeding cluster heard (World.after scene c response abandoned state) where
  fitting := h.fitting.snoc hc
  heard := by
    rw [World.after, reports_append]
    exact h.heard.trans (List.prefix_append _ _)

/-- A write of the status. -/
theorem Heeding.write (h : Heeding cluster heard scene) (status : ClusterStatus)
    (response : Response (Except Fault Unit)) (state : σ) :
    Heeding cluster heard (World.after (scene.recording status)
      (.patchStatus cluster.inNamespace cluster.name status) response false state) :=
  have hrecorded : Heeding cluster heard (scene.recording status) := ⟨h.fitting, h.heard⟩
  hrecorded.call (c := .patchStatus cluster.inNamespace cluster.name status) trivial response false
    state

theorem preserves_heeding (conduct : Conduct σ) (cluster : ClusterDeclaration)
    (heard : List RemoteCluster) :
    conduct.Preserves (Call.FitsAfter cluster heard) (Heeding cluster heard) where
  checked := by
    intro scene h
    refine ⟨h.fitting.checkpoint scene.cancelled, ?_⟩
    rw [Scene.checked, reports_snoc_of_none rfl]
    exact h.heard
  after := fun scene _ response abandoned state hfits _ h =>
    h.call (hfits scene.log h.heard) response abandoned state

namespace Attempt

theorem keeps_heeding {allowed : StatusChange → Prop} {attempt : Attempt α} {s : Step α}
    (h : ErasesTo cluster (Call.FitsAfter cluster heard) allowed attempt s) :
    Keeps conduct (Heeding cluster heard) attempt := by
  refine h.keeps (preserves_heeding conduct cluster heard) fun change _ scene hscene => ?_
  rw [ensures_amend]
  exact fun response state _ => hscene.write (change.written scene.memory) response state

theorem keeps_heeding_create : Keeps conduct (Heeding cluster heard) (create cluster) := by
  have herases : ErasesTo cluster (Call.FitsAfter cluster heard) (fun _ => True) (create cluster)
      (Step.create cluster) := erases_create (fun _ _ => trivial)
    (fun version _ _ => ⟨version, rfl⟩) (fun _ _ _ => trivial) (fun _ => trivial) fun _ => trivial
  exact keeps_heeding herases

theorem keeps_heeding_update (remote : RemoteCluster) :
    Keeps conduct (Heeding cluster [remote]) (update cluster remote) := by
  have hrequest : (Call.updateCluster remote.id (updateRequest cluster remote)).FitsAfter cluster
      [remote] := fun _ hheard => ⟨remote, hheard, rfl, rfl⟩
  have hready : Keeps conduct (Heeding cluster [remote]) (makeReady cluster remote) :=
    keeps_heeding (erases_makeReady hrequest fun _ hupkeep => hupkeep.fitsAfter)
  have hconclude : ∀ ready, ErasesTo cluster (Call.FitsAfter cluster [remote]) (fun _ => True)
      (conclude cluster ready) _ := fun ready => erases_conclude trivial ready
  rw [update_eq_makeReady]
  exact hready.bind fun ready => keeps_heeding (hconclude ready)

theorem ensures_converge_heeding (h : Heeding cluster [] scene)
    (hreports : reports scene.log = []) :
    Ensures conduct (converge cluster) (fun _ => Heeding cluster []) scene := by
  rw [converge_eq, ensures_bind, ensures_status, Dialogue.orFault_ok]
  cases hid : scene.memory.clusterId with
  | none => exact keeps_heeding_create scene h
  | some id =>
      refine (preserves_heeding conduct cluster []).ensures_ask (c := .getCluster id)
        (fun _ _ => trivial) (fun _ hscene => hscene) ?_ h
      intro response state _ hafter
      cases hreply : (response.reply : Except ProviderFault RemoteCluster) with
      | ok remote =>
          have hheard : Heeding cluster [remote]
              (World.after scene.checked (.getCluster id) response false state) :=
            ⟨hafter.fitting, reports_after_getCluster hreply hreports state ▸ List.prefix_rfl⟩
          exact (keeps_heeding_update remote _ hheard).mono fun _ _ hend => hend.forget
      | error cause =>
          cases cause with
          | notFound => exact keeps_heeding_create _ hafter
          | _ => exact hafter

theorem keeps_heeding_tearDown : Keeps conduct (Heeding cluster []) (tearDown cluster) := by
  intro scene h
  rw [tearDown_eq, ensures_bind, ensures_status, Dialogue.orFault_ok]
  have herases : ErasesTo cluster Call.Dismantles (· = .enter .deleting)
      (tearDownFrom cluster scene.memory.clusterId) _ := erases_tearDownFrom _
  exact keeps_heeding (herases.mono (fun _ hc => hc.fitsAfter) fun _ hchange => hchange) scene h

end Attempt

theorem heeding_of_log_eq_nil (hlog : scene.log = []) : Heeding cluster [] scene :=
  ⟨hlog ▸ .nil, List.nil_prefix⟩

theorem Heeding.ensures_recordFailure (h : Heeding cluster [] scene) (fault : Fault) :
    Pass.Ensures conduct (recordFailure cluster fault) (fun _ => Heeding cluster []) scene := by
  rw [Pass.ensures_recordFailure]
  split
  · exact h
  · exact fun response state _ => h.write (scene.memory.withFailure fault) response state

theorem Heeding.ensures_releaseResource (h : Heeding cluster [] scene) (ending : PassEnd) :
    Pass.Ensures conduct (releaseResource cluster ending) (fun _ => Heeding cluster []) scene := by
  rw [Pass.ensures_releaseResource]
  exact fun response state _ => h.call (c := .removeFinalizer cluster.inNamespace cluster.name)
    trivial response false state

theorem ensures_prepare_heeding (hlog : scene.log = []) :
    Pass.Ensures conduct (prepare cluster) (unlessEnded
      (fun scene' => Heeding cluster [] scene' ∧ reports scene'.log = [])
      fun _ => Heeding cluster []) scene := by
  have h : Heeding cluster [] scene := heeding_of_log_eq_nil hlog
  have hreports : reports scene.log = [] := by rw [hlog]; rfl
  apply Pass.ensures_prepare
  · exact fun _ _ => h
  · exact fun _ _ _ => h.ensures_releaseResource .idle
  · exact fun _ _ _ _ => ⟨h, hreports⟩
  · exact fun _ fault _ => h.ensures_recordFailure fault
  · exact fun _ _ => ⟨h, hreports⟩
  · intro _ response state _
    have hafter := h.call (c := .addFinalizer cluster.inNamespace cluster.name) trivial response
      false state
    cases (response.reply : Except Fault Unit) with
    | error fault => exact hafter
    | ok _ => exact ⟨hafter, (reports_snoc_of_none rfl).trans hreports⟩

theorem ensures_engage_heeding (h : Heeding cluster [] scene) (hreports : reports scene.log = []) :
    Attempt.Ensures conduct (Attempt.engage cluster) (fun _ => Heeding cluster []) scene := by
  have hafter := fun response state => h.call (c := .connect cluster.spec.tokenSecretRef) trivial
    response false state
  apply Attempt.ensures_engage
  · exact fun response state _ _ _ => hafter response state
  · intro response state _ _
    unfold Attempt.main
    split
    · exact Attempt.keeps_heeding_tearDown _ (hafter response state)
    · exact Attempt.ensures_converge_heeding (hafter response state)
        ((reports_snoc_of_none rfl).trans hreports)

theorem ensures_reconcile_heeding {settings : Settings} (hlog : scene.log = []) :
    Pass.Ensures conduct (reconcile settings cluster) (fun _ => Heeding cluster []) scene := by
  apply Pass.ensures_reconcile
  · exact ensures_prepare_heeding hlog
  · exact fun scene' h => ensures_engage_heeding h.1 h.2
  · intro r scene' h
    apply Pass.ensures_wrapUp
    · exact fun fault _ => h.ensures_recordFailure fault
    · exact fun _ _ => h.ensures_releaseResource _
    · exact fun _ _ _ => h

/-- What was logged in a pass over the resource, or in an attempt on its own to bring its cluster
nearer to the declaration, however the collaborators responded. -/
inductive IsLogOf (cluster : ClusterDeclaration) : List Event → Prop where
  | attempt {σ : Type} (world : World σ) (cancelled : Bool) (memory : ClusterStatus) (state : σ) :
      IsLogOf cluster
        (world.run (Attempt.converge cluster).run (.start cancelled memory state)).2.log
  | pass {σ : Type} (world : World σ) (settings : Settings) (cancelled : Bool)
      (memory : ClusterStatus) (state : σ) :
      IsLogOf cluster (world.run (reconcile settings cluster) (.start cancelled memory state)).2.log

theorem IsLogOf.fitting {log : List Event} (h : IsLogOf cluster log) :
    EachCall (fun before e => e.call.IsFitting cluster before) log := by
  cases h with
  | attempt world cancelled memory state =>
      have hensures : Attempt.Ensures Conduct.any (Attempt.converge cluster)
          (fun _ => Heeding cluster []) ((Scene.start cancelled memory state).through id) :=
        Attempt.ensures_converge_heeding (heeding_of_log_eq_nil rfl) rfl
      exact (World.run_of_ensures (world.keeps_any id) hensures).fitting
  | pass world settings cancelled memory state =>
      have hensures : Pass.Ensures Conduct.any (reconcile settings cluster)
          (fun _ => Heeding cluster []) ((Scene.start cancelled memory state).through id) :=
        ensures_reconcile_heeding rfl
      exact (World.run_of_ensures (world.keeps_any id) hensures).fitting

/-- The cluster that was reported first is asked to change so. -/
def Call.Changes (before : List Event) (c : Call) (remote : RemoteCluster)
    (request : ClusterUpdate) : Prop :=
  [remote] <+: reports before ∧ c = .updateCluster remote.id request

/-- The provider is given these tags for a cluster, a new one or one that was there. -/
inductive Call.Gives : Call → List String → Prop where
  | created (request : ClusterCreation) : Gives (createCluster request) request.tags
  | changed (id : ClusterId) {request : ClusterUpdate} {tags : List String}
      (htags : request.tags = some tags) : Gives (updateCluster id request) tags

namespace Call.IsFitting

variable {before : List Event} {c : Call} {remote : RemoteCluster} {request : ClusterUpdate}

/-- Only one cluster was reported first. -/
theorem eq_updateRequest (h : c.IsFitting cluster before)
    (hchanges : c.Changes before remote request) : request = updateRequest cluster remote := by
  obtain ⟨hfirst, rfl⟩ := hchanges
  obtain ⟨other, hother, _, hrequest⟩ := h
  obtain ⟨rfl⟩ : [remote] = [other] :=
    (List.prefix_of_prefix_length_le hfirst hother le_rfl).eq_of_length rfl
  exact hrequest

/-- Whatever tags are given are the wanted ones. -/
theorem same_of_gives (h : c.IsFitting cluster before) {tags : List String}
    (hgives : c.Gives tags) : Tags.Same tags ((Tags.desired? cluster).getD []) := by
  cases hgives with
  | created request =>
      obtain ⟨version, rfl⟩ := h
      exact fun _ => Iff.rfl
  | changed id htags =>
      obtain ⟨remote, _, _, rfl⟩ := h
      exact Tags.same_of_change?_eq_some htags

end Call.IsFitting

/-- What passes over resources do about tags, however their collaborators respond. A request to
change a cluster is made of the one that was reported first, and it says of the tags what is due. A
cluster is created with the tags that its owner wants, or without tags where they are not managed.
In any pass over a resource whose owner wants the same, the tags are left alone where those that
were given are reported, and where the same are reported as before, the same is asked for. -/
theorem tags_are_managed {log : List Event} (hlog : IsLogOf cluster log) :
    EachCall (fun before e => ∀ id request, e.call = .updateCluster id request →
      ∃ remote, e.call.Changes before remote request ∧
        Tags.Due cluster remote.tags request.tags) log ∧
    EachCall (fun _ e => ∀ request, e.call = .createCluster request →
      ∃ wanted, Tags.Wanted cluster wanted ∧ request.tags = wanted.getD []) log ∧
    ∀ later next, Tags.SameWish cluster later → IsLogOf later next →
      EachCall (fun before e => ∀ remote request, e.call.Changes before remote request →
        EachCall (fun before' earlier =>
          (∀ tags, earlier.call.Gives tags → Tags.Same remote.tags tags → request.tags = none) ∧
          ∀ remote' request', earlier.call.Changes before' remote' request' →
            Tags.Same remote.tags remote'.tags → request.tags = request'.tags) log) next := by
  have hfits := hlog.fitting
  refine ⟨hfits.mono ?_, hfits.mono ?_, fun later next hwish hnext => hnext.fitting.mono ?_⟩
  · intro before e hfit id request hcall
    rw [hcall] at hfit ⊢
    obtain ⟨remote, hfirst, rfl, rfl⟩ := hfit
    exact ⟨remote, ⟨hfirst, rfl⟩, Tags.due_change? cluster remote.tags⟩
  · intro _ e hfit request hcall
    rw [hcall] at hfit
    obtain ⟨version, rfl⟩ := hfit
    exact ⟨Tags.desired? cluster, Tags.wanted_iff.mpr rfl, rfl⟩
  · intro before e hfit remote request hchanges
    obtain rfl := hfit.eq_updateRequest hchanges
    refine hfits.mono fun before' earlier hearlier => ⟨?_, ?_⟩
    · intro tags hgives hsame
      exact Tags.change?_eq_none hwish.rel (hsame.trans (hearlier.same_of_gives hgives))
    · intro remote' request' hchanges' hsame
      obtain rfl := hearlier.eq_updateRequest hchanges'
      exact (Tags.change?_congr hwish.rel hsame.symm).symm

/-- The workshop with tags, one of them twice. -/
def taggedWorkshop : ClusterDeclaration :=
  { workshop with spec := { workshop.spec with tags := some ["web", "api", "web"] } }

/-- The same workshop once a cluster was made for it. -/
def knownWorkshop : ClusterDeclaration :=
  { taggedWorkshop with status := some (ClusterStatus.blank.withCreated 42) }

/-- A world with one cluster that keeps the tags it is given. Of the rest it does only what it takes
to get so far. -/
def labellingWorld : World (List String) where
  respond := fun
    | .connect _, tags => (promptly (.ok ()), tags)
    | .createCluster request, _ => (promptly (.ok remoteWorkshop), request.tags)
    | .getCluster _, tags => (promptly (.ok { remoteWorkshop with tags }), tags)
    | .updateCluster _ request, tags => (promptly (.ok ()), request.tags.getD tags)
    | .patchStatus .., tags => (promptly (.ok ()), tags)
    | c, tags => (promptly c.unreached, tags)

/-- The log of a pass in that world, over a cluster with those tags if one is known. -/
def logOfLabelling (cluster : ClusterDeclaration) (tags : List String) : List Event :=
  (labellingWorld.run (reconcile Settings.standard cluster) (.start false .blank tags)).2.log

/-- The cluster with the tags of the workshop, in another order. -/
def labelledRemote : RemoteCluster := { remoteWorkshop with tags := ["web", "api"] }

/-- The workshop is created with its tags as they are given, one of them twice. Where its cluster
has them in another order, the next pass leaves them alone. -/
theorem tagged_workshop_left_alone :
    IsLogOf taggedWorkshop (logOfLabelling taggedWorkshop []) ∧
      IsLogOf knownWorkshop (logOfLabelling knownWorkshop labelledRemote.tags) ∧
      Tags.SameWish taggedWorkshop knownWorkshop ∧
      (∃ e, .exchange e ∈ logOfLabelling taggedWorkshop [] ∧
        e.call.Gives ["web", "api", "web"]) ∧
      ∃ e request, .exchange e ∈ logOfLabelling knownWorkshop labelledRemote.tags ∧
        e.call = .updateCluster 42 request ∧ request.tags = none := by
  have hcreates : IsLogOf taggedWorkshop (logOfLabelling taggedWorkshop []) := .pass ..
  have hupdates : IsLogOf knownWorkshop (logOfLabelling knownWorkshop labelledRemote.tags) :=
    .pass ..
  have hwish : Tags.SameWish taggedWorkshop knownWorkshop := Tags.sameWish_of_eq rfl rfl
  let creation : Exchange := ⟨.createCluster (creationRequest taggedWorkshop "1.30"),
    promptly (.ok remoteWorkshop), false, .blank⟩
  let request := updateRequest knownWorkshop labelledRemote
  let update : Exchange :=
    ⟨.updateCluster 42 request, promptly (.ok ()), false, ClusterStatus.blank.withCreated 42⟩
  obtain ⟨after, hcreation⟩ : ∃ after, logOfLabelling taggedWorkshop [] =
    logBeforeCreation ++ .exchange creation :: after := ⟨_, rfl⟩
  obtain ⟨before, rest, hupdate, hreports⟩ : ∃ before rest,
      logOfLabelling knownWorkshop labelledRemote.tags = before ++ .exchange update :: rest ∧
        reports before = [labelledRemote] :=
    ⟨(logOfLabelling knownWorkshop labelledRemote.tags).take 4, _, rfl, rfl⟩
  have hgives : creation.call.Gives ["web", "api", "web"] := .created _
  have hchanges : update.call.Changes before labelledRemote request :=
    ⟨hreports ▸ List.prefix_rfl, rfl⟩
  have hsame : Tags.Same labelledRemote.tags ["web", "api", "web"] := by
    intro tag
    simp only [labelledRemote, List.mem_cons, List.not_mem_nil]
    tauto
  have hnone := ((tags_are_managed hcreates).2.2 _ _ hwish hupdates before update rest hupdate
    labelledRemote request hchanges _ creation after hcreation).1 _ hgives hsame
  refine ⟨hcreates, hupdates, hwish, ⟨creation, ?_, hgives⟩, update, request, ?_, rfl, hnone⟩
  · simp [hcreation]
  · simp [hupdate]

end ClusterKeeper
