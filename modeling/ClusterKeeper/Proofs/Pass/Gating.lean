import ClusterKeeper.Proofs.Pass.Courses
import ClusterKeeper.Proofs.Pass.Erasure
/-!
What the finalizer guards.

Nothing is made or changed for a resource unless it is acceptable, is to be kept, and carries the
finalizer; its cluster is deleted only while it carries the finalizer and is to go. The finalizer is
taken off only where no cluster is on record, or the provider said in the same pass that it does not
know the one that is. `finalizer_gates_pass` says so of every pass.
-/

namespace ClusterKeeper

variable {σ : Type} {conduct : Conduct σ} {cluster : ClusterDeclaration} {scene : Scene σ}
  {exchanges : List Exchange} {id : ClusterId}

/-- Of every exchange something is true, given the exchanges before it. -/
def EachAfter (p : List Exchange → Exchange → Prop) (exchanges : List Exchange) : Prop :=
  ∀ before e after, exchanges = before ++ e :: after → p before e

theorem eachAfter_nil {p : List Exchange → Exchange → Prop} : EachAfter p [] := by
  intro before e after hsplit
  simp at hsplit

theorem EachAfter.snoc {p : List Exchange → Exchange → Prop} (h : EachAfter p exchanges)
    {e : Exchange} (he : p exchanges e) : EachAfter p (exchanges ++ [e]) := by
  intro before x after hsplit
  rcases snoc_eq_append_cons hsplit with ⟨rfl, rfl⟩ | ⟨rest, hbefore, _⟩
  · rw [← List.append_inj_left' hsplit rfl]
    exact he
  · exact h before x rest hbefore

namespace Exchange

/-- The finalizer was put on the resource. -/
def PutsGuard (e : Exchange) (cluster : ClusterDeclaration) : Prop :=
  ∃ (response : Response (Except Fault Unit)) (memory : ClusterStatus),
    e = ⟨.addFinalizer cluster.inNamespace cluster.name, response, false, memory⟩ ∧
      response.reply = .ok ()

/-- The provider said that there is no such cluster to delete. -/
def FindsNone (e : Exchange) (id : ClusterId) : Prop :=
  ∃ (response : Response (Except ProviderFault Unit)) (memory : ClusterStatus),
    e = ⟨.deleteCluster id, response, false, memory⟩ ∧ response.reply = .error .notFound

/-- The provider agreed to delete the cluster, and the pass was waiting for it. -/
def GrantsDeletion (e : Exchange) : Prop :=
  ∃ (id : ClusterId) (response : Response (Except ProviderFault Unit)) (memory : ClusterStatus),
    e = ⟨.deleteCluster id, response, false, memory⟩ ∧ response.reply = .ok ()

end Exchange

/-- Something may be made for the resource after those exchanges of the pass. -/
structure ClusterDeclaration.IsOpen (cluster : ClusterDeclaration) (before : List Exchange) :
    Prop where
  kept : cluster.metadata.deletionTimestamp = none
  valid : cluster.spec.validate = .ok ()
  guarded : clusterFinalizer ∈ cluster.metadata.finalizers.getD [] ∨
    ∃ e ∈ before, e.PutsGuard cluster

/-- The resource is to go, and is held until its cluster is gone. -/
structure ClusterDeclaration.IsClosing (cluster : ClusterDeclaration) : Prop where
  deleted : cluster.metadata.deletionTimestamp ≠ none
  guarded : clusterFinalizer ∈ cluster.metadata.finalizers.getD []

namespace Call

/-- What must be so when a call is made after those exchanges of the pass. -/
def IsPermitted (cluster : ClusterDeclaration) (before : List Exchange) : Call → Prop
  | createCluster _ | updateCluster .. | listPools _ | createPool .. | updatePool ..
  | deletePool .. | getSecret .. | createSecret .. | replaceSecret .. => cluster.IsOpen before
  | deleteCluster id => cluster.IsClosing ∧ cluster.currentStatus.clusterId = some id
  | removeFinalizer .. => cluster.IsClosing ∧ ∀ id, cluster.currentStatus.clusterId = some id →
      ∃ e ∈ before, e.Denies id ∨ e.FindsNone id
  | _ => True

/-- The call asks the provider to delete a cluster. -/
def DeletesCluster : Call → Prop
  | deleteCluster _ => True
  | _ => False

/-- The call takes the finalizer off. -/
def ReleasesResource : Call → Prop
  | removeFinalizer .. => True
  | _ => False

theorem IsConverging.isPermitted {c : Call} (h : c.IsConverging) {before : List Exchange}
    (hopen : cluster.IsOpen before) : c.IsPermitted cluster before := by
  cases c <;> first | exact hopen | exact trivial | exact h.elim

theorem IsConverging.not_deletesCluster {c : Call} (h : c.IsConverging) : ¬ c.DeletesCluster := by
  cases c <;> first | exact id | exact h.elim

end Call

/-- Every call of a pass is made only where it is permitted. -/
def ArePermitted (cluster : ClusterDeclaration) : List Exchange → Prop :=
  EachAfter fun before e => e.call.IsPermitted cluster before

/-- How a pass and its end keep to the finalizer. -/
structure IsGated (settings : Settings) (cluster : ClusterDeclaration) (ending : PassEnd)
    (exchanges : List Exchange) : Prop where
  permitted : ArePermitted cluster exchanges
  /-- While a deletion is under way the resource is held, and it is looked at again. -/
  held : ∀ e ∈ exchanges, e.GrantsDeletion →
    (∀ x ∈ exchanges, ¬ x.call.ReleasesResource) ∧
      ending = .through (.requeue settings.requeueDelay)

/-- Only permitted calls were made, and no deletion was agreed to. -/
structure Ungranted (cluster : ClusterDeclaration) (exchanges : List Exchange) : Prop where
  permitted : ArePermitted cluster exchanges
  ungranted : ∀ e ∈ exchanges, ¬ e.GrantsDeletion

theorem Ungranted.isGated (h : Ungranted cluster exchanges) (settings : Settings)
    (ending : PassEnd) : IsGated settings cluster ending exchanges where
  permitted := h.permitted
  held := fun e he hgrants => absurd hgrants (h.ungranted e he)

/-- A permitted call other than a deletion. -/
theorem Ungranted.snoc (h : Ungranted cluster exchanges) {e : Exchange}
    (he : e.call.IsPermitted cluster exchanges) (hother : ¬ e.call.DeletesCluster) :
    Ungranted cluster (exchanges ++ [e]) where
  permitted := h.permitted.snoc he
  ungranted := by
    refine List.forall_mem_append.mpr ⟨h.ungranted, List.forall_mem_singleton.mpr ?_⟩
    rintro ⟨id, response, memory, rfl, _⟩
    exact hother trivial

theorem Ungranted.writing (h : Ungranted cluster exchanges) (status : ClusterStatus)
    (response : Response (Except Fault Unit)) :
    Ungranted cluster (exchanges ++ [.writing cluster status response]) :=
  h.snoc trivial id

theorem Ungranted.ensures_recordFailure (h : Ungranted cluster scene.exchanges) (fault : Fault) :
    Pass.Ensures conduct (recordFailure cluster fault)
      (fun _ scene' => Ungranted cluster scene'.exchanges) scene :=
  keeps_recordFailure_exchanges (fun _ status response h => h.writing status response) fault scene h

/-- While the resource is open nothing more is asked for than is permitted. -/
structure Opened (cluster : ClusterDeclaration) (exchanges : List Exchange) : Prop
    extends Ungranted cluster exchanges where
  isOpen : cluster.IsOpen exchanges

theorem Opened.snoc (h : Opened cluster exchanges) {e : Exchange}
    (he : e.call.IsPermitted cluster exchanges) (hother : ¬ e.call.DeletesCluster) :
    Opened cluster (exchanges ++ [e]) where
  toUngranted := h.toUngranted.snoc he hother
  isOpen := by
    refine ⟨h.isOpen.kept, h.isOpen.valid, h.isOpen.guarded.imp_right ?_⟩
    rintro ⟨e, he, hputs⟩
    exact ⟨e, List.mem_append_left _ he, hputs⟩

theorem Opened.writing (h : Opened cluster exchanges) (status : ClusterStatus)
    (response : Response (Except Fault Unit)) :
    Opened cluster (exchanges ++ [.writing cluster status response]) :=
  h.snoc trivial id

theorem keeps_opened_converge (conduct : Conduct σ) (cluster : ClusterDeclaration) :
    Attempt.Keeps conduct (fun scene => Opened cluster scene.exchanges)
      (Attempt.converge cluster) := by
  have hcalls : conduct.Preserves Call.IsConverging fun scene =>
      Opened cluster scene.exchanges := by
    apply Conduct.preserves_exchanges
    intro exchanges c response abandoned memory hkind h
    exact h.snoc (hkind.isPermitted h.isOpen) hkind.not_deletesCluster
  rw [Attempt.converge_eq]
  refine Attempt.keeps_status.bind fun current => ?_
  apply (Attempt.erases_convergeFrom current.clusterId).keeps hcalls
  exact fun change _ =>
    Attempt.keeps_amend_exchanges (fun _ status response h => h.writing status response) change

theorem Opened.ensures_connected (h : Opened cluster scene.exchanges) (settings : Settings) :
    Pass.Ensures conduct (connected cluster (Attempt.converge cluster) fun progress =>
      return .through (progress.action settings))
      (fun ending scene' => IsGated settings cluster ending scene'.exchanges) scene := by
  refine Pass.ensures_connected_of_kept (Conduct.preserves_exchanges ?_)
    (keeps_recordFailure_exchanges fun _ status response h => h.writing status response) ?_ ?_ h
  · rintro exchanges _ response abandoned memory rfl h
    exact h.snoc trivial id
  · exact fun fault scene hscene => hscene.isGated settings _
  · intro scene hscene
    refine (keeps_opened_converge conduct cluster scene hscene).mono fun r scene' hscene' => ?_
    cases r with
    | error fault => exact hscene'
    | ok progress => exact hscene'.isGated settings _

theorem ensures_reconcileChange_gated (settings : Settings) (hkept : cluster.isBeingDeleted = false)
    (h : Ungranted cluster scene.exchanges) :
    Pass.Ensures conduct (reconcileChange settings cluster)
      (fun ending scene' => IsGated settings cluster ending scene'.exchanges) scene := by
  have hstays := ClusterDeclaration.isBeingDeleted_eq_false_iff.mp hkept
  unfold reconcileChange
  split
  · next fault hvalid =>
      rw [Pass.ensures_bind]
      exact (h.ensures_recordFailure fault).mono fun _ _ hscene => hscene.isGated settings _
  · next hvalid =>
      rw [Pass.ensures_bind]
      apply Pass.ensures_guardResource
      · intro hguarded
        have hcarried := ClusterDeclaration.isGuarded_iff.mp hguarded
        exact Opened.ensures_connected ⟨h, hstays, hvalid, Or.inl hcarried⟩ settings
      · intro response state _
        have hasked : Ungranted cluster (World.after scene
            (.addFinalizer cluster.inNamespace cluster.name) response false state).exchanges := by
          rw [Scene.exchanges_after]
          exact h.snoc trivial id
        cases hreply : (response.reply : Except Fault Unit) with
        | error fault => exact hasked.isGated settings _
        | ok _ =>
            refine Opened.ensures_connected ⟨hasked, hstays, hvalid, Or.inr ?_⟩ settings
            rw [Scene.exchanges_after]
            exact ⟨_, List.mem_append_right _ List.mem_cons_self, response, _, rfl, hreply⟩

/-- No finalizer was taken off so far. -/
structure Holding (cluster : ClusterDeclaration) (exchanges : List Exchange) : Prop
    extends Ungranted cluster exchanges where
  unreleased : ∀ e ∈ exchanges, ¬ e.call.ReleasesResource

theorem Holding.snoc (h : Holding cluster exchanges) {e : Exchange}
    (he : e.call.IsPermitted cluster exchanges) (hother : ¬ e.call.DeletesCluster)
    (hholds : ¬ e.call.ReleasesResource) : Holding cluster (exchanges ++ [e]) where
  toUngranted := h.toUngranted.snoc he hother
  unreleased := List.forall_mem_append.mpr ⟨h.unreleased, List.forall_mem_singleton.mpr hholds⟩

theorem Holding.writing (h : Holding cluster exchanges) (status : ClusterStatus)
    (response : Response (Except Fault Unit)) :
    Holding cluster (exchanges ++ [.writing cluster status response]) :=
  h.snoc trivial (fun hno => hno) fun hno => hno

theorem holding_nil : Holding cluster [] where
  permitted := eachAfter_nil
  ungranted := fun _ he => absurd he List.not_mem_nil
  unreleased := fun _ he => absurd he List.not_mem_nil

/-- How the tearing down of that cluster ends. -/
def TornDown (cluster : ClusterDeclaration) (id : ClusterId) :
    Except Fault Progress → Scene σ → Prop
  | .ok .settled, scene => Holding cluster scene.exchanges ∧
      ∃ e ∈ scene.exchanges, e.Denies id ∨ e.FindsNone id
  | .ok .inFlight, scene => ArePermitted cluster scene.exchanges ∧
      ∀ e ∈ scene.exchanges, ¬ e.call.ReleasesResource
  | .error _, scene => Holding cluster scene.exchanges

/-- The request to delete the cluster on record is permitted. -/
theorem Holding.deleting (h : Holding cluster exchanges) (hclosing : cluster.IsClosing)
    (hid : cluster.currentStatus.clusterId = some id) {e : Exchange}
    (he : e.call = .deleteCluster id) :
    ArePermitted cluster (exchanges ++ [e]) ∧
      ∀ x ∈ exchanges ++ [e], ¬ x.call.ReleasesResource := by
  constructor
  · apply h.permitted.snoc
    rw [he]
    exact ⟨hclosing, hid⟩
  · refine List.forall_mem_append.mpr ⟨h.unreleased, List.forall_mem_singleton.mpr ?_⟩
    rw [he]
    exact fun hno => hno

/-- Without an agreement that the pass was waiting for, no deletion is under way. -/
theorem Holding.notDeleting (h : Holding cluster exchanges) (hclosing : cluster.IsClosing)
    (hid : cluster.currentStatus.clusterId = some id) {e : Exchange}
    (he : e.call = .deleteCluster id) (hgrants : ¬ e.GrantsDeletion) :
    Holding cluster (exchanges ++ [e]) := by
  obtain ⟨hpermitted, hunreleased⟩ := h.deleting hclosing hid he
  refine ⟨⟨hpermitted, ?_⟩, hunreleased⟩
  exact List.forall_mem_append.mpr ⟨h.ungranted, List.forall_mem_singleton.mpr hgrants⟩

theorem ensures_requestDeletion_gated (h : Holding cluster scene.exchanges)
    (hclosing : cluster.IsClosing) (hid : cluster.currentStatus.clusterId = some id) :
    Attempt.Ensures conduct (Attempt.requestDeletion id) (TornDown cluster id) scene := by
  rw [Attempt.requestDeletion, Attempt.ensures_bind]
  refine (Attempt.ensures_calls_ask (.deleteCluster id) (fun reply => reply) _).mpr ?_
  split
  · have hchecked : Holding cluster scene.checked.exchanges := by rwa [Scene.exchanges_checked]
    exact hchecked
  · intro response state _
    split
    · have hgiven : Holding cluster (World.after scene.checked (.deleteCluster id) response true
          state).exchanges := by
        rw [Scene.exchanges_after_checked]
        apply h.notDeleting hclosing hid rfl
        rintro ⟨other, granted, memory, heq, _⟩
        cases heq
      exact hgiven
    · cases hreply : (response.reply : Except ProviderFault Unit) with
      | ok _ =>
          have hgranted := h.deleting hclosing hid
            (e := ⟨.deleteCluster id, response, false, scene.memory⟩) rfl
          rw [← Scene.exchanges_after_checked scene (.deleteCluster id) response false state]
            at hgranted
          exact hgranted
      | error cause =>
          have hrefused : Holding cluster (World.after scene.checked (.deleteCluster id) response
              false state).exchanges := by
            rw [Scene.exchanges_after_checked]
            apply h.notDeleting hclosing hid rfl
            rintro ⟨other, granted, memory, heq, hok⟩
            cases heq
            rw [hreply] at hok
            cases hok
          cases cause with
          | notFound =>
              refine ⟨hrefused, ?_⟩
              rw [Scene.exchanges_after_checked]
              exact ⟨_, List.mem_append_right _ List.mem_cons_self,
                Or.inr ⟨response, _, rfl, hreply⟩⟩
          | notAvailable => exact hrefused
          | refused status message => exact hrefused
          | transport reason => exact hrefused

theorem ensures_tearDown_gated (h : Holding cluster scene.exchanges) (hclosing : cluster.IsClosing)
    (hid : cluster.currentStatus.clusterId = some id) (hmemory : scene.memory.clusterId = some id) :
    Attempt.Ensures conduct (Attempt.tearDown cluster) (TornDown cluster id) scene := by
  have hcalls : conduct.Preserves (fun c => c = .getCluster id) fun scene =>
      Holding cluster scene.exchanges := by
    apply Conduct.preserves_exchanges
    rintro exchanges _ response abandoned memory rfl h
    exact h.snoc trivial (fun hno => hno) fun hno => hno
  have hamends : ∀ change, Attempt.Keeps conduct (fun scene => Holding cluster scene.exchanges)
      (Attempt.amend cluster change) :=
    Attempt.keeps_amend_exchanges fun _ status response h => h.writing status response
  have herases : Attempt.ErasesTo cluster (fun c => c = .getCluster id) (fun _ => True)
      (Attempt.enter cluster .deleting) (pure ()) := Attempt.erases_enter trivial
  rw [Attempt.tearDown, Attempt.ensures_bind, Attempt.ensures_status, Dialogue.orFault_ok, hmemory]
  refine (herases.keeps hcalls (fun change _ => hamends change) scene h).bind ?_ ?_
  · intro _ scene hscene
    refine hcalls.ensures_ask (c := .getCluster id) rfl ?_ ?_ hscene
    · exact fun scene hscene => hscene
    · intro response state _ hafter
      cases hreply : (response.reply : Except ProviderFault RemoteCluster) with
      | ok remote => exact ensures_requestDeletion_gated hafter hclosing hid
      | error cause =>
          cases cause with
          | notFound =>
              refine ⟨hafter, ?_⟩
              rw [Scene.exchanges_after_checked]
              exact ⟨_, List.mem_append_right _ List.mem_cons_self,
                Or.inl ⟨response, _, rfl, hreply⟩⟩
          | notAvailable => exact hafter
          | refused status message => exact hafter
          | transport reason => exact hafter
  · exact fun fault scene' hscene => hscene

theorem ensures_releaseResource_gated (settings : Settings) (ending : PassEnd)
    (h : Ungranted cluster scene.exchanges) (hclosing : cluster.IsClosing)
    (hgone : ∀ id, cluster.currentStatus.clusterId = some id →
      ∃ e ∈ scene.exchanges, e.Denies id ∨ e.FindsNone id) :
    Pass.Ensures conduct (releaseResource cluster ending)
      (fun ending scene' => IsGated settings cluster ending scene'.exchanges) scene := by
  refine (Pass.ensures_bind _ _ _).mpr ?_
  intro response state _
  have hafter : Ungranted cluster (World.after scene
      (.removeFinalizer cluster.inNamespace cluster.name) response false state).exchanges := by
    rw [Scene.exchanges_after]
    exact h.snoc ⟨hclosing, hgone⟩ id
  cases hreply : (response.reply : Except Fault Unit) <;> exact hafter.isGated settings _

theorem ensures_reconcileDeletion_gated (settings : Settings)
    (hdeleted : cluster.isBeingDeleted = true) (h : Holding cluster scene.exchanges)
    (hmemory : scene.memory = cluster.currentStatus) :
    Pass.Ensures conduct (reconcileDeletion settings cluster)
      (fun ending scene' => IsGated settings cluster ending scene'.exchanges) scene := by
  unfold reconcileDeletion
  split
  · exact h.isGated settings _
  · next hguarded =>
      have hcarried : cluster.isGuarded = true := by simpa using hguarded
      have hclosing : cluster.IsClosing :=
        ⟨ClusterDeclaration.isBeingDeleted_iff.mp hdeleted,
          ClusterDeclaration.isGuarded_iff.mp hcarried⟩
      cases hid : cluster.currentStatus.clusterId with
      | none =>
          apply ensures_releaseResource_gated settings _ h.toUngranted hclosing
          intro id hsome
          rw [hid] at hsome
          cases hsome
      | some id =>
          have hasked : ∀ response state, Holding cluster (World.after scene
              (.connect cluster.spec.tokenSecretRef) response false state).exchanges := by
            intro response state
            rw [Scene.exchanges_after]
            exact h.snoc trivial (fun hno => hno) fun hno => hno
          have hfail : ∀ fault {scene : Scene σ}, Holding cluster scene.exchanges →
              Pass.Ensures conduct (failPass cluster fault)
                (fun ending scene' => IsGated settings cluster ending scene'.exchanges) scene := by
            intro fault scene hscene
            rw [failPass, Pass.ensures_bind]
            exact (hscene.toUngranted.ensures_recordFailure fault).mono
              fun _ _ hrecorded => hrecorded.isGated settings _
          rw [if_neg (by simp)]
          apply Pass.ensures_connected
          · exact fun response state fault _ _ => hfail fault (hasked response state)
          · intro response state _ _
            have hknown : scene.memory.clusterId = some id := by rw [hmemory, hid]
            refine (ensures_tearDown_gated (hasked response state) hclosing hid hknown).mono
              fun r scene' hend => ?_
            rcases r with fault | progress
            · exact hfail fault hend
            · cases progress with
              | settled =>
                  apply ensures_releaseResource_gated settings _ hend.1.toUngranted hclosing
                  intro other hother
                  rw [hid] at hother
                  cases hother
                  exact hend.2
              | inFlight => exact ⟨hend.1, fun e _ _ => ⟨hend.2, rfl⟩⟩

/-- In every pass the finalizer comes first and goes last. Calls that make or change something, or
delete it, are made only where they are permitted; the finalizer is taken off only where no cluster
is left; and while a deletion is under way it stays, and the resource is looked at again. -/
theorem finalizer_gates_pass (world : World σ) (settings : Settings) (cluster : ClusterDeclaration)
    (cancelled : Bool) (memory : ClusterStatus) (state : σ) :
    IsGated settings cluster
      (world.run (reconcile settings cluster) (.start cancelled memory state)).1
      (world.run (reconcile settings cluster) (.start cancelled memory state)).2.exchanges := by
  have hensures : Pass.Ensures Conduct.any (reconcile settings cluster)
      (fun ending scene => IsGated settings cluster ending scene.exchanges)
      ((Scene.start cancelled memory state).through id) := by
    rw [reconcile, Pass.ensures_bind, Pass.ensures_record]
    split
    · next hdeleted => exact ensures_reconcileDeletion_gated settings hdeleted holding_nil rfl
    · next hkept =>
        exact ensures_reconcileChange_gated settings (Bool.eq_false_iff.mpr hkept)
          holding_nil.toUngranted
  exact World.run_of_ensures (world.keeps_any id) hensures

end ClusterKeeper
