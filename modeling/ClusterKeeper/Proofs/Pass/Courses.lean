import Mathlib.Data.List.Basic
import ClusterKeeper.Proofs.Pass.Record
/-!
The courses of passes.

A pass that asks for a new cluster takes one of few courses, which are spelled out here call by
call. Before that only preliminary calls are made; once the provider accepted the cluster, its
identifier is written, its pools are listed and recorded, and nothing else is done. A failure is
written with the status in memory. Every other pass holds on to the identifier on record.
-/

namespace ClusterKeeper

variable {σ : Type} {conduct : Conduct σ} {cluster : ClusterDeclaration} {scene : Scene σ}

namespace Call

/-- What is asked before a cluster is created. -/
def IsPreliminary : Call → Prop
  | connect _ | addFinalizer .. | getCluster _ | listVersions => True
  | _ => False

/-- The call asks for a new cluster. -/
def createsCluster : Call → Bool
  | createCluster _ => true
  | _ => false

/-- What is done after a cluster was created: its pools are listed, and statuses with its identifier
are written. -/
def FollowsUp (id : ClusterId) : Call → Prop
  | listPools _ => True
  | patchStatus _ _ status => status.clusterId = some id
  | _ => False

/-- The call asks for no new cluster, and if it writes a status, that has the identifier. -/
def Retains (recorded : Option ClusterId) : Call → Prop
  | createCluster _ => False
  | patchStatus _ _ status => status.clusterId = recorded
  | _ => True

theorem IsPreliminary.retains {c : Call} (h : c.IsPreliminary) (recorded : Option ClusterId) :
    c.Retains recorded := by
  cases c <;> first | exact trivial | exact h.elim

theorem IsPreliminary.createsCluster {c : Call} (h : c.IsPreliminary) :
    c.createsCluster = false := by
  cases c <;> first | rfl | exact h.elim

theorem FollowsUp.createsCluster {id : ClusterId} {c : Call} (h : c.FollowsUp id) :
    c.createsCluster = false := by
  cases c <;> first | rfl | exact h.elim

theorem Retains.createsCluster {recorded : Option ClusterId} {c : Call} (h : c.Retains recorded) :
    c.createsCluster = false := by
  cases c <;> first | rfl | exact h.elim

theorem IsRoutine.retains {c : Call} (h : c.IsRoutine) (recorded : Option ClusterId) :
    c.Retains recorded := by
  cases c <;> first | exact trivial | exact h.elim

end Call

namespace Exchange

/-- The provider said that it does not know that cluster. -/
def Denies (e : Exchange) (id : ClusterId) : Prop :=
  ∃ (response : Response (Except ProviderFault RemoteCluster)) (memory : ClusterStatus),
    e = ⟨.getCluster id, response, false, memory⟩ ∧ response.reply = .error .notFound

/-- The provider accepted a new cluster, and the pass was waiting for it. -/
def Accepts (e : Exchange) (remote : RemoteCluster) : Prop :=
  ∃ (request : ClusterCreation) (response : Response (Except ProviderFault RemoteCluster))
    (memory : ClusterStatus),
    e = ⟨.createCluster request, response, false, memory⟩ ∧ response.reply = .ok remote

theorem Accepts.createsCluster {e : Exchange} {remote : RemoteCluster} (h : e.Accepts remote) :
    e.call.createsCluster = true := by
  obtain ⟨request, response, memory, rfl, _⟩ := h
  rfl

theorem Accepts.unique {e : Exchange} {remote other : RemoteCluster} (h : e.Accepts remote)
    (hother : e.Accepts other) : remote = other := by
  obtain ⟨request, response, memory, rfl, hreply⟩ := h
  obtain ⟨_, _, _, heq, hreply'⟩ := hother
  cases heq
  exact Except.ok.inj (hreply.symm.trans hreply')

/-- The status in memory is written. -/
def writing (cluster : ClusterDeclaration) (status : ClusterStatus)
    (response : Response (Except Fault Unit)) : Exchange :=
  ⟨.patchStatus cluster.inNamespace cluster.name status, response, false, status⟩

end Exchange

namespace Scene

theorem forall_exchanges_after {p : Exchange → Prop} {c : Call} {response : Response c.Reply}
    {abandoned : Bool} {state : σ} :
    (∀ e ∈ (World.after scene c response abandoned state).exchanges, p e) ↔
      (∀ e ∈ scene.exchanges, p e) ∧ p ⟨c, response, abandoned, scene.memory⟩ := by
  rw [exchanges_after, List.forall_mem_append, List.forall_mem_singleton]

theorem forall_exchanges_checked {p : Exchange → Prop} :
    (∀ e ∈ scene.checked.exchanges, p e) ↔ ∀ e ∈ scene.exchanges, p e := by
  rw [exchanges_checked]

end Scene

/-- The exchanges of a pass up to a creation: they are preliminary, and if a cluster is on record,
the provider said that it does not know it. -/
structure Poised (cluster : ClusterDeclaration) (exchanges : List Exchange) : Prop where
  preliminary : ∀ e ∈ exchanges, e.call.IsPreliminary
  vacant : ∀ id, cluster.currentStatus.clusterId = some id → ∃ e ∈ exchanges, e.Denies id

/-- The pass holds on to the identifier on record: it is the one in memory, no other was written,
and no new cluster was asked for. -/
structure Retained (cluster : ClusterDeclaration) (scene : Scene σ) : Prop where
  memory : scene.memory.clusterId = cluster.currentStatus.clusterId
  calls : ∀ e ∈ scene.exchanges, e.call.Retains cluster.currentStatus.clusterId

theorem retained_of_preliminary (hpreliminary : ∀ e ∈ scene.exchanges, e.call.IsPreliminary)
    (hmemory : scene.memory = cluster.currentStatus) : Retained cluster scene where
  memory := congrArg ClusterStatus.clusterId hmemory
  calls := fun e he => (hpreliminary e he).retains _

/-- A call that retains the identifier. -/
theorem Retained.after (h : Retained cluster scene) {c : Call}
    (hcall : c.Retains cluster.currentStatus.clusterId) (response : Response c.Reply)
    (abandoned : Bool) (state : σ) :
    Retained cluster (World.after scene c response abandoned state) :=
  ⟨h.memory, Scene.forall_exchanges_after.mpr ⟨h.calls, hcall⟩⟩

theorem upholds_retained (conduct : Conduct σ) : conduct.Upholds cluster (Retained cluster) where
  checked := fun _ h => ⟨h.memory, Scene.forall_exchanges_checked.mpr h.calls⟩
  after := fun _ _ response abandoned state hkind _ h =>
    h.after (hkind.retains _) response abandoned state
  recording := fun _ _ hstatus h => ⟨hstatus.trans h.memory, h.calls⟩
  patched := by
    intro scene response state _ h
    have hcall : (Call.patchStatus cluster.inNamespace cluster.name scene.memory).Retains
        cluster.currentStatus.clusterId := h.memory
    exact h.after hcall response false state

theorem preserves_poised (conduct : Conduct σ) :
    conduct.Preserves Call.IsPreliminary fun scene =>
      scene.memory = cluster.currentStatus ∧ Poised cluster scene.exchanges where
  checked := by
    rintro scene ⟨hmemory, hpoised⟩
    refine ⟨hmemory, ?_⟩
    rw [Scene.exchanges_checked]
    exact hpoised
  after := by
    rintro scene c response abandoned state hkind _ ⟨hmemory, hpoised⟩
    refine ⟨hmemory, Scene.forall_exchanges_after.mpr ⟨hpoised.preliminary, hkind⟩, ?_⟩
    intro id hid
    obtain ⟨e, he, hdenies⟩ := hpoised.vacant id hid
    rw [Scene.exchanges_after]
    exact ⟨e, List.mem_append_left _ he, hdenies⟩

/-- After the identifier of a new cluster was written, its pools are listed and recorded. -/
inductive ListingCourse (cluster : ClusterDeclaration) (made : ClusterStatus) (id : ClusterId) :
    Except Fault Progress → ClusterStatus → List Exchange → Prop where
  | stopped : ListingCourse cluster made id (.error .cancelled) made []
  | givenUp {response} :
      ListingCourse cluster made id (.error .cancelled) made [⟨.listPools id, response, true, made⟩]
  | refused {response : Response (Except ProviderFault (List RemotePool))} {cause} :
      response.reply = .error cause →
      ListingCourse cluster made id (.error (.provider listPoolsOperation cause)) made
        [⟨.listPools id, response, false, made⟩]
  | listed {response : Response (Except ProviderFault (List RemotePool))} {listing status written}
      {r} : response.reply = .ok listing →
      status = { made with pools := Pools.observed listing, failureMessage := none } →
      r = written.reply.map (fun _ => .inFlight) →
      ListingCourse cluster made id r status
        [⟨.listPools id, response, false, made⟩, .writing cluster status written]

/-- After the provider accepted a cluster, its identifier is written. If that fails nothing else is
done. -/
inductive Aftermath (cluster : ClusterDeclaration) (made : ClusterStatus) (id : ClusterId) :
    Except Fault Progress → ClusterStatus → List Exchange → Prop where
  | unwritten {response : Response (Except Fault Unit)} {fault} : response.reply = .error fault →
      Aftermath cluster made id (.error fault) made [.writing cluster made response]
  | written {response : Response (Except Fault Unit)} {r memory rest} : response.reply = .ok () →
      ListingCourse cluster made id r memory rest →
      Aftermath cluster made id r memory (.writing cluster made response :: rest)

/-- The course of an attempt that asks for a new cluster: how it ends, the status that is in memory
then, and all exchanges of the pass so far. -/
inductive CreationCourse (cluster : ClusterDeclaration) :
    Except Fault Progress → ClusterStatus → List Exchange → Prop where
  | givenUp {before request response} : Poised cluster before →
      CreationCourse cluster (.error .cancelled) cluster.currentStatus
        (before ++ [⟨.createCluster request, response, true, cluster.currentStatus⟩])
  | refused {before request} {response : Response (Except ProviderFault RemoteCluster)} {cause} :
      Poised cluster before → response.reply = .error cause →
      CreationCourse cluster (.error (.provider "create cluster" cause)) cluster.currentStatus
        (before ++ [⟨.createCluster request, response, false, cluster.currentStatus⟩])
  | accepted {before request} {response : Response (Except ProviderFault RemoteCluster)} {remote r}
      {memory after} : Poised cluster before → response.reply = .ok remote →
      Aftermath cluster (cluster.currentStatus.withCreated remote.id) remote.id r memory after →
      CreationCourse cluster r memory
        (before ++ ⟨.createCluster request, response, false, cluster.currentStatus⟩ :: after)

/-- Afterwards the identifier of the new cluster is in memory. -/
theorem Aftermath.clusterId {made memory : ClusterStatus} {id : ClusterId}
    {r : Except Fault Progress} {after : List Exchange} (h : Aftermath cluster made id r memory after)
    (hmade : made.clusterId = some id) : memory.clusterId = some id := by
  cases h with
  | unwritten hreply => exact hmade
  | written hreply hcourse =>
      cases hcourse with
      | stopped => exact hmade
      | givenUp => exact hmade
      | refused hreply => exact hmade
      | listed hreply hstatus hresult =>
          rw [hstatus]
          exact hmade

namespace Attempt

/-- A change of the status in memory is written without a failure, and the attempt ends as the write
does. -/
theorem ensures_change_writing (change : ClusterStatus → ClusterStatus) {status : ClusterStatus}
    (hstatus : status = { change scene.memory with failureMessage := none }) :
    Ensures conduct (modifyStatus change >>= fun _ => persist cluster)
      (fun r scene' => ∃ response : Response (Except Fault Unit), r = response.reply ∧
        scene'.memory = status ∧
        scene'.exchanges = scene.exchanges ++ [.writing cluster status response]) scene := by
  subst hstatus
  rw [ensures_bind, ensures_modifyStatus, Dialogue.orFault_ok, ensures_persist]
  intro response state _
  exact ⟨response, rfl, rfl, Scene.exchanges_after _ _ _ _ _⟩

/-- An attempt that gives its end another value. -/
theorem ensures_bind_pure {α β : Type} (attempt : Attempt α) (b : β)
    (post : Except Fault β → Scene σ → Prop) :
    Ensures conduct (attempt >>= fun _ => pure b) post scene ↔
      Ensures conduct attempt (fun r => post (r.map fun _ => b)) scene := by
  rw [ensures_bind]
  refine iff_of_eq (congrArg (fun q => Ensures conduct attempt q scene) ?_)
  funext r scene'
  cases r <;> rfl

theorem ensures_listingCourse (id : ClusterId) {made : ClusterStatus}
    (hmemory : scene.memory = made) :
    Ensures conduct ((observePools id >>= fun _ => persist cluster) >>= fun _ => pure .inFlight)
      (fun r scene' => ∃ rest, scene'.exchanges = scene.exchanges ++ rest ∧
        ListingCourse cluster made id r scene'.memory rest) scene := by
  subst hmemory
  rw [observePools, bind_assoc, bind_assoc, ensures_bind]
  refine (ensures_step_ask (.listPools id) (fun (reply : Except ProviderFault (List RemotePool)) =>
    reply.mapError (.provider listPoolsOperation)) _).mpr ?_
  split
  · refine ⟨[], ?_, .stopped⟩
    rw [Scene.exchanges_checked, List.append_nil]
  · intro response state _
    split
    · exact ⟨_, scene.exchanges_after_checked _ response true state, .givenUp⟩
    · cases hreply : (response.reply : Except ProviderFault (List RemotePool)) with
      | error cause =>
          exact ⟨_, scene.exchanges_after_checked _ response false state, .refused hreply⟩
      | ok listing =>
          have hlisted := scene.exchanges_after_checked (.listPools id) response false state
          have hheld : (World.after scene.checked (.listPools id) response false state).memory =
            scene.memory := rfl
          generalize World.after scene.checked (.listPools id) response false state = next
            at hlisted hheld ⊢
          -- The rest is one change of the status that is written at once.
          change Ensures conduct (modifyStatus (fun status =>
              { status with pools := Pools.observed listing }) >>= fun _ =>
            persist cluster >>= fun _ => pure Progress.inFlight) _ next
          rw [← bind_assoc, ensures_bind_pure]
          refine (ensures_change_writing _ rfl).mono ?_
          rintro r scene' ⟨written, rfl, hmemory, hexchanges⟩
          refine ⟨_, hexchanges.trans ?_, .listed hreply ?_ rfl⟩
          · rw [← hmemory, hlisted, List.append_assoc]
            rfl
          · rw [hmemory, hheld]

/-- Once the provider accepted a cluster the attempt takes its course to the end. -/
theorem ensures_aftermath (id : ClusterId) :
    Ensures conduct (recordCreated cluster id >>= fun _ =>
        (observePools id >>= fun _ => persist cluster) >>= fun _ => pure .inFlight)
      (fun r scene' => ∃ after, scene'.exchanges = scene.exchanges ++ after ∧
        Aftermath cluster (scene.memory.withCreated id) id r scene'.memory after) scene := by
  refine (ensures_change_writing (fun status =>
    { status with phase := .provisioning, clusterId := some id }) rfl).bind ?_ ?_
  · rintro _ written ⟨response, hreply, hmemory, hwritten⟩
    refine (ensures_listingCourse id hmemory).mono ?_
    rintro r scene' ⟨rest, hexchanges, hcourse⟩
    refine ⟨_, ?_, .written hreply.symm hcourse⟩
    rw [hexchanges, hwritten, List.append_assoc]
    rfl
  · rintro fault written ⟨response, hreply, hmemory, hwritten⟩
    refine ⟨_, hwritten, ?_⟩
    rw [hmemory]
    exact .unwritten hreply.symm

/-- An attempt that creates a cluster where none is left ends before it asked for one, or takes the
course of a creation. -/
theorem ensures_create_course (hmemory : scene.memory = cluster.currentStatus)
    (hpoised : Poised cluster scene.exchanges) :
    Ensures conduct (create cluster) (fun r scene' => Retained cluster scene' ∨
      CreationCourse cluster r scene'.memory scene'.exchanges) scene := by
  rw [create_eq]
  have hversion : (chooseVersion cluster.spec).run.Only Call.IsPreliminary := by
    refine (chooseVersion_only _).mono ?_
    rintro _ rfl
    exact trivial
  refine ((preserves_poised conduct).step hversion ⟨hmemory, hpoised⟩).bind ?_ ?_
  · rintro version scene ⟨hmemory, hpoised⟩
    rw [ensures_bind]
    refine (ensures_step_ask (.createCluster (creationRequest cluster version))
      (fun (reply : Except ProviderFault RemoteCluster) =>
        reply.mapError (.provider "create cluster")) _).mpr ?_
    have hasked : ∀ response abandoned state,
        (World.after scene.checked (.createCluster (creationRequest cluster version)) response
          abandoned state).exchanges = scene.exchanges ++
            [⟨.createCluster (creationRequest cluster version), response, abandoned,
              cluster.currentStatus⟩] := by
      intro response abandoned state
      rw [Scene.exchanges_after_checked, hmemory]
    have hheld : ∀ response abandoned state,
        (World.after scene.checked (.createCluster (creationRequest cluster version)) response
          abandoned state).memory = cluster.currentStatus := fun _ _ _ => hmemory
    split
    -- A pass that was told to stop has asked for nothing yet.
    · exact Or.inl ((upholds_retained conduct).checked _ (retained_of_preliminary hpoised.preliminary hmemory))
    · intro response state _
      split
      · refine Or.inr ?_
        rw [hasked, hheld]
        exact .givenUp hpoised
      · cases hreply : (response.reply : Except ProviderFault RemoteCluster) with
        | error cause =>
            refine Or.inr ?_
            rw [hasked, hheld]
            exact .refused hpoised hreply
        | ok remote =>
            refine (ensures_aftermath remote.id).mono ?_
            rintro r scene' ⟨after, hexchanges, haftermath⟩
            refine Or.inr ?_
            rw [hheld] at haftermath
            rw [hexchanges, hasked, List.append_assoc]
            exact .accepted hpoised hreply haftermath
  · rintro fault scene' ⟨hmemory, hpoised⟩
    exact Or.inl (retained_of_preliminary hpoised.preliminary hmemory)

/-- An attempt to bring a cluster nearer to its declaration holds on to the identifier on record, or
takes the course of a creation. -/
theorem ensures_converge_course (hpreliminary : ∀ e ∈ scene.exchanges, e.call.IsPreliminary)
    (hmemory : scene.memory = cluster.currentStatus) :
    Ensures conduct (converge cluster) (fun r scene' => Retained cluster scene' ∨
      CreationCourse cluster r scene'.memory scene'.exchanges) scene := by
  have hupholds : conduct.Upholds cluster (Retained cluster) := upholds_retained conduct
  have hretained : Retained cluster scene := retained_of_preliminary hpreliminary hmemory
  rw [converge, ensures_bind, ensures_status, Dialogue.orFault_ok]
  cases hid : scene.memory.clusterId with
  | none =>
      refine ensures_create_course hmemory ⟨hpreliminary, fun id hrecorded => ?_⟩
      rw [← hmemory, hid] at hrecorded
      cases hrecorded
  | some id =>
      refine hupholds.toPreserves.ensures_ask (c := .getCluster id) trivial ?_ ?_ hretained
      · exact fun scene hscene => Or.inl hscene
      · intro response state _ hafter
        cases hreply : (response.reply : Except ProviderFault RemoteCluster) with
        | ok remote =>
            exact (hupholds.inherited.update remote _ hafter).mono fun _ _ => Or.inl
        | error cause =>
            cases cause with
            -- The denial is what makes room for a new cluster.
            | notFound =>
                apply ensures_create_course
                · exact hmemory
                · refine ⟨Scene.forall_exchanges_after.mpr
                    ⟨Scene.forall_exchanges_checked.mpr hpreliminary, trivial⟩, ?_⟩
                  intro other hother
                  rw [← hmemory, hid] at hother
                  cases hother
                  rw [Scene.exchanges_after]
                  exact ⟨_, List.mem_append_right _ List.mem_cons_self, response, _, rfl, hreply⟩
            | notAvailable => exact Or.inl hafter
            | refused status message => exact Or.inl hafter
            | transport reason => exact Or.inl hafter

end Attempt

/-- How a pass ends after an attempt, and what it still does: a failure is written to the status in
memory, unless the pass was told to stop. -/
inductive Conclusion (cluster : ClusterDeclaration) (memory : ClusterStatus) :
    Except Fault Progress → PassEnd → List Exchange → Prop where
  | through {progress action} : Conclusion cluster memory (.ok progress) (.through action) []
  | stopped : Conclusion cluster memory (.error .cancelled) (.failed .cancelled) []
  | noted {fault response} : fault ≠ .cancelled →
      Conclusion cluster memory (.error fault) (.failed fault)
        [.writing cluster { memory with failureMessage := some fault.message } response]

/-- A pass in which an attempt took the course of a creation. -/
inductive CreatingPass (cluster : ClusterDeclaration) : PassEnd → List Exchange → Prop where
  | mk {r memory course ending conclusion exchanges} : CreationCourse cluster r memory course →
      Conclusion cluster memory r ending conclusion → exchanges = course ++ conclusion →
      CreatingPass cluster ending exchanges

theorem ensures_failPass_conclusion (fault : Fault) :
    Pass.Ensures conduct (failPass cluster fault) (fun ending scene' => ∃ conclusion,
      scene'.exchanges = scene.exchanges ++ conclusion ∧
      Conclusion cluster scene.memory (.error fault) ending conclusion) scene := by
  rw [failPass, recordFailure]
  split
  · next hcancelled =>
      subst hcancelled
      exact ⟨[], (List.append_nil _).symm, .stopped⟩
  · next hfault =>
      intro response state _
      exact ⟨_, Scene.exchanges_after _ _ _ _ _, .noted hfault⟩

/-- A pass holds on to the identifier on record or takes the course of a creation. -/
def HasCourse (cluster : ClusterDeclaration) (ending : PassEnd) (scene : Scene σ) : Prop :=
  Retained cluster scene ∨ CreatingPass cluster ending scene.exchanges

theorem Retained.ensures_failPass (h : Retained cluster scene) (fault : Fault) :
    Pass.Ensures conduct (failPass cluster fault) (HasCourse cluster) scene := by
  rw [failPass, Pass.ensures_bind]
  exact ((upholds_retained conduct).ensures_recordFailure fault h).mono fun _ _ => Or.inl

theorem ensures_reconcileDeletion_course (settings : Settings) (h : Retained cluster scene) :
    Pass.Ensures conduct (reconcileDeletion settings cluster) (HasCourse cluster) scene := by
  have hrelease : ∀ ending {scene : Scene σ}, Retained cluster scene →
      Pass.Ensures conduct (releaseResource cluster ending) (HasCourse cluster) scene := by
    intro ending scene h
    refine (Pass.ensures_bind _ _ _).mpr ?_
    intro response state _
    have hafter := h.after (c := .removeFinalizer cluster.inNamespace cluster.name) trivial response
      false state
    cases hreply : (response.reply : Except Fault Unit) <;> exact Or.inl hafter
  have hupholds : conduct.Upholds cluster (Retained cluster) := upholds_retained conduct
  unfold reconcileDeletion
  split
  · exact Or.inl h
  · split
    · exact hrelease _ h
    · apply Pass.ensures_connected
      · intro response state fault hconduct _
        exact (hupholds.after _ _ response false state trivial hconduct h).ensures_failPass fault
      · intro response state hconduct _
        have hconnected := hupholds.after _ _ response false state trivial hconduct h
        refine (hupholds.inherited.tearDown _ hconnected).mono fun r scene' hscene => ?_
        rcases r with fault | progress
        · exact hscene.ensures_failPass fault
        · cases progress with
          | settled => exact hrelease _ hscene
          | inFlight => exact Or.inl hscene

theorem ensures_reconcileChange_course (settings : Settings)
    (hpreliminary : ∀ e ∈ scene.exchanges, e.call.IsPreliminary)
    (hmemory : scene.memory = cluster.currentStatus) :
    Pass.Ensures conduct (reconcileChange settings cluster) (HasCourse cluster) scene := by
  have hconnected : ∀ {scene : Scene σ}, (∀ e ∈ scene.exchanges, e.call.IsPreliminary) →
      scene.memory = cluster.currentStatus →
      Pass.Ensures conduct (connected cluster (Attempt.converge cluster) fun progress =>
        return .through (progress.action settings)) (HasCourse cluster) scene := by
    intro scene hpreliminary hmemory
    have hasked : ∀ response state, ∀ e ∈ (World.after scene
        (.connect cluster.spec.tokenSecretRef) response false state).exchanges,
        e.call.IsPreliminary := fun response state =>
      Scene.forall_exchanges_after.mpr ⟨hpreliminary, trivial⟩
    apply Pass.ensures_connected
    · intro response state fault _ _
      exact (retained_of_preliminary (hasked response state) hmemory).ensures_failPass fault
    · intro response state _ _
      refine (Attempt.ensures_converge_course (hasked response state) hmemory).mono
        fun r scene' hcourse => ?_
      rcases r with fault | progress
      · rcases hcourse with hretained | hcourse
        · exact hretained.ensures_failPass fault
        · refine (ensures_failPass_conclusion fault).mono ?_
          rintro ending scene'' ⟨conclusion, hexchanges, hconclusion⟩
          exact Or.inr (.mk hcourse hconclusion hexchanges)
      · exact hcourse.imp_right fun hcourse => .mk hcourse .through (List.append_nil _).symm
  unfold reconcileChange
  split
  · next fault hvalid =>
      rw [Pass.ensures_bind]
      have hretained := retained_of_preliminary hpreliminary hmemory
      exact ((upholds_retained conduct).ensures_recordFailure fault hretained).mono
        fun _ _ => Or.inl
  · rw [Pass.ensures_bind]
    apply Pass.ensures_guardResource
    · exact fun _ => hconnected hpreliminary hmemory
    · intro response state _
      have hasked : ∀ e ∈ (World.after scene (.addFinalizer cluster.inNamespace cluster.name)
          response false state).exchanges, e.call.IsPreliminary :=
        Scene.forall_exchanges_after.mpr ⟨hpreliminary, trivial⟩
      cases hreply : (response.reply : Except Fault Unit) with
      | error fault => exact Or.inl (retained_of_preliminary hasked hmemory)
      | ok _ => exact hconnected hasked hmemory

/-- Every pass holds on to the identifier on record or takes the course of a creation. -/
theorem hasCourse_of_pass (world : World σ) (settings : Settings) (cluster : ClusterDeclaration)
    (cancelled : Bool) (memory : ClusterStatus) (state : σ) :
    HasCourse cluster
      (world.run (reconcile settings cluster) (.start cancelled memory state)).1
      (world.run (reconcile settings cluster) (.start cancelled memory state)).2 := by
  have hensures : Pass.Ensures Conduct.any (reconcile settings cluster) (HasCourse cluster)
      ((Scene.start cancelled memory state).through id) := by
    rw [reconcile, Pass.ensures_bind, Pass.ensures_record]
    have hnothing : ∀ e ∈ (((Scene.start cancelled memory state).through id).recording
        cluster.currentStatus).exchanges, e.call.IsPreliminary :=
      fun e he => absurd he List.not_mem_nil
    split
    · exact ensures_reconcileDeletion_course settings (retained_of_preliminary hnothing rfl)
    · exact ensures_reconcileChange_course settings hnothing rfl
  exact World.run_of_ensures (world.keeps_any id) hensures

theorem Aftermath.followsUp {made memory : ClusterStatus} {id : ClusterId}
    {r : Except Fault Progress} {after : List Exchange} (h : Aftermath cluster made id r memory after)
    (hmade : made.clusterId = some id) : ∀ e ∈ after, e.call.FollowsUp id := by
  have hwriting : ∀ response, (Exchange.writing cluster made response).call.FollowsUp id :=
    fun _ => hmade
  cases h with
  | unwritten hreply => exact List.forall_mem_singleton.mpr (hwriting _)
  | written hreply hcourse =>
      refine List.forall_mem_cons.mpr ⟨hwriting _, ?_⟩
      cases hcourse with
      | stopped => exact fun e he => absurd he List.not_mem_nil
      | givenUp => exact List.forall_mem_singleton.mpr trivial
      | refused hreply => exact List.forall_mem_singleton.mpr trivial
      | listed hreply hstatus hresult =>
          refine List.forall_mem_cons.mpr ⟨trivial, List.forall_mem_singleton.mpr ?_⟩
          subst hstatus
          exact hmade

/-- At the end of a pass no more is done than writing the identifier in memory. -/
theorem Conclusion.writes {memory : ClusterStatus} {r : Except Fault Progress} {ending : PassEnd}
    {conclusion : List Exchange} (h : Conclusion cluster memory r ending conclusion) :
    ∀ e ∈ conclusion, ∃ status response,
      e = .writing cluster status response ∧ status.clusterId = memory.clusterId := by
  cases h with
  | through => exact fun e he => absurd he List.not_mem_nil
  | stopped => exact fun e he => absurd he List.not_mem_nil
  | noted hfault => exact List.forall_mem_singleton.mpr ⟨_, _, rfl, rfl⟩

theorem Conclusion.followsUp {memory : ClusterStatus} {id : ClusterId} {r : Except Fault Progress}
    {ending : PassEnd} {conclusion : List Exchange}
    (h : Conclusion cluster memory r ending conclusion) (hmemory : memory.clusterId = some id) :
    ∀ e ∈ conclusion, e.call.FollowsUp id := by
  intro e he
  obtain ⟨status, response, rfl, hid⟩ := h.writes e he
  exact hid.trans hmemory

/-- What comes of a call for a new cluster, in the rest of the pass. -/
inductive Outcome (cluster : ClusterDeclaration) (ending : PassEnd) (e : Exchange) :
    List Exchange → Prop where
  | fruitless {r conclusion} : (∀ remote, ¬ e.Accepts remote) →
      Conclusion cluster cluster.currentStatus r ending conclusion →
      Outcome cluster ending e conclusion
  | fruitful {remote r memory rest conclusion} : e.Accepts remote →
      Aftermath cluster (cluster.currentStatus.withCreated remote.id) remote.id r memory rest →
      Conclusion cluster memory r ending conclusion →
      Outcome cluster ending e (rest ++ conclusion)

/-- A pass that asks for a new cluster asks once, after preliminary calls. -/
theorem CreatingPass.split {ending : PassEnd} {exchanges : List Exchange}
    (h : CreatingPass cluster ending exchanges) :
    ∃ before e after, exchanges = before ++ e :: after ∧ Poised cluster before ∧
      e.call.createsCluster = true ∧ Outcome cluster ending e after := by
  obtain ⟨hcourse, hconclusion, rfl⟩ := h
  -- What is done at the end of the pass comes after everything that the attempt did.
  cases hcourse with
  | givenUp hpoised =>
      refine ⟨_, _, _, List.append_assoc _ _ _, hpoised, rfl, .fruitless ?_ hconclusion⟩
      rintro remote ⟨request, response, memory, heq, _⟩
      cases heq
  | refused hpoised hreply =>
      refine ⟨_, _, _, List.append_assoc _ _ _, hpoised, rfl, .fruitless ?_ hconclusion⟩
      rintro remote ⟨request, response, memory, heq, hok⟩
      cases heq
      rw [hreply] at hok
      cases hok
  | accepted hpoised hreply haftermath =>
      refine ⟨_, _, _, List.append_assoc _ _ _, hpoised, rfl, .fruitful ?_ haftermath hconclusion⟩
      exact ⟨_, _, _, rfl, hreply⟩

theorem Outcome.createsCluster {ending : PassEnd} {e : Exchange} {after : List Exchange}
    (h : Outcome cluster ending e after) : ∀ x ∈ after, x.call.createsCluster = false := by
  have hconcludes : ∀ {memory r conclusion}, Conclusion cluster memory r ending conclusion →
      ∀ x ∈ conclusion, x.call.createsCluster = false := by
    intro memory r conclusion hconclusion x hx
    obtain ⟨status, response, rfl, _⟩ := hconclusion.writes x hx
    rfl
  cases h with
  | fruitless hnone hconclusion => exact hconcludes hconclusion
  | fruitful haccepts haftermath hconclusion =>
      refine List.forall_mem_append.mpr ⟨fun x hx => ?_, hconcludes hconclusion⟩
      exact (haftermath.followsUp rfl x hx).createsCluster

/-- The call for a new cluster is the only one of its kind in the pass. -/
theorem Poised.creation_unique {ending : PassEnd} {before after before' after' : List Exchange}
    {e e' : Exchange} (hpoised : Poised cluster before) (houtcome : Outcome cluster ending e after)
    (hsplit : before ++ e :: after = before' ++ e' :: after')
    (hcreates : e'.call.createsCluster = true) : before = before' ∧ e = e' ∧ after = after' := by
  refine (List.append_cons_inj_of_notMem ?_ ?_).mp hsplit
  · intro hmem
    rw [(hpoised.preliminary e' hmem).createsCluster] at hcreates
    cases hcreates
  · intro hmem
    rw [houtcome.createsCluster e' hmem] at hcreates
    cases hcreates

end ClusterKeeper
