import ClusterKeeper.Proofs.Pass.WholePass
/-!
Creations in interrupted passes.

The identifier of an accepted cluster is written in the call after the one that created it, so it
outlives every interruption but one: where the pass is told to stop while it waits for the provider
to create the cluster, the creation is given up, and the pass ends without a trace of it.
`accepted_creation_recorded_iff` says that this is the only way to lose a cluster.
-/

namespace ClusterKeeper

variable {σ : Type} {cluster : ClusterDeclaration}

namespace Event

/-- The event is a call that creates a cluster. -/
def IsCreation : Event → Prop
  | exchange e => ∃ request, e.call = .createCluster request
  | checkpoint _ => False

/-- A call that creates a cluster. -/
def creation (request : ClusterCreation) (response : Response (Except ProviderFault RemoteCluster))
    (abandoned : Bool) (memory : ClusterStatus) : Event :=
  .exchange ⟨.createCluster request, response, abandoned, memory⟩

/-- A call that writes the status of a cluster with that identifier. -/
def Records (cluster : ClusterDeclaration) (id : ClusterId) : Event → Prop
  | exchange e => ∃ status, e.call = .patchStatus cluster.inNamespace cluster.name status ∧
      status.clusterId = some id
  | checkpoint _ => False

theorem isCreation_creation (request : ClusterCreation)
    (response : Response (Except ProviderFault RemoteCluster)) (abandoned : Bool)
    (memory : ClusterStatus) : (creation request response abandoned memory).IsCreation :=
  ⟨request, rfl⟩

end Event

theorem snoc_eq_append_cons {α : Type} {log before after : List α} {last x : α}
    (h : log ++ [last] = before ++ x :: after) :
    (last = x ∧ after = []) ∨ ∃ rest, log = before ++ x :: rest ∧ after = rest ++ [last] := by
  rcases List.eq_nil_or_concat after with rfl | ⟨rest, other, rfl⟩
  · have hlast := List.append_inj_right' h rfl
    exact Or.inl ⟨List.head_eq_of_cons_eq hlast, rfl⟩
  · have hsplit : log ++ [last] = (before ++ x :: rest) ++ [other] := by
      rw [h, List.concat_eq_append, List.append_assoc, List.cons_append]
    have hlog := List.append_inj_left' hsplit rfl
    have hlast := List.append_inj_right' hsplit rfl
    exact Or.inr ⟨rest, hlog, by rw [List.concat_eq_append, List.head_eq_of_cons_eq hlast]⟩

/-- A log in which the identifier of every accepted cluster is written by the next call. -/
inductive Recorded (cluster : ClusterDeclaration) : List Event → Prop where
  | nil : Recorded cluster []
  | other {log event} : Recorded cluster log → ¬ event.IsCreation →
      Recorded cluster (log ++ [event])
  | refused {log request response memory fault} : Recorded cluster log →
      response.reply = .error fault →
      Recorded cluster (log ++ [.creation request response false memory])
  | written {log request response memory remote event} : Recorded cluster log →
      (response.cancels && response.suspends) = false → response.reply = .ok remote →
      event.Records cluster remote.id → ¬ event.IsCreation →
      Recorded cluster (log ++ [.creation request response false memory] ++ [event])

/-- A log that ends where the creation of a cluster was given up. -/
def EndsInLoss (cluster : ClusterDeclaration) (log : List Event) : Prop :=
  ∃ before request response memory, Recorded cluster before ∧
    (response.cancels && response.suspends) = true ∧
    log = before ++ [.creation request response true memory]

/-- In such a log an accepted cluster was awaited, and its identifier written afterwards. -/
theorem Recorded.records_of_mem {log before after : List Event} {request : ClusterCreation}
    {response : Response (Except ProviderFault RemoteCluster)} {abandoned : Bool}
    {memory : ClusterStatus} {remote : RemoteCluster} (h : Recorded cluster log)
    (hlog : log = before ++ .creation request response abandoned memory :: after)
    (hreply : response.reply = .ok remote) :
    (response.cancels && response.suspends) = false ∧
      ∃ event ∈ after, event.Records cluster remote.id := by
  induction h generalizing after with
  | nil => simp at hlog
  | other hrest hevent ih =>
      rcases snoc_eq_append_cons hlog with ⟨rfl, _⟩ | ⟨rest, hbefore, rfl⟩
      · exact absurd (Event.isCreation_creation _ _ _ _) hevent
      · obtain ⟨hawaited, event, hmem, hrecords⟩ := ih hbefore
        exact ⟨hawaited, event, List.mem_append_left _ hmem, hrecords⟩
  | refused hrest hfault ih =>
      rcases snoc_eq_append_cons hlog with ⟨heq, _⟩ | ⟨rest, hbefore, rfl⟩
      · cases heq
        rw [hreply] at hfault
        cases hfault
      · obtain ⟨hawaited, event, hmem, hrecords⟩ := ih hbefore
        exact ⟨hawaited, event, List.mem_append_left _ hmem, hrecords⟩
  | written hrest hgiven hok hwrites hevent ih =>
      rcases snoc_eq_append_cons hlog with ⟨rfl, _⟩ | ⟨rest, hbefore, rfl⟩
      · exact absurd (Event.isCreation_creation _ _ _ _) hevent
      · rcases snoc_eq_append_cons hbefore with ⟨heq, rfl⟩ | ⟨rest', hearlier, rfl⟩
        · cases heq
          rw [hreply] at hok
          cases hok
          exact ⟨hgiven, _, List.mem_append_right _ List.mem_cons_self, hwrites⟩
        · obtain ⟨hawaited, event, hmem, hrecords⟩ := ih hearlier
          exact ⟨hawaited, event, List.mem_append_left _ (List.mem_append_left _ hmem), hrecords⟩

theorem not_isCreation_of_isRoutine {c : Call} (h : c.IsRoutine) (response : Response c.Reply)
    (abandoned : Bool) (memory : ClusterStatus) :
    ¬ (Event.exchange ⟨c, response, abandoned, memory⟩).IsCreation := by
  rintro ⟨request, hcall⟩
  obtain rfl : c = .createCluster request := hcall
  exact h

/-- The log of the scene is one in which every accepted cluster is recorded. -/
def Scene.IsRecorded (cluster : ClusterDeclaration) (scene : Scene σ) : Prop :=
  Recorded cluster scene.log

theorem preserves_isRecorded (conduct : Conduct σ) :
    conduct.Preserves Call.IsRoutine (Scene.IsRecorded cluster) where
  checked := fun _ h => h.other id
  after := fun scene _ response abandoned _ hkind _ h =>
    h.other (not_isCreation_of_isRoutine hkind response abandoned scene.memory)

theorem upholds_isRecorded (conduct : Conduct σ) :
    conduct.Upholds cluster (Scene.IsRecorded cluster) where
  toPreserves := preserves_isRecorded conduct
  recording := fun scene status _ h => h
  patched := fun scene response state _ h => h.other fun ⟨_, hcall⟩ => by cases hcall

/-- Whatever the collaborators do, accepted clusters are recorded or the log ends in a loss. -/
theorem governs_isRecorded (conduct : Conduct σ) :
    conduct.Governs cluster (Scene.IsRecorded cluster) (Scene.IsRecorded cluster)
      (Scene.IsRecorded cluster) (fun scene => EndsInLoss cluster scene.log) where
  upholds := upholds_isRecorded conduct
  upholdsGuarded := upholds_isRecorded conduct
  preservesVacant := preserves_isRecorded conduct
  inv_of_guarded := fun _ h => h
  added := fun _ _ _ _ h _ => h.other fun ⟨_, hcall⟩ => by cases hcall
  notAdded := fun _ _ _ _ _ h _ => h.other fun ⟨_, hcall⟩ => by cases hcall
  vacant_of_none := fun _ h _ => h
  unknown := fun _ _ _ _ h _ _ _ => h.other fun ⟨_, hcall⟩ => by cases hcall
  deleted := fun _ _ _ _ h _ _ _ => h.other fun ⟨_, hcall⟩ => by cases hcall
  released := fun _ _ _ h _ => h.other fun ⟨_, hcall⟩ => by cases hcall
  creates := fun scene version h _ =>
    { lost := fun response state _ hgiven =>
        ⟨scene.log, _, response, scene.memory, h, hgiven, rfl⟩
      refused := fun response state fault _ _ hreply => Recorded.refused h hreply
      recorded := fun response state remote _ hawaited hreply written state' _ =>
        Recorded.written h hawaited hreply ⟨_, rfl, rfl⟩ fun ⟨_, hcall⟩ => by cases hcall }

/-- A cluster that the provider accepted is recorded by the pass that asked for it, unless the pass
was told to stop while it was waiting for the provider. Then it ends at once. -/
theorem accepted_creation_recorded_iff (world : World σ) (settings : Settings)
    (cluster : ClusterDeclaration) (cancelled : Bool) (memory : ClusterStatus) (state : σ)
    {before after : List Event} {request : ClusterCreation}
    {response : Response (Except ProviderFault RemoteCluster)} {abandoned : Bool}
    {held : ClusterStatus} {remote : RemoteCluster}
    (hlog : (world.run (reconcile settings cluster) (.start cancelled memory state)).2.log =
      before ++ .creation request response abandoned held :: after)
    (hreply : response.reply = .ok remote) :
    ((∃ event ∈ after, event.Records cluster remote.id) ↔
      ¬ (response.cancels = true ∧ response.suspends = true)) ∧
    (response.cancels = true ∧ response.suspends = true →
      after = [] ∧ (world.run (reconcile settings cluster) (.start cancelled memory state)).1 =
        .failed .cancelled) := by
  have hgoverns : (Conduct.any : Conduct σ).Governs cluster (Scene.IsRecorded cluster) _ _ _ :=
    governs_isRecorded Conduct.any
  have hstart : Scene.IsRecorded cluster
      (((Scene.start cancelled memory state).through id).recording cluster.currentStatus) :=
    Recorded.nil
  have hpass := World.run_of_ensures (world.keeps_any id)
    (hgoverns.ensures_reconcile settings hstart fun _ => hstart)
  rcases hpass with hrecorded | ⟨hend, hloss⟩
  · obtain ⟨hawaited, hrecords⟩ := Recorded.records_of_mem hrecorded hlog hreply
    have hnot : ¬ (response.cancels = true ∧ response.suspends = true) := by
      simpa using hawaited
    exact ⟨⟨fun _ => hnot, fun _ => hrecords⟩, fun hgiven => absurd hgiven hnot⟩
  · obtain ⟨earlier, request', response', held', hearlier, hgiven, hloss⟩ := hloss
    have hsplit := hloss.symm.trans hlog
    rcases snoc_eq_append_cons hsplit with ⟨heq, rfl⟩ | ⟨rest, hbefore, rfl⟩
    · cases heq
      have hboth : response.cancels = true ∧ response.suspends = true := by simpa using hgiven
      exact ⟨⟨by simp, fun hnot => absurd hboth hnot⟩, fun _ => ⟨rfl, hend⟩⟩
    · obtain ⟨hawaited, event, hmem, hrecords⟩ := hearlier.records_of_mem hbefore hreply
      have hnot : ¬ (response.cancels = true ∧ response.suspends = true) := by
        simpa using hawaited
      exact ⟨⟨fun _ => hnot, fun _ => ⟨event, List.mem_append_left _ hmem, hrecords⟩⟩,
        fun hgiven => absurd hgiven hnot⟩

/-- A guarded declaration of a cluster with one pool. -/
def workshop : ClusterDeclaration where
  metadata :=
    { Metadata.blank with
      name := some "workshop"
      inNamespace := some "default"
      finalizers := some [clusterFinalizer] }
  spec :=
    { region := "us-east"
      tokenSecretRef := ⟨"default", "token"⟩
      highAvailability := none
      nodePools := KeyMap.ofList [("workers", ⟨3, "g6-standard-1", none⟩)]
      kubernetesVersion := some "1.30"
      tags := none }
  status := none

/-- A remote cluster made for it. -/
def remoteWorkshop : RemoteCluster :=
  ⟨42, "workshop", "us-east", "1.30", "not_ready", [], ⟨false⟩⟩

/-- Its pool with two of the three nodes that are wanted, both of them ready. -/
def smallPool : RemotePool :=
  { id := 5
    count := 2
    instanceType := "g6-standard-1"
    tags := [Pools.tag "workers"]
    scaling := .off
    nodes := [⟨"5-a", some 101, readyStatus⟩, ⟨"5-b", some 102, readyStatus⟩] }

/-- A response that comes at once. -/
def promptly {α : Type} (reply : α) : Response α := ⟨reply, false, false⟩

/-- A world that accepts a cluster and writes its status. The pass is told to stop while the cluster
is created, and may have to wait for it. -/
def acceptingWorld (suspends : Bool) : World Unit where
  respond := fun
    | .connect _, s => (promptly (.ok ()), s)
    | .createCluster _, s => (⟨.ok remoteWorkshop, true, suspends⟩, s)
    | .patchStatus .., s => (promptly (.ok ()), s)
    | c, s => (promptly c.unreached, s)

/-- The log of a pass in that world before the cluster is created. -/
def logBeforeCreation : List Event :=
  [.exchange ⟨.connect workshop.spec.tokenSecretRef, promptly (.ok ()), false, .blank⟩,
   .checkpoint false, .checkpoint false]

/-- The log of a pass in that world. -/
def logOfWorkshop (suspends : Bool) : List Event :=
  ((acceptingWorld suspends).run (reconcile Settings.standard workshop)
    (.start false .blank ())).2.log

/-- The cluster is created and its identifier is never written, although the pass could have written
it: the creation was given up. -/
theorem accepted_creation_lost :
    logOfWorkshop true =
        logBeforeCreation ++ [.creation (creationRequest workshop "1.30")
          ⟨.ok remoteWorkshop, true, true⟩ true .blank] ∧
      ¬ ∃ event ∈ logOfWorkshop true, event.Records workshop remoteWorkshop.id := by
  have hlog : logOfWorkshop true =
      logBeforeCreation ++ [.creation (creationRequest workshop "1.30")
        ⟨.ok remoteWorkshop, true, true⟩ true .blank] := by rfl
  refine ⟨hlog, ?_⟩
  rintro ⟨event, hmem, hrecords⟩
  rw [hlog] at hmem
  simp only [logBeforeCreation, List.cons_append, List.nil_append, List.mem_cons,
    List.not_mem_nil, or_false] at hmem
  rcases hmem with rfl | rfl | rfl | rfl
  · obtain ⟨status, hcall, _⟩ := hrecords
    cases hcall
  · exact hrecords
  · exact hrecords
  · obtain ⟨status, hcall, _⟩ := hrecords
    cases hcall

/-- Where the provider does not keep the pass waiting, its identifier is written. -/
theorem accepted_creation_recorded_without_wait :
    ∃ after, logOfWorkshop false =
        logBeforeCreation ++ .creation (creationRequest workshop "1.30")
          ⟨.ok remoteWorkshop, true, false⟩ false .blank :: after ∧
      ∃ event ∈ after, event.Records workshop remoteWorkshop.id := by
  obtain ⟨after, hlog⟩ : ∃ after, logOfWorkshop false =
      logBeforeCreation ++ .creation (creationRequest workshop "1.30")
        ⟨.ok remoteWorkshop, true, false⟩ false .blank :: after := ⟨_, rfl⟩
  have hiff := accepted_creation_recorded_iff (acceptingWorld false) Settings.standard workshop
    false .blank () hlog rfl
  exact ⟨after, hlog, hiff.1.mpr (by simp)⟩

end ClusterKeeper
