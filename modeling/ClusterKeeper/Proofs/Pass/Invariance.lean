import ClusterKeeper.Pass.Reconcile
import ClusterKeeper.Proofs.Logic.Pass
import ClusterKeeper.Proofs.Pass.CallKinds
/-!
Invariants of passes.

An invariant of scenes is upheld by the collaborators of a pass if routine calls keep it, if writing
the status in memory keeps it, and if it does not depend on more of that status than the identifier
of the cluster. Such an invariant is kept by every part of a pass but the creation of a cluster, for
which `Upholds.create` says what is left to show.
-/

namespace ClusterKeeper

variable {σ α β : Type} {conduct : Conduct σ} {cluster : ClusterDeclaration}
  {inv : Scene σ → Prop} {scene : Scene σ}

/-- The invariant is kept by calls of a kind, and by looking whether to stop. -/
structure Conduct.Preserves (conduct : Conduct σ) (kind : Call → Prop) (inv : Scene σ → Prop) :
    Prop where
  checked : ∀ scene, inv scene → inv scene.checked
  after : ∀ scene c response abandoned state, kind c → conduct scene.state c response state →
    inv scene → inv (World.after scene c response abandoned state)

/-- An invariant of what was exchanged, which another call of the kind keeps. -/
theorem Conduct.preserves_exchanges {kind : Call → Prop} {inv : List Exchange → Prop}
    (h : ∀ exchanges c response abandoned memory, kind c → inv exchanges →
      inv (exchanges ++ [⟨c, response, abandoned, memory⟩])) :
    conduct.Preserves kind fun scene => inv scene.exchanges where
  checked := by
    intro scene hinv
    rwa [Scene.exchanges_checked]
  after := by
    intro scene c response abandoned state hkind _ hinv
    rw [Scene.exchanges_after]
    exact h _ c response abandoned _ hkind hinv

namespace Conduct.Preserves

variable {kind : Call → Prop}

theorem abandonable (h : conduct.Preserves kind inv) {calls : Calls α} (hcalls : calls.Only kind)
    (hinv : inv scene) :
    Pass.Ensures conduct (Pass.abandonable calls) (fun _ => inv) scene := by
  induction calls generalizing scene with
  | done a => exact hinv
  | ask c next ih =>
      rw [Pass.ensures_abandonable_ask]
      intro response state hconduct
      have hafter := h.after scene c response
        ((scene.cancelled || response.cancels) && response.suspends) state hcalls.1 hconduct hinv
      dsimp only
      split
      · next hreply => exact ih _ (hcalls.2 _) hafter
      · exact hafter

theorem calls (h : conduct.Preserves kind inv) {calls : Calls α} (hcalls : calls.Only kind)
    (hinv : inv scene) :
    Attempt.Ensures conduct (Attempt.calls calls) (fun _ => inv) scene := by
  rw [Attempt.ensures_calls, Pass.ensures_interruptible]
  have hchecked := h.checked scene hinv
  split
  · exact hchecked
  · refine (h.abandonable hcalls hchecked).mono fun o scene' hscene => ?_
    cases o <;> exact hscene

theorem mono {narrow : Call → Prop} (h : conduct.Preserves kind inv)
    (hkind : ∀ c, narrow c → kind c) : conduct.Preserves narrow inv where
  checked := h.checked
  after := fun scene c response abandoned state hc =>
    h.after scene c response abandoned state (hkind c hc)

/-- The status in memory is not changed by calls. -/
theorem memory (conduct : Conduct σ) (kind : Call → Prop) (p : ClusterStatus → Prop) :
    conduct.Preserves kind fun scene => p scene.memory where
  checked := fun _ h => h
  after := fun _ _ _ _ _ _ _ h => h

/-- Invariants that are kept one by one are kept together. -/
theorem and {other : Scene σ → Prop} (h : conduct.Preserves kind inv)
    (hother : conduct.Preserves kind other) :
    conduct.Preserves kind fun scene => inv scene ∧ other scene where
  checked := by
    intro scene hscene
    exact ⟨h.checked scene hscene.1, hother.checked scene hscene.2⟩
  after := by
    intro scene c response abandoned state hkind hconduct hscene
    constructor
    · exact h.after scene c response abandoned state hkind hconduct hscene.1
    · exact hother.after scene c response abandoned state hkind hconduct hscene.2

theorem step (h : conduct.Preserves kind inv) {step : Step α} (hstep : step.run.Only kind)
    (hinv : inv scene) :
    Attempt.Ensures conduct (Attempt.step step) (fun _ => inv) scene := by
  rw [Attempt.ensures_step]
  refine (h.calls hstep hinv).mono fun r scene' hscene => ?_
  cases r <;> exact hscene

/-- A call that can be interrupted, in an attempt that goes on with the reply. -/
theorem ensures_ask (h : conduct.Preserves kind inv) {c : Call} (hc : kind c)
    {next : c.Reply → Attempt β} {post : Except Fault β → Scene σ → Prop}
    (hstop : ∀ scene, inv scene → post (.error .cancelled) scene)
    (hreply : ∀ response state, conduct scene.state c response state →
      inv (World.after scene.checked c response false state) →
      Attempt.Ensures conduct (next response.reply) post
        (World.after scene.checked c response false state)) (hinv : inv scene) :
    Attempt.Ensures conduct (Attempt.calls c.ask >>= next) post scene := by
  have hchecked := h.checked scene hinv
  rw [Attempt.ensures_bind]
  refine (Attempt.ensures_calls_ask c (fun reply => reply) _).mpr ?_
  split
  · exact hstop _ hchecked
  · intro response state hconduct
    have hafter := fun abandoned =>
      h.after scene.checked c response abandoned state hc hconduct hchecked
    split
    · exact hstop _ (hafter true)
    · exact hreply response state hconduct (hafter false)

end Conduct.Preserves

namespace Attempt

/-- What an update does after it was announced. -/
def updateAnnounced (cluster : ClusterDeclaration) (remote : RemoteCluster) : Attempt Progress := do
  step <| Step.provider "update cluster"
    (Call.updateCluster remote.id (updateRequest cluster remote)).ask
  convergePools cluster remote.id
  unless ← step (Credentials.sync cluster remote.id) do return .inFlight
  unless ← step (isReady remote.id) do return .inFlight
  markActive cluster
  return .settled

theorem update_eq (cluster : ClusterDeclaration) (remote : RemoteCluster) :
    update cluster remote =
      if settingsDiffer cluster remote then
        enter cluster .updating >>= fun _ => updateAnnounced cluster remote
      else updateAnnounced cluster remote := rfl

/-- A property that attempts have from their parts: from routine calls, and from changes of the
status in memory that leave the identifier and are written at once. -/
structure Inherited (cluster : ClusterDeclaration) (P : (α : Type) → Attempt α → Prop) : Prop where
  value : ∀ {α : Type} (a : α), P α (pure a)
  fault : ∀ {α : Type} (fault : Fault), P α (throw fault)
  bind : ∀ {α β : Type} {attempt : Attempt α} {next : α → Attempt β}, P α attempt →
    (∀ a, P β (next a)) → P β (attempt >>= next)
  status : P ClusterStatus status
  calls : ∀ {α : Type} {sequence : Calls α}, sequence.Only Call.IsRoutine → P α (calls sequence)
  change : ∀ {change : ClusterStatus → ClusterStatus},
    (∀ status, (change status).clusterId = status.clusterId) →
    P Unit (modifyStatus change >>= fun _ => persist cluster)

namespace Inherited

variable {P : (α : Type) → Attempt α → Prop} (h : Inherited cluster P)
include h

theorem step {s : Step α} (hs : s.run.Only Call.IsRoutine) : P α (Attempt.step s) := by
  refine h.bind (h.calls hs) fun r => ?_
  cases r with
  | ok a => exact h.value a
  | error fault => exact h.fault fault

theorem enter (phase : Phase) : P Unit (Attempt.enter cluster phase) := by
  refine h.bind h.status fun status => ?_
  split
  · exact h.value ()
  · exact h.change fun _ => rfl

/-- The pools that the provider reports are recorded at once. -/
theorem observed (id : ClusterId) : P Unit (observePools id >>= fun _ => persist cluster) := by
  rw [observePools, bind_assoc]
  have hlist : (Call.listPools id).ask.Only Call.IsRoutine := ⟨trivial, fun _ => trivial⟩
  refine h.bind (h.step (Step.only_provider hlist)) fun listing => ?_
  exact h.change fun _ => rfl

theorem convergePools (id : ClusterId) : P Unit (Attempt.convergePools cluster id) := by
  have hlist : (Call.listPools id).ask.Only Call.IsRoutine := ⟨trivial, fun _ => trivial⟩
  refine h.bind (h.step (Step.only_provider hlist)) fun listing => ?_
  dsimp only
  split
  · refine h.bind h.status fun status => ?_
    split
    · exact h.value ()
    · exact h.change fun _ => rfl
  · refine h.bind (h.enter .updating) fun _ => ?_
    refine h.bind (h.step ((PoolPlan.apply_only id _).mono fun c hc => ?_)) fun _ => h.observed id
    obtain ⟨action, _, rfl⟩ := hc
    exact action.isRoutine_toCall id

theorem markActive : P Unit (Attempt.markActive cluster) := by
  refine h.bind h.status fun status => ?_
  split
  · exact h.value ()
  · exact h.change fun _ => rfl

theorem update (remote : RemoteCluster) : P Progress (Attempt.update cluster remote) := by
  have hsync : P Bool (Attempt.step (Credentials.sync cluster remote.id)) := by
    refine h.step ((Credentials.sync_only cluster remote.id).mono fun c hc => ?_)
    rcases hc with rfl | hc
    · exact trivial
    · exact hc.isRoutine
  have hready : P Bool (Attempt.step (isReady remote.id)) := by
    refine h.step ((isReady_only remote.id).mono fun c hc => ?_)
    rcases hc with rfl | rfl <;> exact trivial
  have hannounced : P Progress (updateAnnounced cluster remote) := by
    have hask : (Call.updateCluster remote.id (updateRequest cluster remote)).ask.Only
        Call.IsRoutine := ⟨trivial, fun _ => trivial⟩
    refine h.bind (h.step (Step.only_provider hask)) fun _ => ?_
    refine h.bind (h.convergePools remote.id) fun _ => ?_
    refine h.bind hsync fun synced => ?_
    split
    · refine h.bind hready fun ready => ?_
      split
      · exact h.bind h.markActive fun _ => h.value _
      · exact h.value _
    · exact h.value _
  rw [update_eq]
  split
  · exact h.bind (h.enter .updating) fun _ => hannounced
  · exact hannounced

theorem tearDown : P Progress (Attempt.tearDown cluster) := by
  have hask : ∀ c : Call, c.IsRoutine → P c.Reply (Attempt.calls c.ask) :=
    fun c hc => h.calls (Dialogue.only_question hc)
  refine h.bind h.status fun status => ?_
  split
  · exact h.fault _
  · refine h.bind (h.enter .deleting) fun _ => ?_
    refine h.bind (hask (.getCluster _) trivial) fun reply => ?_
    split
    · refine h.bind (hask (.deleteCluster _) trivial) fun reply => ?_
      split
      · exact h.value _
      · exact h.value _
      · exact h.fault _
    · exact h.value _
    · exact h.fault _

end Inherited

/-- The invariant holds wherever the attempt ends that began with it. -/
def Keeps (conduct : Conduct σ) (inv : Scene σ → Prop) (attempt : Attempt α) : Prop :=
  ∀ scene, inv scene → Attempt.Ensures conduct attempt (fun _ => inv) scene

theorem keeps_pure (a : α) : Keeps conduct inv (pure a) := fun _ h => h

theorem keeps_status : Keeps conduct inv status := fun _ h => h

theorem Keeps.bind {attempt : Attempt α} {next : α → Attempt β} (h : Keeps conduct inv attempt)
    (hnext : ∀ a, Keeps conduct inv (next a)) : Keeps conduct inv (attempt >>= next) :=
  fun scene hinv => (h scene hinv).bind (fun a scene' hscene => hnext a scene' hscene)
    fun _ _ hscene => hscene

end Attempt

/-- Nothing that a pass does apart from creating a cluster breaks the invariant. -/
structure Conduct.Upholds (conduct : Conduct σ) (cluster : ClusterDeclaration)
    (inv : Scene σ → Prop) : Prop extends conduct.Preserves Call.IsRoutine inv where
  recording : ∀ scene status, status.clusterId = scene.memory.clusterId → inv scene →
    inv (scene.recording status)
  patched : ∀ scene response state,
    conduct scene.state (.patchStatus cluster.inNamespace cluster.name scene.memory) response
      state → inv scene →
    inv (World.after scene (.patchStatus cluster.inNamespace cluster.name scene.memory) response
      false state)

namespace Conduct.Upholds

open Attempt

theorem and {other : Scene σ → Prop} (h : conduct.Upholds cluster inv)
    (hother : conduct.Upholds cluster other) :
    conduct.Upholds cluster fun scene => inv scene ∧ other scene where
  toPreserves := h.toPreserves.and hother.toPreserves
  recording := by
    intro scene status hstatus hscene
    exact ⟨h.recording scene status hstatus hscene.1,
      hother.recording scene status hstatus hscene.2⟩
  patched := by
    intro scene response state hconduct hscene
    exact ⟨h.patched scene response state hconduct hscene.1,
      hother.patched scene response state hconduct hscene.2⟩

/-- The identifier in memory does not change while no cluster is created. -/
theorem memory_clusterId (conduct : Conduct σ) (cluster : ClusterDeclaration)
    (id : Option ClusterId) : conduct.Upholds cluster fun scene => scene.memory.clusterId = id where
  checked := fun _ h => h
  after := fun _ _ _ _ _ _ _ h => h
  recording := fun _ _ hstatus h => hstatus.trans h
  patched := fun _ _ _ _ h => h

/-- To keep an invariant that is upheld comes from the parts of an attempt. -/
theorem inherited (h : conduct.Upholds cluster inv) :
    Inherited cluster fun _ => Keeps conduct inv where
  value := keeps_pure
  fault := fun _ _ hinv => hinv
  bind := Keeps.bind
  status := keeps_status
  calls := fun hcalls _ hinv => h.toPreserves.calls hcalls hinv
  change := by
    intro change hchange scene hinv
    rw [ensures_bind, ensures_modifyStatus, Dialogue.orFault_ok, ensures_persist]
    intro response state hconduct
    refine h.patched _ response state hconduct (h.recording scene _ ?_ hinv)
    exact hchange scene.memory

end Conduct.Upholds

end ClusterKeeper
