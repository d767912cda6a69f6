import ClusterKeeper.Proofs.Pass.Invariance
/-!
What is left to show of a pass that may create a cluster.

An invariant does not hold between the provider's acceptance of a cluster and the write of its
identifier. A creation is sound for an invariant if it holds again after that write, or was never
broken since the provider refused; a creation that was given up is lost, and ends the pass.
-/

namespace ClusterKeeper

variable {σ : Type} {conduct : Conduct σ} {cluster : ClusterDeclaration}
  {inv idle lost : Scene σ → Prop}

/-- The status with a cluster that has just been created. -/
def ClusterStatus.withCreated (status : ClusterStatus) (id : ClusterId) : ClusterStatus where
  phase := .provisioning
  clusterId := some id
  pools := status.pools
  failureMessage := none

/-- The status with a fault. -/
def ClusterStatus.withFailure (status : ClusterStatus) (fault : Fault) : ClusterStatus :=
  { status with failureMessage := some fault.message }

/-- The call that creates a cluster, and the write after it, bring the invariant from one state to
the next, unless the creation is lost. -/
structure Conduct.Creates (conduct : Conduct σ) (cluster : ClusterDeclaration)
    (inv lost : Scene σ → Prop) (scene : Scene σ) (request : ClusterCreation) : Prop where
  lost : ∀ response state, conduct scene.state (.createCluster request) response state →
    (response.cancels && response.suspends) = true →
    lost (World.after scene (.createCluster request) response true state)
  refused : ∀ response state fault, conduct scene.state (.createCluster request) response state →
    (response.cancels && response.suspends) = false → response.reply = .error fault →
    inv (World.after scene (.createCluster request) response false state)
  recorded : ∀ response state remote, conduct scene.state (.createCluster request) response state →
    (response.cancels && response.suspends) = false → response.reply = .ok remote →
    let made := World.after scene (.createCluster request) response false state
    let status := scene.memory.withCreated remote.id
    ∀ written state', conduct state
      (.patchStatus cluster.inNamespace cluster.name status) written state' →
      inv (World.after (made.recording status)
        (.patchStatus cluster.inNamespace cluster.name status) written false state')

namespace Attempt

/-- What becomes of a cluster that the provider accepted. -/
def recordCreated (cluster : ClusterDeclaration) (id : ClusterId) : Attempt Unit := do
  modifyStatus fun status => { status with phase := .provisioning, clusterId := some id }
  persist cluster

theorem ensures_recordCreated (id : ClusterId) {scene : Scene σ}
    (post : Except Fault Unit → Scene σ → Prop) :
    Ensures conduct (recordCreated cluster id) post scene ↔
      conduct.onCall (.patchStatus cluster.inNamespace cluster.name (scene.memory.withCreated id))
        post (scene.recording (scene.memory.withCreated id)) := Iff.rfl

/-- What an invariant comes to where a cluster may have been created. -/
def UnlessLost (inv lost : Scene σ → Prop) {α : Type} (r : Except Fault α) (scene : Scene σ) :
    Prop :=
  inv scene ∨ r = .error .cancelled ∧ lost scene

end Attempt

/-- A pass that connects fails where it is refused, and else goes on as the attempt ends. -/
theorem Pass.ensures_connected {attempt : Attempt Progress} {finish : Progress → Pass PassEnd}
    {post : PassEnd → Scene σ → Prop} {scene : Scene σ}
    (hrefused : ∀ response state fault,
      conduct scene.state (.connect cluster.spec.tokenSecretRef) response state →
      response.reply = .error fault → Pass.Ensures conduct (failPass cluster fault) post
        (World.after scene (.connect cluster.spec.tokenSecretRef) response false state))
    (hattempt : ∀ response state,
      conduct scene.state (.connect cluster.spec.tokenSecretRef) response state →
      response.reply = .ok () → Attempt.Ensures conduct attempt (fun
        | .ok progress, scene' => Pass.Ensures conduct (finish progress) post scene'
        | .error fault, scene' => Pass.Ensures conduct (failPass cluster fault) post scene')
        (World.after scene (.connect cluster.spec.tokenSecretRef) response false state)) :
    Pass.Ensures conduct (connected cluster attempt finish) post scene := by
  unfold connected
  refine (Pass.ensures_bind _ _ _).mpr ?_
  intro response state hconduct
  cases hreply : (response.reply : Except Fault Unit) with
  | error fault => exact hrefused response state fault hconduct hreply
  | ok _ =>
      refine (Pass.ensures_bind _ _ _).mpr ?_
      refine Pass.Ensures.mono (hattempt response state hconduct hreply) fun r scene' hscene => ?_
      cases r <;> exact hscene

/-- A failure is written with the status in memory, unless the pass was told to stop. -/
theorem Pass.ensures_recordFailure (fault : Fault) (post : Unit → Scene σ → Prop)
    {scene : Scene σ} :
    Pass.Ensures conduct (recordFailure cluster fault) post scene ↔
      if fault = .cancelled then post () scene
      else conduct.onCall
        (.patchStatus cluster.inNamespace cluster.name (scene.memory.withFailure fault))
        (fun _ => post ()) (scene.recording (scene.memory.withFailure fault)) := by
  rw [recordFailure]
  split <;> exact Iff.rfl

/-- A pass that connects keeps an invariant that the attempt and a record of its failure keep. -/
theorem Pass.ensures_connected_of_kept {attempt : Attempt Progress}
    {finish : Progress → Pass PassEnd} {post : PassEnd → Scene σ → Prop}
    (hcalls : conduct.Preserves (· = .connect cluster.spec.tokenSecretRef) inv)
    (hrecords : ∀ fault scene, inv scene →
      Pass.Ensures conduct (recordFailure cluster fault) (fun _ => inv) scene)
    (hfailed : ∀ fault scene, inv scene → post (.failed fault) scene)
    (hattempt : ∀ scene, inv scene → Attempt.Ensures conduct attempt (fun
      | .ok progress, scene' => Pass.Ensures conduct (finish progress) post scene'
      | .error _, scene' => inv scene') scene)
    {scene : Scene σ} (hinv : inv scene) :
    Pass.Ensures conduct (connected cluster attempt finish) post scene := by
  have hfail : ∀ fault scene, inv scene →
      Pass.Ensures conduct (failPass cluster fault) post scene := by
    intro fault scene hscene
    rw [failPass, Pass.ensures_bind]
    exact (hrecords fault scene hscene).mono fun _ scene' => hfailed fault scene'
  have hafter := fun response state hconduct =>
    hcalls.after scene (.connect cluster.spec.tokenSecretRef) response false state rfl hconduct hinv
  apply Pass.ensures_connected
  · intro response state fault hconduct _
    exact hfail fault _ (hafter response state hconduct)
  · intro response state hconduct _
    refine (hattempt _ (hafter response state hconduct)).mono fun r scene' hscene => ?_
    cases r with
    | ok progress => exact hscene
    | error fault => exact hfail fault scene' hscene

/-- A resource that carries the finalizer is left alone, and any other is asked to carry it. -/
theorem Pass.ensures_guardResource {post : Except Fault Unit → Scene σ → Prop} {scene : Scene σ}
    (hcarried : cluster.isGuarded = true → post (.ok ()) scene)
    (hasked : ∀ response state,
      conduct scene.state (.addFinalizer cluster.inNamespace cluster.name) response state →
      post response.reply
        (World.after scene (.addFinalizer cluster.inNamespace cluster.name) response false state)) :
    Pass.Ensures conduct (guardResource cluster) post scene := by
  by_cases hguarded : cluster.isGuarded = true
  · have hdone : guardResource cluster = .done (.ok ()) := if_pos hguarded
    rw [hdone]
    exact hcarried hguarded
  · have hcall : guardResource cluster =
        Pass.call (.addFinalizer cluster.inNamespace cluster.name) := if_neg hguarded
    rw [hcall]
    exact hasked

namespace Conduct.Upholds

open Attempt

/-- Creating a cluster keeps the invariant or loses the cluster. -/
theorem ensures_create (h : conduct.Upholds cluster inv)
    (hidle : conduct.Preserves Call.IsRoutine idle) (himp : ∀ scene, idle scene → inv scene)
    (hcreates : ∀ scene version, idle scene →
      conduct.Creates cluster inv lost scene (creationRequest cluster version))
    {scene : Scene σ} (hscene : idle scene) :
    Ensures conduct (create cluster) (UnlessLost inv lost) scene := by
  refine (hidle.step ((chooseVersion_only _).mono ?_) hscene).bind ?_ ?_
  · rintro _ rfl
    exact trivial
  · intro version scene hscene
    have hchecked := hidle.checked scene hscene
    have hnext := hcreates scene.checked version hchecked
    rw [ensures_bind]
    refine (ensures_step_ask (.createCluster (creationRequest cluster version))
      (fun (reply : Except ProviderFault RemoteCluster) =>
        reply.mapError (.provider "create cluster")) _).mpr ?_
    split
    · exact Or.inl (himp _ hchecked)
    · intro response state hconduct
      split
      · next hgiven => exact Or.inr ⟨rfl, hnext.lost response state hconduct hgiven⟩
      · next hgiven =>
          have hgiven : (response.cancels && response.suspends) = false := by simpa using hgiven
          cases hreply : (response.reply : Except ProviderFault RemoteCluster) with
          | error fault => exact Or.inl (hnext.refused response state fault hconduct hgiven hreply)
          | ok remote =>
              have hrecorded := hnext.recorded response state remote hconduct hgiven hreply
              change Ensures conduct (recordCreated cluster remote.id >>= fun _ => _) _ _
              rw [ensures_bind, ensures_recordCreated]
              intro written state' hwritten
              have hinv := hrecorded written state' hwritten
              cases hreply' : (written.reply : Except Fault Unit) with
              | error fault => exact Or.inl hinv
              | ok _ =>
                  have hrest : Keeps conduct inv (do
                      observePools remote.id
                      persist cluster
                      return Progress.inFlight) := by
                    rw [← bind_assoc]
                    exact (h.inherited.observed remote.id).bind fun _ => keeps_pure _
                  exact (hrest _ hinv).mono fun _ _ => Or.inl
  · intro fault scene hscene
    exact Or.inl (himp _ hscene)

/-- Bringing a cluster nearer to its declaration keeps the invariant or loses a cluster. Where one
is created, none is recorded or the provider does not know it. -/
theorem ensures_converge (h : conduct.Upholds cluster inv)
    (hidle : conduct.Preserves Call.IsRoutine idle) (himp : ∀ scene, idle scene → inv scene)
    (hcreates : ∀ scene version, idle scene →
      conduct.Creates cluster inv lost scene (creationRequest cluster version))
    (hnone : ∀ scene, inv scene → scene.memory.clusterId = none → idle scene)
    (hgone : ∀ scene id response state, inv scene → scene.memory.clusterId = some id →
      conduct scene.state (.getCluster id) response state → response.reply = .error .notFound →
      idle (World.after scene (.getCluster id) response false state))
    {scene : Scene σ} (hinv : inv scene) :
    Ensures conduct (converge cluster) (UnlessLost inv lost) scene := by
  have hkeeps : ∀ {α : Type} {attempt : Attempt α} {scene : Scene σ},
      Keeps conduct inv attempt → inv scene →
        Ensures conduct attempt (UnlessLost inv lost) scene := by
    intro α attempt scene hattempt hscene
    exact (hattempt scene hscene).mono fun _ _ => Or.inl
  rw [converge, ensures_bind, ensures_status, Dialogue.orFault_ok]
  cases hid : scene.memory.clusterId with
  | none => exact h.ensures_create hidle himp hcreates (hnone scene hinv hid)
  | some id =>
      have hchecked := h.checked scene hinv
      refine h.toPreserves.ensures_ask (c := .getCluster id) trivial ?_ ?_ hinv
      · exact fun scene hscene => Or.inl hscene
      · intro response state hconduct hafter
        cases hreply : (response.reply : Except ProviderFault RemoteCluster) with
        | ok remote => exact hkeeps (h.inherited.update remote) hafter
        | error cause =>
            cases cause with
            | notFound =>
                exact h.ensures_create hidle himp hcreates
                  (hgone scene.checked id response state hchecked hid hconduct hreply)
            | notAvailable => exact Or.inl hafter
            | refused status message => exact Or.inl hafter
            | transport reason => exact Or.inl hafter

theorem ensures_recordFailure (h : conduct.Upholds cluster inv) (fault : Fault) {scene : Scene σ}
    (hinv : inv scene) :
    Pass.Ensures conduct (recordFailure cluster fault) (fun _ => inv) scene := by
  unfold recordFailure
  split
  · exact hinv
  · rw [Pass.ensures_bind, Pass.ensures_memory, Pass.ensures_bind, Pass.ensures_record,
      Pass.ensures_bind, Pass.ensures_call]
    intro response state hconduct
    exact h.patched _ response state hconduct (h.recording scene _ rfl hinv)

/-- A pass that connects goes on as the attempt ends; where it fails, the invariant is kept or a
cluster is lost. -/
theorem ensures_connected (lost : Scene σ → Prop) (h : conduct.Upholds cluster inv)
    {attempt : Attempt Progress} {finish : Progress → Pass PassEnd} {post : PassEnd → Scene σ → Prop}
    (hfailed : ∀ fault scene, inv scene → post (.failed fault) scene)
    (hlost : ∀ scene, lost scene → post (.failed .cancelled) scene)
    (hattempt : ∀ scene, inv scene → Ensures conduct attempt (fun
      | .ok progress, scene' => Pass.Ensures conduct (finish progress) post scene'
      | .error fault, scene' =>
          inv scene' ∨ fault = .cancelled ∧ lost scene') scene)
    {scene : Scene σ} (hinv : inv scene) :
    Pass.Ensures conduct (connected cluster attempt finish) post scene := by
  have hfail : ∀ fault scene, inv scene →
      Pass.Ensures conduct (failPass cluster fault) post scene := by
    intro fault scene hscene
    rw [failPass, Pass.ensures_bind]
    exact (h.ensures_recordFailure fault hscene).mono fun _ scene' => hfailed fault scene'
  have hafter := fun response state hconduct =>
    h.after scene (.connect cluster.spec.tokenSecretRef) response false state trivial hconduct hinv
  apply Pass.ensures_connected
  · intro response state fault hconduct _
    exact hfail fault _ (hafter response state hconduct)
  · intro response state hconduct _
    refine (hattempt _ (hafter response state hconduct)).mono fun r scene' hscene => ?_
    cases r with
    | ok progress => exact hscene
    | error fault =>
        rcases hscene with hscene | ⟨rfl, hscene⟩
        · exact hfail fault scene' hscene
        · exact hlost scene' hscene

end Conduct.Upholds

end ClusterKeeper
