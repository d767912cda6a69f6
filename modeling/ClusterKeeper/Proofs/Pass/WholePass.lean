import ClusterKeeper.Proofs.Pass.Creation
/-!
Invariants of whole passes.

A pass goes through scenes of several kinds: any scene of it, those of a resource that is surely
guarded, those in which no cluster is left, and the end at a creation that was given up. What the
collaborators must do for an invariant to survive every way through the pass is listed once, in
`Conduct.Governs`; `ensures_reconcile` is the walk through the pass.
-/

namespace ClusterKeeper

variable {σ : Type} {conduct : Conduct σ} {cluster : ClusterDeclaration}
  {inv guarded vacant lost : Scene σ → Prop}

/-- What the collaborators must do for an invariant of a whole pass. -/
structure Conduct.Governs (conduct : Conduct σ) (cluster : ClusterDeclaration)
    (inv guarded vacant lost : Scene σ → Prop) : Prop where
  upholds : conduct.Upholds cluster inv
  upholdsGuarded : conduct.Upholds cluster guarded
  preservesVacant : conduct.Preserves Call.IsRoutine vacant
  inv_of_guarded : ∀ scene, guarded scene → inv scene
  /-- A resource that gets the finalizer is guarded. -/
  added : ∀ scene response state,
    conduct scene.state (.addFinalizer cluster.inNamespace cluster.name) response state →
    inv scene → response.reply = .ok () →
    guarded
      (World.after scene (.addFinalizer cluster.inNamespace cluster.name) response false state)
  notAdded : ∀ scene response state fault,
    conduct scene.state (.addFinalizer cluster.inNamespace cluster.name) response state →
    inv scene → response.reply = .error fault →
    inv (World.after scene (.addFinalizer cluster.inNamespace cluster.name) response false state)
  /-- Where no identifier is recorded, no cluster is left. -/
  vacant_of_none : ∀ scene, inv scene → scene.memory.clusterId = none → vacant scene
  /-- Where the provider does not know the recorded cluster, no cluster is left. -/
  unknown : ∀ scene id response state, inv scene → scene.memory.clusterId = some id →
    conduct scene.state (.getCluster id) response state → response.reply = .error .notFound →
    vacant (World.after scene (.getCluster id) response false state)
  deleted : ∀ scene id response state, inv scene → scene.memory.clusterId = some id →
    conduct scene.state (.deleteCluster id) response state → response.reply = .error .notFound →
    vacant (World.after scene (.deleteCluster id) response false state)
  creates : ∀ scene version, guarded scene → vacant scene →
    conduct.Creates cluster guarded lost scene (creationRequest cluster version)
  released : ∀ scene response state, vacant scene →
    conduct scene.state (.removeFinalizer cluster.inNamespace cluster.name) response state →
    inv (World.after scene (.removeFinalizer cluster.inNamespace cluster.name) response false state)

namespace Conduct.Governs

open Attempt

theorem ensures_releaseResource (h : conduct.Governs cluster inv guarded vacant lost)
    (ending : PassEnd) {scene : Scene σ} (hvacant : vacant scene) :
    Pass.Ensures conduct (releaseResource cluster ending) (fun _ => inv) scene := by
  refine (Pass.ensures_bind _ _ _).mpr ?_
  intro response state hconduct
  have hinv := h.released scene response state hvacant hconduct
  cases hreply : (response.reply : Except Fault Unit) with
  | ok _ => exact hinv
  | error fault => exact hinv

/-- Where the provider does not know the cluster that is to be deleted, none is left. -/
def settledVacant (inv vacant : Scene σ → Prop) : Except Fault Progress → Scene σ → Prop
  | .ok .settled, scene => vacant scene
  | .ok .inFlight, scene => inv scene
  | .error _, scene => inv scene

theorem ensures_requestDeletion (h : conduct.Governs cluster inv guarded vacant lost)
    {id : ClusterId} {scene : Scene σ} (hinv : inv scene) (hid : scene.memory.clusterId = some id) :
    Ensures conduct (requestDeletion id) (settledVacant inv vacant) scene := by
  have hchecked := h.upholds.checked scene hinv
  refine h.upholds.toPreserves.ensures_ask (c := .deleteCluster id) trivial ?_ ?_ hinv
  · exact fun scene hscene => hscene
  · intro response state hconduct hafter
    cases hreply : (response.reply : Except ProviderFault Unit) with
    | ok _ => exact hafter
    | error cause =>
        cases cause with
        | notFound => exact h.deleted scene.checked id response state hchecked hid hconduct hreply
        | notAvailable => exact hafter
        | refused status message => exact hafter
        | transport reason => exact hafter

theorem ensures_tearDown (h : conduct.Governs cluster inv guarded vacant lost) {scene : Scene σ}
    (hinv : inv scene) :
    Ensures conduct (tearDown cluster) (settledVacant inv vacant) scene := by
  rw [tearDown, ensures_bind, ensures_status, Dialogue.orFault_ok]
  cases hid : scene.memory.clusterId with
  | none => exact hinv
  | some id =>
      have hupholds := h.upholds.and (Upholds.memory_clusterId conduct cluster (some id))
      refine (hupholds.inherited.enter .deleting scene ⟨hinv, hid⟩).bind ?_ ?_
      · intro _ scene hscene
        obtain ⟨hinv, hid⟩ := hscene
        have hchecked := h.upholds.checked scene hinv
        refine h.upholds.toPreserves.ensures_ask (c := .getCluster id) trivial ?_ ?_ hinv
        · exact fun scene hscene => hscene
        · intro response state hconduct hafter
          cases hreply : (response.reply : Except ProviderFault RemoteCluster) with
          | ok remote => exact h.ensures_requestDeletion hafter hid
          | error cause =>
              cases cause with
              | notFound =>
                  exact h.unknown scene.checked id response state hchecked hid hconduct hreply
              | notAvailable => exact hafter
              | refused status message => exact hafter
              | transport reason => exact hafter
      · intro fault scene hscene
        exact hscene.1

/-- What becomes of an invariant in a whole pass. -/
def KeptOrLost (inv lost : Scene σ → Prop) (ending : PassEnd) (scene : Scene σ) : Prop :=
  inv scene ∨ ending = .failed .cancelled ∧ lost scene

theorem ensures_reconcileDeletion (h : conduct.Governs cluster inv guarded vacant lost)
    (settings : Settings) {scene : Scene σ} (hinv : inv scene)
    (hmemory : scene.memory = cluster.currentStatus) :
    Pass.Ensures conduct (reconcileDeletion settings cluster) (KeptOrLost inv lost) scene := by
  unfold reconcileDeletion
  split
  · exact Or.inl hinv
  · split
    · next hnone =>
        have hvacant : vacant scene := by
          refine h.vacant_of_none scene hinv ?_
          rw [hmemory]
          exact Option.isNone_iff_eq_none.mp hnone
        exact (h.ensures_releaseResource .idle hvacant).mono fun _ _ => Or.inl
    · refine h.upholds.ensures_connected lost ?_ ?_ ?_ hinv
      · exact fun fault scene hscene => Or.inl hscene
      · exact fun scene hscene => Or.inr ⟨rfl, hscene⟩
      · intro scene hscene
        refine (h.ensures_tearDown hscene).mono fun r scene' hend => ?_
        rcases r with fault | progress
        · exact Or.inl hend
        · cases progress with
          | settled => exact (h.ensures_releaseResource _ hend).mono fun _ _ => Or.inl
          | inFlight => exact Or.inl hend

theorem ensures_guardResource (h : conduct.Governs cluster inv guarded vacant lost)
    {scene : Scene σ} (hinv : inv scene) (hcarried : cluster.isGuarded = true → guarded scene) :
    Pass.Ensures conduct (guardResource cluster) (fun
      | .ok (), scene' => guarded scene'
      | .error _, scene' => inv scene') scene := by
  apply Pass.ensures_guardResource
  · exact hcarried
  · intro response state hconduct
    cases hreply : (response.reply : Except Fault Unit) with
    | ok _ => exact h.added scene response state hconduct hinv hreply
    | error fault => exact h.notAdded scene response state fault hconduct hinv hreply

theorem ensures_reconcileChange (h : conduct.Governs cluster inv guarded vacant lost)
    (settings : Settings) {scene : Scene σ} (hinv : inv scene)
    (hcarried : cluster.isGuarded = true → guarded scene) :
    Pass.Ensures conduct (reconcileChange settings cluster) (KeptOrLost inv lost) scene := by
  have hidle := h.upholdsGuarded.toPreserves.and h.preservesVacant
  unfold reconcileChange
  split
  · next fault hvalid =>
      rw [Pass.ensures_bind]
      exact (h.upholds.ensures_recordFailure fault hinv).mono fun _ _ => Or.inl
  · rw [Pass.ensures_bind]
    refine (h.ensures_guardResource hinv hcarried).mono fun r scene' hguard => ?_
    rcases r with fault | ⟨⟩
    · exact Or.inl hguard
    · refine h.upholdsGuarded.ensures_connected lost ?_ ?_ ?_ hguard
      · exact fun fault scene hscene => Or.inl (h.inv_of_guarded scene hscene)
      · exact fun scene hscene => Or.inr ⟨rfl, hscene⟩
      · intro scene hscene
        refine (h.upholdsGuarded.ensures_converge hidle (fun _ h' => h'.1)
          (fun scene version h' => h.creates scene version h'.1 h'.2) ?_ ?_ hscene).mono ?_
        · intro scene hscene hnone
          exact ⟨hscene, h.vacant_of_none scene (h.inv_of_guarded scene hscene) hnone⟩
        · intro scene id response state hscene hid hconduct hreply
          refine ⟨h.upholdsGuarded.after scene _ response false state trivial hconduct hscene, ?_⟩
          exact h.unknown scene id response state (h.inv_of_guarded scene hscene) hid hconduct
            hreply
        · intro r scene' hend
          rcases r with fault | progress
          · rcases hend with hend | ⟨hfault, hend⟩
            · exact Or.inl hend
            · exact Or.inr ⟨Except.error.inj hfault, hend⟩
          · rcases hend with hend | ⟨hfault, _⟩
            · exact Or.inl (h.inv_of_guarded scene' hend)
            · exact absurd hfault (by simp)

/-- An invariant that holds with the status on record holds after the pass, unless a creation was
given up and the pass ended there. A resource that carries the finalizer must be guarded at the
beginning. -/
theorem ensures_reconcile (h : conduct.Governs cluster inv guarded vacant lost)
    (settings : Settings) {scene : Scene σ} (hinv : inv (scene.recording cluster.currentStatus))
    (hcarried : cluster.isGuarded = true → guarded (scene.recording cluster.currentStatus)) :
    Pass.Ensures conduct (reconcile settings cluster) (KeptOrLost inv lost) scene := by
  rw [reconcile, Pass.ensures_bind, Pass.ensures_record]
  split
  · exact h.ensures_reconcileDeletion settings hinv rfl
  · exact h.ensures_reconcileChange settings hinv hcarried

end Conduct.Governs

end ClusterKeeper
