import ClusterKeeper.Proofs.Pass.Erasure
/-!
The stages of a pass.

A pass first finds out whether there is anything to do with the provider. If there is, it connects
and makes an attempt, and last it draws the conclusion from what came of that. `reconcile_eq` says
that every pass is these three in sequence, so what is true of each of them need not be put together
anew for resources that are to be kept and for those that are to be deleted.
-/

namespace ClusterKeeper

variable {σ : Type} {conduct : Conduct σ} {settings : Settings} {cluster : ClusterDeclaration}
  {scene : Scene σ}

namespace Call

/-- The call is made on the resource itself. -/
def IsOnResource : Call → Prop
  | patchStatus .. | addFinalizer .. | removeFinalizer .. => True
  | _ => False

/-- The call is made on the provider or on the secrets. -/
def IsRemote : Call → Prop
  | connect _ | patchStatus .. | addFinalizer .. | removeFinalizer .. => False
  | _ => True

theorem IsRemote.not_isOnResource {c : Call} (h : c.IsRemote) : ¬ c.IsOnResource := by
  cases c <;> first | exact id | exact h.elim

theorem IsConverging.isRemote {c : Call} (h : c.IsConverging) : c.IsRemote := by
  cases c <;> first | exact trivial | exact h

theorem Dismantles.isRemote {c : Call} (h : c.Dismantles) : c.IsRemote := by
  cases c <;> first | exact trivial | exact h

theorem not_writesStatus_of_not_isOnResource {c : Call} (h : ¬ c.IsOnResource) :
    ¬ c.WritesStatus := by
  cases c <;> first | exact id | exact absurd trivial h

end Call

/-- What is done before the provider is dealt with, and how the pass ends if it is not. -/
def prepare (cluster : ClusterDeclaration) : Pass (Option PassEnd) :=
  if cluster.isBeingDeleted then
    if !cluster.isGuarded then return some .idle
    else if cluster.currentStatus.clusterId.isNone then some <$> releaseResource cluster .idle
    else return none
  else
    match cluster.spec.validate with
    | .error fault => do
        recordFailure cluster fault
        return some .idle
    | .ok () => do
        match ← guardResource cluster with
        | .error fault => return some (.failed fault)
        | .ok () => return none

namespace Attempt

/-- What is attempted with a provider that can be reached. -/
def main (cluster : ClusterDeclaration) : Attempt Progress :=
  if cluster.isBeingDeleted then tearDown cluster else converge cluster

/-- Connects to the provider, and makes the attempt. -/
def engage (cluster : ClusterDeclaration) : Attempt Progress := do
  ExceptT.mk (Pass.call (.connect cluster.spec.tokenSecretRef))
  main cluster

end Attempt

/-- Ends a pass that dealt with the provider. -/
def wrapUp (settings : Settings) (cluster : ClusterDeclaration) :
    Except Fault Progress → Pass PassEnd
  | .error fault => failPass cluster fault
  | .ok progress =>
      if cluster.isBeingDeleted = true ∧ progress = .settled then
        releaseResource cluster (.through .awaitChange)
      else return .through (progress.action settings)

theorem connected_eq {attempt : Attempt Progress} {finish : Progress → Pass PassEnd} :
    connected cluster attempt finish =
      (do ExceptT.mk (Pass.call (.connect cluster.spec.tokenSecretRef)); attempt : Attempt
        Progress).run >>= fun
        | .error fault => failPass cluster fault
        | .ok progress => finish progress := by
  rw [ExceptT.run_bind, bind_assoc]
  refine congrArg (Pass.call (.connect cluster.spec.tokenSecretRef) >>= ·) (funext fun reply => ?_)
  cases (reply : Except Fault Unit) with
  | error fault => rfl
  | ok _ =>
      refine congrArg (attempt.run >>= ·) (funext fun r => ?_)
      cases r <;> rfl

/-- The stages after the first one, if that did not end the pass. -/
def proceed (settings : Settings) (cluster : ClusterDeclaration) : Option PassEnd → Pass PassEnd
  | some ending => return ending
  | none => (Attempt.engage cluster).run >>= wrapUp settings cluster

theorem reconcileDeletion_eq (hdeleted : cluster.isBeingDeleted = true) :
    reconcileDeletion settings cluster = prepare cluster >>= proceed settings cluster := by
  rw [reconcileDeletion, prepare, if_pos hdeleted]
  split
  · rfl
  · split
    · rw [map_eq_pure_bind, bind_assoc]
      exact (bind_pure _).symm
    · rw [connected_eq, pure_bind, proceed, Attempt.engage, Attempt.main, if_pos hdeleted]
      refine congrArg (_ >>= ·) (funext fun r => ?_)
      rcases r with fault | progress
      · rfl
      · cases progress <;> simp [wrapUp, hdeleted, Progress.action]

theorem reconcileChange_eq (hkept : cluster.isBeingDeleted = false) :
    reconcileChange settings cluster = prepare cluster >>= proceed settings cluster := by
  have hnot : ¬ cluster.isBeingDeleted = true := Bool.eq_false_iff.mp hkept
  rw [reconcileChange, prepare, if_neg hnot]
  cases cluster.spec.validate with
  | error fault =>
      dsimp only
      rw [bind_assoc]
      rfl
  | ok _ =>
      dsimp only
      rw [bind_assoc]
      refine congrArg (guardResource cluster >>= ·) (funext fun guarded => ?_)
      cases guarded with
      | error fault => rfl
      | ok _ =>
          dsimp only
          rw [connected_eq, pure_bind, proceed, Attempt.engage, Attempt.main, if_neg hnot]
          refine congrArg (_ >>= ·) (funext fun r => ?_)
          rcases r with fault | progress
          · rfl
          · simp [wrapUp, hkept]

/-- Every pass goes through the stages. -/
theorem reconcile_eq (settings : Settings) (cluster : ClusterDeclaration) :
    reconcile settings cluster = Pass.record cluster.currentStatus >>= fun _ =>
      prepare cluster >>= proceed settings cluster := by
  refine congrArg (Pass.record cluster.currentStatus >>= ·) (funext fun _ => ?_)
  split
  · next hdeleted => exact reconcileDeletion_eq hdeleted
  · next hkept => exact reconcileChange_eq (Bool.eq_false_iff.mpr hkept)

namespace World

theorem run_reconcile (world : World σ) (settings : Settings) (cluster : ClusterDeclaration)
    (scene : Scene σ) :
    world.run (reconcile settings cluster) scene =
      let found := world.run (prepare cluster) (scene.recording cluster.currentStatus)
      world.run (proceed settings cluster found.1) found.2 := by
  rw [reconcile_eq, run_bind, run_record, run_bind]
  rfl

/-- A pass that goes on to the provider. -/
theorem run_reconcile_of_none (world : World σ) (settings : Settings)
    (cluster : ClusterDeclaration) (scene : Scene σ)
    (hnone : (world.run (prepare cluster) (scene.recording cluster.currentStatus)).1 = none) :
    world.run (reconcile settings cluster) scene =
      let engaged := world.run (Attempt.engage cluster).run
        (world.run (prepare cluster) (scene.recording cluster.currentStatus)).2
      world.run (wrapUp settings cluster engaged.1) engaged.2 := by
  rw [run_reconcile]
  dsimp only
  rw [hnone, proceed, run_bind]

end World

/-- What holds where the pass goes on to the provider, and what where it ended before. -/
def unlessEnded (goesOn : Scene σ → Prop) (ended : PassEnd → Scene σ → Prop) :
    Option PassEnd → Scene σ → Prop
  | none, scene => goesOn scene
  | some ending, scene => ended ending scene

namespace Pass

variable {goesOn : Scene σ → Prop} {post : PassEnd → Scene σ → Prop}

/-- What is to be shown of the three stages. -/
theorem ensures_reconcile {dealt : Except Fault Progress → Scene σ → Prop}
    (hprepare : Ensures conduct (prepare cluster) (unlessEnded goesOn post)
      (scene.recording cluster.currentStatus))
    (hengage : ∀ scene', goesOn scene' →
      Attempt.Ensures conduct (Attempt.engage cluster) dealt scene')
    (hwrapUp : ∀ r scene', dealt r scene' →
      Ensures conduct (wrapUp settings cluster r) post scene') :
    Ensures conduct (reconcile settings cluster) post scene := by
  rw [reconcile_eq, ensures_bind, ensures_record, ensures_bind]
  refine hprepare.mono fun found scene' hscene => ?_
  cases found with
  | some ending => exact hscene
  | none =>
      rw [proceed, ensures_bind]
      exact (hengage scene' hscene).mono hwrapUp

/-- What is to be shown of the ways on which a pass goes on or ends without the provider. -/
theorem ensures_prepare
    (hunguarded : cluster.isBeingDeleted = true → cluster.isGuarded = false → post .idle scene)
    (hreleases : cluster.isBeingDeleted = true → cluster.isGuarded = true →
      cluster.currentStatus.clusterId = none →
      Ensures conduct (releaseResource cluster .idle) post scene)
    (hdeletes : cluster.isBeingDeleted = true → cluster.isGuarded = true →
      ∀ id, cluster.currentStatus.clusterId = some id → goesOn scene)
    (hinvalid : cluster.isBeingDeleted = false → ∀ fault, cluster.spec.validate = .error fault →
      Ensures conduct (recordFailure cluster fault) (fun _ => post .idle) scene)
    (hcarries : cluster.isBeingDeleted = false → cluster.isGuarded = true → goesOn scene)
    (hguards : cluster.isBeingDeleted = false → ∀ response state,
      conduct scene.state (.addFinalizer cluster.inNamespace cluster.name) response state →
      Attempt.unlessFailed (fun _ => goesOn) (fun fault => post (.failed fault)) response.reply
        (World.after scene (.addFinalizer cluster.inNamespace cluster.name) response false state)) :
    Ensures conduct (prepare cluster) (unlessEnded goesOn post) scene := by
  unfold prepare
  split
  · next hdeleted =>
      split
      · next hguarded => exact hunguarded hdeleted (by simpa using hguarded)
      · next hguarded =>
          have hguarded : cluster.isGuarded = true := by simpa using hguarded
          cases hid : cluster.currentStatus.clusterId with
          | none =>
              rw [Option.isNone_none, if_pos rfl, map_eq_pure_bind, ensures_bind]
              exact hreleases hdeleted hguarded hid
          | some id => exact hdeletes hdeleted hguarded id hid
  · next hkept =>
      have hkept : cluster.isBeingDeleted = false := Bool.eq_false_iff.mpr hkept
      split
      · next fault hvalid =>
          rw [ensures_bind]
          exact hinvalid hkept fault hvalid
      · rw [ensures_bind]
        apply ensures_guardResource
        · exact fun hguarded => hcarries hkept hguarded
        · intro response state hconduct
          have hscene := hguards hkept response state hconduct
          cases hreply : (response.reply : Except Fault Unit) with
          | error fault =>
              rw [hreply] at hscene
              exact hscene
          | ok _ =>
              rw [hreply] at hscene
              exact hscene

/-- A call that takes the finalizer off, and the end that follows from the reply. -/
theorem ensures_releaseResource (ending : PassEnd) :
    Ensures conduct (releaseResource cluster ending) post scene ↔
      conduct.onCall (.removeFinalizer cluster.inNamespace cluster.name)
        (fun reply => post (match (reply : Except Fault Unit) with
          | .ok () => ending
          | .error fault => .failed fault)) scene := by
  refine (ensures_bind _ _ _).trans ?_
  refine forall_congr' fun response => forall_congr' fun state => imp_congr_right fun _ => ?_
  cases (response.reply : Except Fault Unit) <;> exact Iff.rfl

/-- What is to be shown of the ways on which a pass that dealt with the provider ends. -/
theorem ensures_wrapUp {r : Except Fault Progress}
    (hfails : ∀ fault, r = .error fault →
      Ensures conduct (recordFailure cluster fault) (fun _ => post (.failed fault)) scene)
    (hreleases : cluster.isBeingDeleted = true → r = .ok .settled →
      Ensures conduct (releaseResource cluster (.through .awaitChange)) post scene)
    (hthrough : ∀ progress, r = .ok progress →
      (cluster.isBeingDeleted = true → progress = .inFlight) →
      post (.through (progress.action settings)) scene) :
    Ensures conduct (wrapUp settings cluster r) post scene := by
  cases r with
  | error fault =>
      dsimp only [wrapUp]
      rw [failPass, ensures_bind]
      exact hfails fault rfl
  | ok progress =>
      dsimp only [wrapUp]
      split
      · next h =>
          obtain ⟨hdeleted, rfl⟩ := h
          exact hreleases hdeleted rfl
      · next h =>
          refine hthrough progress rfl fun hdeleted => ?_
          cases progress with
          | settled => exact absurd ⟨hdeleted, rfl⟩ h
          | inFlight => rfl

end Pass

namespace Attempt

/-- An attempt begins where the provider could be reached. -/
theorem ensures_engage {post : Except Fault Progress → Scene σ → Prop}
    (hrefused : ∀ response state fault,
      conduct scene.state (.connect cluster.spec.tokenSecretRef) response state →
      response.reply = .error fault → post (.error fault)
        (World.after scene (.connect cluster.spec.tokenSecretRef) response false state))
    (hattempt : ∀ response state,
      conduct scene.state (.connect cluster.spec.tokenSecretRef) response state →
      response.reply = .ok () → Ensures conduct (main cluster) post
        (World.after scene (.connect cluster.spec.tokenSecretRef) response false state)) :
    Ensures conduct (engage cluster) post scene := by
  refine (ensures_bind _ _ _).mpr ?_
  intro response state hconduct
  cases hreply : (response.reply : Except Fault Unit) with
  | error fault => exact hrefused response state fault hconduct hreply
  | ok _ => exact hattempt response state hconduct hreply

/-- An invariant that calls and amendments keep unless they fail is kept unless the attempt fails.
-/
theorem keepsUntil_main {inv : Scene σ → Prop} {failed : Fault → Scene σ → Prop}
    (hcalls : ∀ {α : Type} {sequence : Calls α}, sequence.Only Call.IsRemote →
      KeepsUntil conduct inv failed (calls sequence))
    (hamends : ∀ change, KeepsUntil conduct inv failed (amend cluster change))
    (hfailed : ∀ fault scene, inv scene → failed fault scene) :
    KeepsUntil conduct inv failed (main cluster) := by
  have hkeeps : ∀ {α : Type} {kind : Call → Prop} {allowed : StatusChange → Prop}
      {attempt : Attempt α} {s : Step α}, ErasesTo cluster kind allowed attempt s →
      (∀ c, kind c → c.IsRemote) → KeepsUntil conduct inv failed attempt :=
    fun herases hkind => herases.keepsUntil (fun hsequence => hcalls (hsequence.mono hkind))
      (fun change _ => hamends change) hfailed
  intro scene hinv
  unfold main
  split
  · rw [tearDown_eq, ensures_bind, ensures_status]
    exact hkeeps (erases_tearDownFrom _) (fun _ hc => hc.isRemote) scene hinv
  · rw [converge_eq, ensures_bind, ensures_status]
    exact hkeeps (erases_convergeFrom _) (fun _ hc => hc.isRemote) scene hinv

/-- An invariant that calls and amendments keep is kept. -/
theorem keeps_engage {inv : Scene σ → Prop}
    (hcalls : conduct.Preserves (fun c => ¬ c.IsOnResource) inv)
    (hamends : ∀ change, Keeps conduct inv (amend cluster change)) :
    Keeps conduct inv (engage cluster) := by
  have hmain : Keeps conduct inv (main cluster) := by
    rw [keeps_iff_keepsUntil]
    apply keepsUntil_main
    · exact fun hsequence => keeps_iff_keepsUntil.mp fun _ hinv =>
        hcalls.calls (hsequence.mono fun _ hc => hc.not_isOnResource) hinv
    · exact fun change => keeps_iff_keepsUntil.mp (hamends change)
    · exact fun _ _ hinv => hinv
  intro scene hinv
  have hafter := fun response state hconduct => hcalls.after scene
    (.connect cluster.spec.tokenSecretRef) response false state id hconduct hinv
  apply ensures_engage
  · exact fun response state _ hconduct _ => hafter response state hconduct
  · exact fun response state hconduct _ => hmain _ (hafter response state hconduct)

end Attempt

end ClusterKeeper
