import ClusterKeeper.Proofs.Pass.Identifier
import ClusterKeeper.Proofs.Pass.Settlement
import ClusterKeeper.Proofs.Pass.Stages
/-!
How failures are reported.

While a pass deals with the provider it writes no failure. If that ends in a fault, the last thing
that the pass does is to write it to the status in memory, and it ends in the fault whatever becomes
of the write. A later pass that settles takes the failure off the record, even if the phase did not
change.
-/

namespace ClusterKeeper

variable {σ : Type} {conduct : Conduct σ} {settings : Settings} {cluster : ClusterDeclaration}
  {entry : ClusterStatus} {scene : Scene σ} {exchanges : List Exchange}

/-- No failure was to be written. -/
def Clean (exchanges : List Exchange) : Prop :=
  ∀ e ∈ exchanges, ∀ status, e.Writes status → status.failureMessage = none

theorem clean_nil : Clean [] := fun _ he => absurd he List.not_mem_nil

theorem Clean.call (h : Clean exchanges) {e : Exchange} (he : ¬ e.call.WritesStatus) :
    Clean (exchanges ++ [e]) := by
  refine List.forall_mem_append.mpr ⟨h, List.forall_mem_singleton.mpr ?_⟩
  rintro status ⟨inNamespace, name, hcall⟩
  rw [hcall] at he
  exact absurd trivial he

theorem Clean.write (h : Clean exchanges) {status : ClusterStatus}
    (hstatus : status.failureMessage = none) (response : Response (Except Fault Unit)) :
    Clean (exchanges ++ [.writing cluster status response]) := by
  refine List.forall_mem_append.mpr ⟨h, List.forall_mem_singleton.mpr ?_⟩
  rintro _ ⟨_, _, ⟨⟩⟩
  exact hstatus

theorem preserves_clean (conduct : Conduct σ) :
    conduct.Preserves (fun c => ¬ c.WritesStatus) fun scene => Clean scene.exchanges :=
  Conduct.preserves_exchanges fun _ _ _ _ _ hkind h => h.call hkind

/-- Dealing with the provider writes no failure. -/
theorem keeps_clean_engage :
    Attempt.Keeps conduct (fun scene => Clean scene.exchanges) (Attempt.engage cluster) := by
  apply Attempt.keeps_engage
  · exact (preserves_clean conduct).mono fun _ hc => Call.not_writesStatus_of_not_isOnResource hc
  · intro change scene hscene
    rw [Attempt.ensures_amend]
    intro response state _
    rw [Scene.exchanges_after]
    exact hscene.write rfl response

namespace Attempt

theorem ensures_create_inFlight :
    Ensures conduct (create cluster) (fun r _ => r ≠ .ok .settled) scene := by
  rw [create_eq]
  refine Ensures.bind (.of_forall fun _ _ => trivial) (fun version _ _ => ?_) (by simp)
  refine Ensures.bind (.of_forall fun _ _ => trivial) (fun created _ _ => ?_) (by simp)
  refine Ensures.bind (.of_forall fun _ _ => trivial) (fun _ _ _ => ?_) (by simp)
  rw [ensures_bind_pure]
  refine .of_forall fun r _ => ?_
  cases r <;> simp [Except.map]

/-- An attempt that settles leaves the active phase without a failure in memory, also where it found
that phase there. -/
theorem ensures_converge_active :
    Ensures conduct (converge cluster) (fun r scene' => r = .ok .settled →
      scene'.memory.phase = .active ∧ scene'.memory.failureMessage = none) scene := by
  have hcreate : ∀ scene : Scene σ, Ensures conduct (create cluster) (fun r scene' =>
      r = .ok .settled → scene'.memory.phase = .active ∧ scene'.memory.failureMessage = none)
      scene := fun _ => ensures_create_inFlight.mono fun _ _ hne heq => absurd heq hne
  rw [converge_eq, ensures_bind, ensures_status, Dialogue.orFault_ok]
  cases scene.memory.clusterId with
  | none => exact hcreate scene
  | some id =>
      refine Ensures.bind (.of_forall fun _ _ => trivial) (fun reply scene' _ => ?_) (by simp)
      cases (reply : Except ProviderFault RemoteCluster) with
      | error cause =>
          cases cause with
          | notFound => exact hcreate scene'
          | _ => exact fun h => nomatch h
      | ok remote =>
          dsimp only
          rw [update_eq_makeReady]
          refine Ensures.bind (.of_forall fun _ _ => trivial) (fun ready scene'' _ => ?_) (by simp)
          cases ready with
          | false => exact fun h => nomatch h
          | true =>
              change Ensures conduct (markActive cluster >>= fun _ => pure Progress.settled) _ _
              rw [ensures_bind_pure, markActive_eq, ensures_amendUnless]
              split
              · next hmet => exact fun _ => hmet
              · rw [ensures_amend]
                exact fun _ _ _ _ => ⟨rfl, rfl⟩

end Attempt

/-- Nothing was written yet, and the status in memory is the one on record. -/
structure Unwritten (entry : ClusterStatus) (scene : Scene σ) : Prop where
  clean : Clean scene.exchanges
  onRecord : OnRecord entry scene

theorem preserves_unwritten (conduct : Conduct σ) (entry : ClusterStatus) :
    conduct.Preserves (fun c => ¬ c.WritesStatus) (Unwritten entry) where
  checked := fun scene h => ⟨(preserves_clean conduct).checked scene h.clean,
    (preserves_onRecord conduct entry).checked scene h.onRecord⟩
  after := fun scene c response abandoned state hkind hconduct h =>
    ⟨(preserves_clean conduct).after scene c response abandoned state hkind hconduct h.clean,
      (preserves_onRecord conduct entry).after scene c response abandoned state hkind hconduct
        h.onRecord⟩

theorem ensures_prepare_unwritten (h : Unwritten entry scene) :
    Pass.Ensures conduct (prepare cluster) (unlessEnded (Unwritten entry) fun _ _ => True)
      scene := by
  apply Pass.ensures_prepare
  · exact fun _ _ => trivial
  · exact fun _ _ _ => .of_forall fun _ _ => trivial
  · exact fun _ _ _ _ => h
  · exact fun _ _ _ => .of_forall fun _ _ => trivial
  · exact fun _ _ => h
  · intro _ response state hconduct
    have hafter := (preserves_unwritten conduct entry).after scene _ response false state id
      hconduct h
    cases (response.reply : Except Fault Unit) with
    | error fault => exact trivial
    | ok _ => exact hafter

/-- What dealing with the provider leaves: no failure was written, and if a resource that is to be
kept is settled, there is none on record. -/
theorem ensures_engage_reported (h : Unwritten entry scene) :
    Attempt.Ensures conduct (Attempt.engage cluster) (fun r scene' => Clean scene'.exchanges ∧
      (cluster.isBeingDeleted = false → r = .ok .settled →
        (stored entry scene'.log).failureMessage = none)) scene := by
  have hrecord : Attempt.Ensures conduct (Attempt.engage cluster) (fun r scene' =>
      cluster.isBeingDeleted = false → r = .ok .settled →
        (stored entry scene'.log).failureMessage = none) scene := by
    apply Attempt.ensures_engage
    · exact fun _ _ _ _ _ _ hr => nomatch hr
    · intro response state hconduct _
      have hafter := (preserves_onRecord conduct entry).after scene
        (.connect cluster.spec.tokenSecretRef) response false state id hconduct h.onRecord
      unfold Attempt.main
      split
      · next hdeleted => exact .of_forall fun _ _ hkept => by simp [hdeleted] at hkept
      · refine ((Attempt.stays_converge cluster _ hafter).and
          Attempt.ensures_converge_active).mono ?_
        rintro _ scene' ⟨hend, hactive⟩ _ rfl
        rw [← hend.onRecord.memory]
        exact (hactive rfl).2
  exact (keeps_clean_engage scene h.clean).and hrecord

/-- A spec that is not acceptable does not tell the pass to stop. -/
theorem ClusterSpec.validate_ne_cancelled {spec : ClusterSpec} {fault : Fault}
    (h : spec.validate = .error fault) : fault ≠ .cancelled := by
  rw [validate] at h
  cases hflaw : spec.flaw? with
  | none => simp [hflaw] at h
  | some flaw =>
      rw [hflaw] at h
      cases h
      simp

theorem World.run_recordFailure (world : World σ) {fault : Fault} (hfault : fault ≠ .cancelled)
    (scene : Scene σ) :
    ∃ response, (world.run (recordFailure cluster fault) scene).2.exchanges =
      scene.exchanges ++ [.writing cluster (scene.memory.withFailure fault) response] := by
  have hensures : Pass.Ensures Conduct.any (recordFailure cluster fault) (fun _ scene' =>
      ∃ response, scene'.exchanges =
        scene.exchanges ++ [.writing cluster (scene.memory.withFailure fault) response])
      (scene.through id) := by
    rw [Pass.ensures_recordFailure, if_neg hfault]
    exact fun response state _ => ⟨response, Scene.exchanges_after _ _ _ _ _⟩
  exact World.run_of_ensures (world.keeps_any id) hensures

/-- A spec that is not acceptable is reported, and nothing else is done. -/
theorem World.run_reconcile_of_invalid (world : World σ) (settings : Settings) {fault : Fault}
    (hkept : cluster.isBeingDeleted = false) (hinvalid : cluster.spec.validate = .error fault)
    (scene : Scene σ) :
    (world.run (reconcile settings cluster) scene).1 = .idle ∧
      ∃ response, (world.run (reconcile settings cluster) scene).2.exchanges =
        scene.exchanges ++ [.writing cluster (cluster.currentStatus.withFailure fault) response] := by
  have hprepare : prepare cluster = recordFailure cluster fault >>= fun _ => pure (some .idle) := by
    rw [prepare, if_neg (by simp [hkept]), hinvalid]
  have hrun : world.run (reconcile settings cluster) scene = (.idle,
      (world.run (recordFailure cluster fault) (scene.recording cluster.currentStatus)).2) := by
    rw [World.run_reconcile, hprepare, World.run_bind]
    rfl
  rw [hrun]
  exact ⟨rfl, world.run_recordFailure (ClusterSpec.validate_ne_cancelled hinvalid) _⟩

/-- What a pass has done when it goes on to the provider, and what it has when it dealt with it. -/
theorem World.run_engage_reported (world : World σ) (cancelled : Bool) (state : σ)
    (hnone : (world.run (prepare cluster) (.start cancelled cluster.currentStatus state)).1 = none) :
    let engaged := world.run (Attempt.engage cluster).run
      (world.run (prepare cluster) (.start cancelled cluster.currentStatus state)).2
    Clean engaged.2.exchanges ∧ (cluster.isBeingDeleted = false → engaged.1 = .ok .settled →
      (stored cluster.currentStatus engaged.2.log).failureMessage = none) := by
  have hstart : Unwritten cluster.currentStatus
      ((Scene.start cancelled cluster.currentStatus state).through id) := ⟨clean_nil, rfl, .nil _⟩
  have hprepare : Pass.Ensures Conduct.any (prepare cluster)
      (unlessEnded (Unwritten cluster.currentStatus) fun _ _ => True) _ :=
    ensures_prepare_unwritten hstart
  have hfound := World.run_of_ensures (world.keeps_any id) hprepare
  rw [hnone] at hfound
  exact World.run_of_ensures (world.keeps_any id) (ensures_engage_reported hfound)

/-- A failure of a pass is reported once and at last, and the pass ends in it.

Where connecting to the provider, or what is attempted then, ends in a fault, no failure was written
so far; the last call of the pass writes the status in memory with the fault, and the pass fails
with it whatever becomes of the write. Where the spec is not acceptable, writing so is all that the
pass does. And a pass that settles takes the failure off the record, whatever the passes before it
left there. -/
theorem failures_are_reported (world : World σ) (settings : Settings) (cluster : ClusterDeclaration)
    (cancelled : Bool) (memory : ClusterStatus) (state : σ) :
    let pass := world.run (reconcile settings cluster) (.start cancelled memory state)
    let found := world.run (prepare cluster) (.start cancelled cluster.currentStatus state)
    let engaged := world.run (Attempt.engage cluster).run found.2
    (found.1 = none → ∀ fault, engaged.1 = .error fault → fault ≠ .cancelled →
      pass.1 = .failed fault ∧ Clean engaged.2.exchanges ∧
        ∃ response, pass.2.exchanges = engaged.2.exchanges ++
          [.writing cluster (engaged.2.memory.withFailure fault) response]) ∧
    (cluster.isBeingDeleted = false → ∀ fault, cluster.spec.validate = .error fault →
      pass.1 = .idle ∧ ∃ response, pass.2.exchanges =
        [.writing cluster (cluster.currentStatus.withFailure fault) response]) ∧
    (cluster.isBeingDeleted = false → found.1 = none → engaged.1 = .ok .settled →
      ∀ entry history, cluster.currentStatus = stored entry history →
        (stored entry (history ++ pass.2.log)).failureMessage = none) := by
  intro pass found engaged
  have hengaged : found.1 = none → pass = world.run (wrapUp settings cluster engaged.1) engaged.2 :=
    world.run_reconcile_of_none settings cluster (.start cancelled memory state)
  refine ⟨fun hnone fault hfault hne => ?_, fun hkept fault hinvalid => ?_,
    fun hkept hnone hsettled entry history hcurrent => ?_⟩
  · have hfailed : pass = (.failed fault, (world.run (recordFailure cluster fault) engaged.2).2) := by
      rw [hengaged hnone, hfault]
      exact world.run_bind (recordFailure cluster fault) _ engaged.2
    rw [hfailed]
    exact ⟨rfl, (world.run_engage_reported cancelled state hnone).1,
      world.run_recordFailure hne engaged.2⟩
  · exact world.run_reconcile_of_invalid settings hkept hinvalid _
  · have hthrough : pass = (.through (Progress.settled.action settings), engaged.2) := by
      rw [hengaged hnone, hsettled, wrapUp, if_neg (by simp [hkept])]
      rfl
    rw [hthrough, stored_append, ← hcurrent]
    exact (world.run_engage_reported cancelled state hnone).2 hkept hsettled

/-- The provider of a ready cluster, which can be reached. -/
def reachableWorld : World Unit where
  respond := fun
    | .connect _, s => (promptly (.ok ()), s)
    | c, s => readyWorld.respond c s

/-- The cluster is on record as active. -/
def activeWorkshop : ClusterDeclaration :=
  { workshop with status := some { provisioningWorkshop with phase := .active } }

/-- The log of a pass in which the provider does not answer. -/
def unansweredLog : List Event :=
  ((acceptingWorld false).run (reconcile Settings.standard activeWorkshop)
    (.start false .blank ())).2.log

/-- The declaration with the status that this pass leaves on record. -/
def failedWorkshop : ClusterDeclaration :=
  { workshop with status := some (stored activeWorkshop.currentStatus unansweredLog) }

/-- A failure that was reported is taken off the record by the next pass, which finds the active
phase there. -/
theorem failed_workshop_recovers :
    let later := reachableWorld.run (reconcile Settings.standard failedWorkshop)
      (.start false .blank ())
    let found := reachableWorld.run (prepare failedWorkshop)
      (.start false failedWorkshop.currentStatus ())
    let engaged := reachableWorld.run (Attempt.engage failedWorkshop).run found.2
    failedWorkshop.currentStatus.phase = .active ∧
      failedWorkshop.currentStatus.failureMessage =
        some "gateway error during get cluster: transport error: unreachable" ∧
      failedWorkshop.isBeingDeleted = false ∧ found.1 = none ∧ engaged.1 = .ok .settled ∧
      (stored activeWorkshop.currentStatus (unansweredLog ++ later.2.log)).failureMessage =
        none := by
  have hphase : failedWorkshop.currentStatus.phase = .active := by decide +kernel
  have hfailure : failedWorkshop.currentStatus.failureMessage =
      some "gateway error during get cluster: transport error: unreachable" := by
    decide +kernel
  have hreport := (failures_are_reported reachableWorld Settings.standard failedWorkshop false
    .blank ()).2.2
  have hsettled : (reachableWorld.run (Attempt.engage failedWorkshop).run
      (reachableWorld.run (prepare failedWorkshop)
        (.start false failedWorkshop.currentStatus ())).2).1 = .ok .settled := by decide +kernel
  exact ⟨hphase, hfailure, rfl, rfl, hsettled, hreport rfl rfl hsettled _ _ rfl⟩

end ClusterKeeper
