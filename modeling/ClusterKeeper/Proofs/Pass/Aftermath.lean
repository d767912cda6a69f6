import ClusterKeeper.Proofs.Pass.Courses
/-!
The aftermath of a creation.

The identifier of an accepted cluster is written at once. Where that fails, the write of the failure
repeats the identifier, because both write the status in memory; so the identifier is lost only if
both writes fail.
-/

namespace ClusterKeeper

variable {σ : Type}

/-- The identifier of an accepted cluster is written by the very next call, also where the pass was
told to stop meanwhile. If that fails, it is written once more, with the failure, and the pass ends.
Otherwise its pools are listed, and every later write has the identifier too, also the last one of a
pass that fails. -/
theorem created_identifier_written {world : World σ} {settings : Settings}
    {cluster : ClusterDeclaration} {cancelled : Bool} {memory : ClusterStatus} {state : σ}
    {ending : PassEnd} {scene : Scene σ} {before after : List Exchange} {e : Exchange}
    {remote : RemoteCluster}
    (hpass : world.run (reconcile settings cluster) (.start cancelled memory state) =
      (ending, scene))
    (hsplit : scene.exchanges = before ++ e :: after) (haccepts : e.Accepts remote)
    (hwrites : ∀ status response, .writing cluster status response ∈ after →
      response.reply ≠ .error .cancelled) :
    ∃ made response rest, made = cluster.currentStatus.withCreated remote.id ∧
      after = .writing cluster made response :: rest ∧
      (∀ fault, response.reply = .error fault → ending = .failed fault ∧ ∃ again,
        rest = [.writing cluster { made with failureMessage := some fault.message } again]) ∧
      (response.reply = .ok () → (∀ x ∈ rest, x.call.FollowsUp remote.id) ∧
        ∀ fault, ending = .failed fault → fault ≠ .cancelled → ∃ earlier status again,
          rest = earlier ++ [.writing cluster status again] ∧
          status.clusterId = some remote.id ∧ status.failureMessage = some fault.message) := by
  have hcreates := haccepts.createsCluster
  have hcourse := hasCourse_of_pass world settings cluster cancelled memory state
  rw [hpass] at hcourse
  rcases hcourse with hretained | hcreating
  · have hcall : e.call.Retains cluster.currentStatus.clusterId := by
      apply hretained.calls
      rw [hsplit]
      exact List.mem_append_right _ List.mem_cons_self
    rw [hcall.createsCluster] at hcreates
    cases hcreates
  · obtain ⟨earlier, x, rest, hcreation, hpoised, _, houtcome⟩ := hcreating.split
    obtain ⟨rfl, rfl, rfl⟩ :=
      hpoised.creation_unique houtcome (hcreation.symm.trans hsplit) hcreates
    cases houtcome with
    | fruitless hnone hconclusion => exact absurd haccepts (hnone remote)
    | fruitful haccepts' haftermath hconclusion =>
        obtain rfl := haccepts.unique haccepts'
        have hfollows := haftermath.followsUp rfl
        have hheld := haftermath.clusterId rfl
        cases haftermath with
        | unwritten hreply =>
            cases hconclusion with
            -- The failure would go unwritten only if it said that the pass was told to stop.
            | stopped => exact absurd hreply (hwrites _ _ List.mem_cons_self)
            | noted hfault =>
                refine ⟨_, _, _, rfl, rfl, ?_, ?_⟩
                · intro fault hfailed
                  rw [hreply] at hfailed
                  cases hfailed
                  exact ⟨rfl, _, rfl⟩
                · intro hok
                  rw [hreply] at hok
                  cases hok
        | written hreply hlisting =>
            refine ⟨_, _, _, rfl, rfl, ?_, fun _ => ⟨?_, ?_⟩⟩
            · intro fault hfailed
              rw [hreply] at hfailed
              cases hfailed
            · exact List.forall_mem_append.mpr ⟨(List.forall_mem_cons.mp hfollows).2,
                hconclusion.followsUp hheld⟩
            · intro fault hfailed hfault
              cases hconclusion with
              | through => cases hfailed
              | stopped =>
                  cases hfailed
                  exact absurd rfl hfault
              | noted hfault' =>
                  cases hfailed
                  exact ⟨_, _, _, rfl, hheld, rfl⟩

/-- The fault of an API server that cannot be reached. -/
def unreachableServer : Fault := .api (.transport "unreachable")

/-- A world that accepts a cluster, tells the pass to stop meanwhile, and writes no status. -/
def unwritableWorld : World Unit where
  respond := fun
    | .connect _, s => (promptly (.ok ()), s)
    | .createCluster _, s => (⟨.ok remoteWorkshop, true, false⟩, s)
    | c, s => (promptly c.unreached, s)

/-- A pass in that world. -/
def unwritablePass : PassEnd × Scene Unit :=
  unwritableWorld.run (reconcile Settings.standard workshop) (.start false .blank ())

/-- The writes of that pass after the cluster is accepted. -/
def unwritableWrites : List Exchange :=
  [.writing workshop (ClusterStatus.blank.withCreated 42) (promptly (.error unreachableServer)),
   .writing workshop
    { ClusterStatus.blank.withCreated 42 with failureMessage := some unreachableServer.message }
    (promptly (.error unreachableServer))]

/-- The identifier is written, and written again with the failure of the first write. -/
theorem unwritable_identifier_written_again :
    ∃ before e, unwritablePass.2.exchanges = before ++ e :: unwritableWrites ∧
      e.Accepts remoteWorkshop ∧ ∃ response again, unwritableWrites =
        [.writing workshop (ClusterStatus.blank.withCreated 42) response,
         .writing workshop { ClusterStatus.blank.withCreated 42 with
            failureMessage := some unreachableServer.message } again] ∧
        response.reply = .error unreachableServer ∧
        unwritablePass.1 = .failed unreachableServer := by
  have hpass : unwritableWorld.run (reconcile Settings.standard workshop) (.start false .blank ()) =
      (unwritablePass.1, unwritablePass.2) := rfl
  obtain ⟨before, e, hsplit, haccepts⟩ : ∃ before e,
      unwritablePass.2.exchanges = before ++ e :: unwritableWrites ∧ e.Accepts remoteWorkshop :=
    ⟨[⟨.connect workshop.spec.tokenSecretRef, promptly (.ok ()), false, .blank⟩],
      ⟨.createCluster (creationRequest workshop "1.30"), ⟨.ok remoteWorkshop, true, false⟩, false,
        .blank⟩, by rfl, _, _, _, rfl, rfl⟩
  have hwrites : ∀ status response, .writing workshop status response ∈ unwritableWrites →
      response.reply ≠ .error .cancelled := by
    have hother : unreachableServer ≠ .cancelled := by decide
    intro status response hmem hreply
    rcases List.mem_cons.mp hmem with heq | hmem
    · cases heq
      exact hother (Except.error.inj hreply)
    · cases List.mem_singleton.mp hmem
      exact hother (Except.error.inj hreply)
  obtain ⟨made, response, rest, rfl, hafter, hfailed, _⟩ :=
    created_identifier_written hpass hsplit haccepts hwrites
  have hreply : response.reply = .error unreachableServer := by
    cases hafter
    rfl
  obtain ⟨hending, again, rfl⟩ := hfailed unreachableServer hreply
  exact ⟨before, e, hsplit, haccepts, response, again, hafter, hreply, hending⟩

end ClusterKeeper
