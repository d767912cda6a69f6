import Mathlib.Data.List.TakeWhile
import ClusterKeeper.Proofs.Pass.Record
/-!
The pools on record and the pools that the provider lists.

An attempt that does not fail leaves the pools of its last listing in memory, whatever was there
before. The listing for the check whether the cluster is ready does not count: it is made after the
kubeconfig was fetched, and it is only looked through. With what is said of the record, the pools on
record are those of the last listing too.
-/

namespace ClusterKeeper

open Dialogue (only_question)

variable {σ α β : Type} {conduct : Conduct σ} {cluster : ClusterDeclaration} {scene : Scene σ}
  {log : List Event} {listing : List RemotePool} {kind : Call → Prop}

/-- The call fetches the kubeconfig. -/
def Call.fetchesKubeconfig : Call → Bool
  | getKubeconfig _ => true
  | _ => false

namespace Event

def fetchesKubeconfig : Event → Bool
  | exchange e => e.call.fetchesKubeconfig
  | checkpoint _ => false

/-- The pools that a pass was told of. -/
def listing? : Event → Option (List RemotePool)
  | exchange ⟨.listPools _, response, false, _⟩ =>
      match (response.reply : Except ProviderFault (List RemotePool)) with
      | .ok listing => some listing
      | .error _ => none
  | _ => none

theorem listing?_of_ne {c : Call} (h : ∀ id, c ≠ .listPools id) (response : Response c.Reply)
    (abandoned : Bool) (memory : ClusterStatus) :
    (exchange ⟨c, response, abandoned, memory⟩).listing? = none := by
  cases c with
  | listPools id => exact absurd rfl (h id)
  | _ => rfl

end Event

/-- The last listing before the kubeconfig is fetched. -/
def lastListing? (log : List Event) : Option (List RemotePool) :=
  ((log.takeWhile fun event => !event.fetchesKubeconfig).filterMap Event.listing?).getLast?

/-- The kubeconfig was not fetched. -/
def Unfetched (log : List Event) : Prop := ∀ event ∈ log, event.fetchesKubeconfig = false

theorem lastListing?_snoc_of_unfetched (h : Unfetched log) {event : Event}
    (hlisting : event.listing? = some listing) : lastListing? (log ++ [event]) = some listing := by
  have hall : ∀ event ∈ log, (!event.fetchesKubeconfig) = true := by
    intro event hevent
    rw [h event hevent]
    rfl
  have hevent : event.fetchesKubeconfig = false := by
    cases event with
    | checkpoint cancelled => rfl
    | exchange e =>
        obtain ⟨c, response, abandoned, memory⟩ := e
        cases c with
        | getKubeconfig id => cases hlisting
        | _ => rfl
  rw [lastListing?, List.takeWhile_append_of_pos hall]
  simp [hevent, hlisting]

/-- An event that is no listing does not change the last one, and none does once the kubeconfig was
fetched. -/
theorem lastListing?_snoc_of_none {event : Event}
    (h : event.listing? = none ∨ ¬ Unfetched log) :
    lastListing? (log ++ [event]) = lastListing? log := by
  rw [lastListing?, lastListing?, List.takeWhile_append]
  split
  · next hlength =>
      have hall := List.takeWhile_eq_self_iff.mp
        ((List.takeWhile_prefix _).eq_of_length hlength)
      have hunfetched : Unfetched log := by
        intro event hevent
        simpa using hall event hevent
      have hnone := h.resolve_right (not_not_intro hunfetched)
      rw [List.takeWhile_eq_self_iff.mpr hall]
      cases hevent : event.fetchesKubeconfig <;> simp [hevent, hnone]
  · rfl

/-- The pools in memory are those of the last listing. -/
def HasListed (scene : Scene σ) : Prop :=
  ∃ listing, lastListing? scene.log = some listing ∧ scene.memory.pools = Pools.observed listing

theorem preserves_unfetched (conduct : Conduct σ) :
    conduct.Preserves (fun c => c.fetchesKubeconfig = false) fun scene => Unfetched scene.log where
  checked := by
    intro scene h event hevent
    rcases List.mem_append.mp hevent with hevent | hevent
    · exact h event hevent
    · rw [List.mem_singleton.mp hevent]
      rfl
  after := by
    intro scene c response abandoned state hkind _ h event hevent
    rcases List.mem_append.mp hevent with hevent | hevent
    · exact h event hevent
    · rw [List.mem_singleton.mp hevent]
      exact hkind

theorem preserves_hasListed (conduct : Conduct σ) :
    conduct.Preserves (fun c => ∀ id, c ≠ .listPools id) HasListed where
  checked := by
    rintro scene ⟨listing, hlast, hpools⟩
    refine ⟨listing, ?_, hpools⟩
    exact (lastListing?_snoc_of_none (Or.inl rfl)).trans hlast
  after := by
    rintro scene c response abandoned state hkind _ ⟨listing, hlast, hpools⟩
    refine ⟨listing, ?_, hpools⟩
    have hnone := Event.listing?_of_ne hkind response abandoned scene.memory
    exact (lastListing?_snoc_of_none (Or.inl hnone)).trans hlast

/-- Once the kubeconfig was fetched any call leaves the listing. -/
theorem preserves_hasListed_fetched (conduct : Conduct σ) :
    conduct.Preserves (fun _ => True) fun scene => HasListed scene ∧ ¬ Unfetched scene.log where
  checked := by
    rintro scene ⟨⟨listing, hlast, hpools⟩, hfetched⟩
    refine ⟨⟨listing, ?_, hpools⟩, fun h => hfetched ?_⟩
    · exact (lastListing?_snoc_of_none (Or.inr hfetched)).trans hlast
    · exact fun event hevent => h event (List.mem_append_left _ hevent)
  after := by
    rintro scene c response abandoned state _ _ ⟨⟨listing, hlast, hpools⟩, hfetched⟩
    refine ⟨⟨listing, ?_, hpools⟩, fun h => hfetched ?_⟩
    · exact (lastListing?_snoc_of_none (Or.inr hfetched)).trans hlast
    · exact fun event hevent => h event (List.mem_append_left _ hevent)

namespace Attempt

theorem keeps_unfetched_step {step : Step α}
    (hstep : step.run.Only fun c => c.fetchesKubeconfig = false) :
    Keeps conduct (fun scene => Unfetched scene.log) (Attempt.step step) :=
  fun _ h => (preserves_unfetched conduct).step hstep h

theorem keeps_unfetched_modifyStatus (change : ClusterStatus → ClusterStatus) :
    Keeps conduct (fun scene => Unfetched scene.log) (modifyStatus change) :=
  fun _ h => h

theorem keeps_unfetched_persist :
    Keeps conduct (fun scene => Unfetched scene.log) (persist cluster) := by
  intro scene h
  rw [ensures_persist]
  intro response state hconduct
  exact (preserves_unfetched conduct).after _ _ response false state rfl hconduct h

theorem keeps_unfetched_enter (phase : Phase) :
    Keeps conduct (fun scene => Unfetched scene.log) (enter cluster phase) := by
  intro scene h
  rw [ensures_enter]
  split
  · exact h
  · exact keeps_unfetched_persist _ h

theorem keeps_hasListed_persist : Keeps conduct HasListed (persist cluster) := by
  intro scene h
  rw [ensures_persist]
  intro response state hconduct
  exact (preserves_hasListed conduct).after _ _ response false state (by simp) hconduct h

theorem keeps_hasListed_markActive : Keeps conduct HasListed (markActive cluster) := by
  refine keeps_status.bind fun status => ?_
  split
  · exact keeps_pure ()
  · exact Keeps.bind (fun _ h => h) fun _ => keeps_hasListed_persist

/-- What is true at the end unless there is a fault. -/
def onSuccess (post : α → Scene σ → Prop) : Except Fault α → Scene σ → Prop
  | .ok a, scene => post a scene
  | .error _, _ => True

theorem Ensures.bind_onSuccess {attempt : Attempt α} {next : α → Attempt β}
    {mid : α → Scene σ → Prop} {post : β → Scene σ → Prop}
    (h : Ensures conduct attempt (onSuccess mid) scene)
    (hnext : ∀ a scene', mid a scene' → Ensures conduct (next a) (onSuccess post) scene') :
    Ensures conduct (attempt >>= next) (onSuccess post) scene :=
  h.bind hnext fun _ _ _ => trivial

theorem Keeps.onSuccess {inv : Scene σ → Prop} {attempt : Attempt α}
    (h : Keeps conduct inv attempt) (hinv : inv scene) :
    Ensures conduct attempt (onSuccess fun _ => inv) scene := by
  refine (h scene hinv).mono fun r scene' hscene => ?_
  cases r with
  | ok a => exact hscene
  | error fault => exact trivial

/-- A listing that a step gets before the kubeconfig is fetched is the last one. -/
theorem ensures_listPools (id : ClusterId) (h : Unfetched scene.log) :
    Ensures conduct (step (Step.provider listPoolsOperation (Call.listPools id).ask))
      (onSuccess fun listing scene' =>
        lastListing? scene'.log = some listing ∧ Unfetched scene'.log) scene := by
  refine (ensures_step_ask (.listPools id)
    (fun (reply : Except ProviderFault (List RemotePool)) =>
      reply.mapError (.provider listPoolsOperation)) _).mpr ?_
  have hchecked := (preserves_unfetched conduct).checked scene h
  split
  · exact trivial
  · intro response state hconduct
    split
    · exact trivial
    · cases hreply : (response.reply : Except ProviderFault (List RemotePool)) with
      | error fault => exact trivial
      | ok listing =>
          refine ⟨lastListing?_snoc_of_unfetched hchecked ?_, ?_⟩
          · rw [Event.listing?, hreply]
          · exact (preserves_unfetched conduct).after _ _ response false state rfl hconduct hchecked

theorem ensures_observePools (id : ClusterId) (h : Unfetched scene.log) :
    Ensures conduct (observePools id) (onSuccess fun _ => HasListed) scene := by
  refine (ensures_listPools id h).bind_onSuccess fun listing scene' hlisted => ?_
  exact ⟨listing, hlisted.1, rfl⟩

theorem ensures_observed (id : ClusterId) (h : Unfetched scene.log) :
    Ensures conduct (observePools id >>= fun _ => persist cluster)
      (onSuccess fun _ => HasListed) scene :=
  (ensures_observePools id h).bind_onSuccess fun _ _ hlisted =>
    keeps_hasListed_persist.onSuccess hlisted

theorem ensures_create_hasListed (h : Unfetched scene.log) :
    Ensures conduct (create cluster) (onSuccess fun _ => HasListed) scene := by
  rw [create_eq]
  have hversion : (chooseVersion cluster.spec).run.Only fun c => c.fetchesKubeconfig = false := by
    refine (chooseVersion_only _).mono ?_
    rintro _ rfl
    rfl
  refine ((keeps_unfetched_step hversion).onSuccess h).bind_onSuccess fun version _ h => ?_
  have hcreate : (Call.createCluster (creationRequest cluster version)).ask.Only
      fun c => c.fetchesKubeconfig = false := ⟨rfl, fun _ => trivial⟩
  refine ((keeps_unfetched_step (Step.only_provider hcreate)).onSuccess h).bind_onSuccess
    fun created _ h => ?_
  have hrecorded : Keeps conduct (fun scene => Unfetched scene.log)
      (recordCreated cluster created.id) :=
    (keeps_unfetched_modifyStatus _).bind fun _ => keeps_unfetched_persist
  refine (hrecorded.onSuccess h).bind_onSuccess fun _ _ h => ?_
  exact (ensures_observed created.id h).bind_onSuccess fun _ _ hlisted => hlisted

theorem ensures_convergePools_hasListed (id : ClusterId) (h : Unfetched scene.log) :
    Ensures conduct (convergePools cluster id) (onSuccess fun _ => HasListed) scene := by
  refine (ensures_listPools id h).bind_onSuccess fun listing scene hlisted => ?_
  obtain ⟨hlast, h⟩ := hlisted
  dsimp only
  split
  · rw [ensures_bind, ensures_status, Dialogue.orFault_ok]
    split
    · next hsame => exact ⟨listing, hlast, hsame⟩
    · rw [ensures_bind, ensures_modifyStatus, Dialogue.orFault_ok]
      exact keeps_hasListed_persist.onSuccess ⟨listing, hlast, rfl⟩
  · refine ((keeps_unfetched_enter .updating).onSuccess h).bind_onSuccess fun _ _ h => ?_
    refine ((keeps_unfetched_step ((PoolPlan.apply_only id _).mono ?_)).onSuccess
      h).bind_onSuccess fun _ _ h => ensures_observed id h
    rintro _ ⟨action, _, rfl⟩
    cases action <;> rfl

/-- What the first call of a step brings about is true at its end, if the other calls keep it. -/
theorem ensures_step_of_first {inv : Scene σ → Prop} (h : conduct.Preserves kind inv) {c : Call}
    {next : c.Reply → Calls (Except Fault α)} (hnext : ∀ reply, (next reply).Only kind)
    (hfirst : ∀ response abandoned state,
      inv (World.after scene.checked c response abandoned state)) :
    Ensures conduct (step (ExceptT.mk (.ask c next))) (onSuccess fun _ => inv) scene := by
  rw [ensures_step, ensures_calls, Pass.ensures_interruptible]
  split
  · exact trivial
  · refine (Pass.ensures_abandonable_ask c next _).mpr ?_
    intro response state _
    dsimp only
    split
    · refine (h.abandonable (hnext _) (hfirst response _ state)).mono fun o scene' hscene => ?_
      rcases o with _ | fault | a
      · exact trivial
      · exact trivial
      · exact hscene
    · exact trivial

/-- The kubeconfig is fetched before anything else is asked for. -/
theorem ensures_sync_hasListed (id : ClusterId) (h : HasListed scene) :
    Ensures conduct (step (Credentials.sync cluster id))
      (onSuccess fun _ scene' => HasListed scene' ∧ ¬ Unfetched scene'.log) scene := by
  refine ensures_step_of_first (preserves_hasListed_fetched conduct) ?_ ?_
  · exact fun reply => ((Credentials.sync_only cluster id).2 reply).mono fun _ _ => trivial
  · intro response abandoned state
    refine ⟨?_, fun hunfetched => ?_⟩
    · have hchecked := (preserves_hasListed conduct).checked scene h
      exact (preserves_hasListed Conduct.any).after _ _ response abandoned state (by simp) trivial
        hchecked
    · exact absurd (hunfetched _ (List.mem_append_right _ List.mem_cons_self)) (by simp [
        Event.fetchesKubeconfig, Call.fetchesKubeconfig])

theorem ensures_update_hasListed (remote : RemoteCluster) (h : Unfetched scene.log) :
    Ensures conduct (update cluster remote) (onSuccess fun _ => HasListed) scene := by
  have hannounced : ∀ scene : Scene σ, Unfetched scene.log →
      Ensures conduct (updateAnnounced cluster remote) (onSuccess fun _ => HasListed) scene := by
    intro scene h
    have hasked : (Call.updateCluster remote.id (updateRequest cluster remote)).ask.Only
        fun c => c.fetchesKubeconfig = false := ⟨rfl, fun _ => trivial⟩
    refine ((keeps_unfetched_step (Step.only_provider hasked)).onSuccess h).bind_onSuccess
      fun _ _ h => ?_
    refine (ensures_convergePools_hasListed remote.id h).bind_onSuccess fun _ _ hlisted => ?_
    refine (ensures_sync_hasListed remote.id hlisted).bind_onSuccess fun synced _ hfetched => ?_
    split
    · have hready : Keeps conduct (fun scene => HasListed scene ∧ ¬ Unfetched scene.log)
          (step (isReady remote.id)) := fun _ hfetched =>
        (preserves_hasListed_fetched conduct).step
          ((isReady_only remote.id).mono fun _ _ => trivial) hfetched
      refine (hready.onSuccess hfetched).bind_onSuccess fun ready _ hfetched => ?_
      split
      · exact (keeps_hasListed_markActive.onSuccess hfetched.1).bind_onSuccess
          fun _ _ hlisted => hlisted
      · exact hfetched.1
    · exact hfetched.1
  rw [update_eq]
  split
  · exact ((keeps_unfetched_enter .updating).onSuccess h).bind_onSuccess
      fun _ scene h => hannounced scene h
  · exact hannounced scene h

/-- An attempt that does not fail leaves the pools of the last listing in memory. -/
theorem ensures_converge_hasListed (h : Unfetched scene.log) :
    Ensures conduct (converge cluster) (onSuccess fun _ => HasListed) scene := by
  rw [converge, ensures_bind, ensures_status, Dialogue.orFault_ok]
  split
  · exact ensures_create_hasListed h
  · next id _ =>
      have hasked : (Call.getCluster id).ask.Only fun c => c.fetchesKubeconfig = false :=
        ⟨rfl, fun _ => trivial⟩
      have hgot : Keeps conduct (fun scene => Unfetched scene.log)
          (calls (Call.getCluster id).ask) := fun _ h =>
        (preserves_unfetched conduct).calls hasked h
      refine (hgot.onSuccess h).bind_onSuccess fun reply scene h => ?_
      split
      · exact ensures_update_hasListed _ h
      · exact ensures_create_hasListed h
      · exact trivial

end Attempt

/-- The status on record is never behind an attempt: it is the status in memory at every call on the
provider and on the secrets, and at the end unless the attempt ended in a write that failed. What is
written has no failure, and an attempt that did not fail leaves the pools of its last listing. -/
theorem record_never_behind (world : World σ) (cluster : ClusterDeclaration) (cancelled : Bool)
    (entry : ClusterStatus) (state : σ) :
    let change := world.run (Attempt.converge cluster).run (.start cancelled entry state)
    let removal := world.run (Attempt.tearDown cluster).run (.start cancelled entry state)
    EndsOnRecord entry change.1 change.2 ∧ EndsOnRecord entry removal.1 removal.2 ∧
      ∀ progress, change.1 = .ok progress → ∃ listing,
        lastListing? change.2.log = some listing ∧
        change.2.memory.pools = Pools.observed listing := by
  intro change removal
  have hentry : OnRecord entry ((Scene.start cancelled entry state).through id) :=
    ⟨rfl, KeepsRecord.nil entry⟩
  have hkeeps := world.keeps_any (id : σ → σ)
  refine ⟨?_, ?_, ?_⟩
  · exact World.run_of_ensures hkeeps (Attempt.stays_converge cluster _ hentry)
  · exact World.run_of_ensures hkeeps
      ((Attempt.inherited_staysOnRecord Conduct.any cluster entry).tearDown _ hentry)
  · intro progress hok
    have hunfetched : Unfetched ((Scene.start cancelled entry state).through (id : σ → σ)).log :=
      fun event hevent => absurd hevent List.not_mem_nil
    have hensures : Attempt.Ensures Conduct.any (Attempt.converge cluster) _ _ :=
      Attempt.ensures_converge_hasListed hunfetched
    have hlisted := World.run_of_ensures hkeeps hensures
    change Attempt.onSuccess _ change.1 _ at hlisted
    rw [hok] at hlisted
    exact hlisted

/-- A world that accepts a cluster, writes its status and lists one pool. -/
def listingWorld : World Unit where
  respond := fun
    | .createCluster _, s => (promptly (.ok remoteWorkshop), s)
    | .patchStatus .., s => (promptly (.ok ()), s)
    | .listPools _, s => (promptly (.ok [smallPool]), s)
    | c, s => (promptly c.unreached, s)

/-- In that world an attempt does not fail, and it leaves the pool that was listed. -/
theorem listing_workshop_observed :
    let change := listingWorld.run (Attempt.converge workshop).run (.start false .blank ())
    change.1 = .ok .inFlight ∧ lastListing? change.2.log = some [smallPool] ∧
      change.2.memory.pools = Pools.observed [smallPool] ∧
      (Pools.observed [smallPool]).get? "workers" =
        some ⟨some 5, ⟨2, "g6-standard-1", none⟩⟩ := by
  have hending : (listingWorld.run (Attempt.converge workshop).run
      (.start false .blank ())).1 = .ok .inFlight := by rfl
  have hlisted : lastListing? (listingWorld.run (Attempt.converge workshop).run
      (.start false .blank ())).2.log = some [smallPool] := by rfl
  obtain ⟨listing, hlast, hpools⟩ :=
    (record_never_behind listingWorld workshop false .blank ()).2.2 .inFlight hending
  obtain rfl : [smallPool] = listing := Option.some.inj (hlisted.symm.trans hlast)
  exact ⟨hending, hlisted, hpools, by decide +kernel⟩

end ClusterKeeper
