import ClusterKeeper.Proofs.Pass.Agreement
import ClusterKeeper.Proofs.Pass.Settlement
/-!
The status is advice, but for the cluster on record.

Two attempts that begin with the same cluster on record do the same, whatever else their statuses
say. Where a converging attempt is through, its status has the pools as last observed, whatever it
began with, and where it settled nothing is left of what it began with.
-/

namespace ClusterKeeper

open Dialogue (only_question)

variable {σ τ : Type} {world : World σ} {view : σ → τ} {cluster : ClusterDeclaration}
  {id : ClusterId}

namespace ClusterStatus

/-- The same cluster is on record. -/
def SameCluster (s t : ClusterStatus) : Prop := s.clusterId = t.clusterId

/-- The same cluster is on record, and the same pools. -/
structure SameObserved (s t : ClusterStatus) : Prop where
  clusterId : s.clusterId = t.clusterId
  pools : s.pools = t.pools

/-- Nothing but the phase and the failure told them apart. -/
theorem SameObserved.active_eq {s t : ClusterStatus} (h : s.SameObserved t) :
    (StatusChange.enter .active).written s = (StatusChange.enter .active).written t := by
  obtain ⟨phase, known, pools, failure⟩ := s
  obtain ⟨hknown, hpools⟩ := h
  cases hknown
  cases hpools
  rfl

/-- What an attempt that is through makes of statuses with the same cluster. -/
structure Levelled (progress : Progress) (s t : ClusterStatus) : Prop where
  observed : SameObserved s t
  settled : progress = .settled → s = t

end ClusterStatus

open ClusterStatus (SameCluster SameObserved Levelled)

namespace StatusChange

theorem clusterId_enter_unless (phase : Phase) (met : ClusterStatus → Prop) [DecidablePred met]
    (s : ClusterStatus) : ((enter phase).unless met s).clusterId = s.clusterId := by
  unfold StatusChange.unless
  split <;> rfl

/-- The pools are on record afterwards, whether they were before or not. -/
theorem observe_unless (pools : KeyMap PoolRecord) {s t : ClusterStatus} (h : SameCluster s t) :
    SameObserved ((observe pools).unless (·.pools = pools) s)
      ((observe pools).unless (·.pools = pools) t) := by
  have hobserved : ∀ s : ClusterStatus,
      ((observe pools).unless (·.pools = pools) s).clusterId = s.clusterId ∧
        ((observe pools).unless (·.pools = pools) s).pools = pools := by
    intro s
    unfold StatusChange.unless
    split
    · next hpools => exact ⟨rfl, hpools⟩
    · exact ⟨rfl, rfl⟩
  obtain ⟨hleft, hpoolsLeft⟩ := hobserved s
  obtain ⟨hright, hpoolsRight⟩ := hobserved t
  exact ⟨(hleft.trans h).trans hright.symm, hpoolsLeft.trans hpoolsRight.symm⟩

/-- The status of a ready cluster is as if it had been written. -/
theorem active_unless (s : ClusterStatus) :
    (enter .active).unless (fun status => status.phase = .active ∧ status.failureMessage = none) s =
      (enter .active).written s := by
  unfold StatusChange.unless
  split
  · next hmet =>
      obtain ⟨phase, known, pools, failure⟩ := s
      obtain ⟨hphase, hfailure⟩ := hmet
      cases hphase
      cases hfailure
      rfl
  · rfl

end StatusChange

namespace Attempt

variable (haside : world.WritesAside view)
include haside

/-- Steps on the way to a cluster that is as declared write no status. -/
theorem agrees_converging {α : Type} {before : ClusterStatus → ClusterStatus → Prop} {s : Step α}
    (hkind : s.run.Only Call.IsConverging) :
    Agrees world view before (fun _ => before) (step s) :=
  agrees_step haside (hkind.mono fun _ hc => hc.not_writesStatus)

theorem agrees_upkeep {α : Type} {before : ClusterStatus → ClusterStatus → Prop} {s : Step α}
    (hkind : s.run.Only Call.IsUpkeep) : Agrees world view before (fun _ => before) (step s) :=
  agrees_converging haside (hkind.mono fun _ hc => hc.isConverging)

theorem agrees_listPools {before : ClusterStatus → ClusterStatus → Prop} :
    Agrees world view before (fun _ => before)
      (step (Step.provider listPoolsOperation (Call.listPools id).ask)) :=
  agrees_converging haside (Step.only_provider (only_question trivial))

theorem agrees_enter (phase : Phase) :
    Agrees world view SameCluster (fun _ => SameCluster) (enter cluster phase) := by
  rw [enter_eq]
  apply agrees_amendUnless haside
  intro s t h
  rw [SameCluster, StatusChange.clusterId_enter_unless, StatusChange.clusterId_enter_unless]
  exact h

/-- The pools that are listed last are those on record. -/
theorem agrees_observed :
    Agrees world view SameCluster (fun _ => SameObserved)
      (observePools id >>= fun _ => persist cluster) := by
  rw [observePools, bind_assoc]
  refine (agrees_listPools haside).bind fun listing => ?_
  exact agrees_amend haside (.observe (Pools.observed listing)) fun _ _ h => ⟨h, rfl⟩

theorem agrees_convergePools :
    Agrees world view SameCluster (fun _ => SameObserved) (convergePools cluster id) := by
  refine (agrees_listPools haside).bind fun listing => ?_
  change Agrees _ _ _ _ (if (poolPlan cluster listing).isEmpty = true then _ else _)
  split
  · have hobserved : Agrees world view SameCluster (fun _ => SameObserved) (amendUnless cluster
        (·.pools = Pools.observed listing) (.observe (Pools.observed listing))) :=
      agrees_amendUnless haside _ fun _ _ => StatusChange.observe_unless _
    exact hobserved
  · refine (agrees_enter haside .updating).bind fun _ => ?_
    exact (agrees_upkeep haside (PoolPlan.apply_isUpkeep id _)).bind fun _ => agrees_observed haside

theorem agrees_announce (remote : RemoteCluster) :
    Agrees world view SameCluster (fun _ => SameCluster) (announce cluster remote) := by
  unfold announce
  split
  · exact agrees_enter haside .updating
  · exact agrees_pure _ fun _ _ h => h

theorem agrees_makeReady (remote : RemoteCluster) :
    Agrees world view SameCluster (fun _ => SameObserved) (makeReady cluster remote) := by
  refine (agrees_announce haside remote).bind fun _ => ?_
  refine (agrees_converging haside (Step.only_provider (only_question trivial))).bind fun _ => ?_
  refine (agrees_convergePools haside).bind fun _ => ?_
  refine (agrees_upkeep haside (Credentials.sync_isUpkeep cluster remote.id)).bind
    fun synced => ?_
  cases synced with
  | false => exact agrees_pure _ fun _ _ h => h
  | true => exact agrees_upkeep haside (isReady_isUpkeep remote.id)

theorem agrees_conclude (ready : Bool) :
    Agrees world view SameObserved Levelled (conclude cluster ready) := by
  cases ready with
  | false => exact agrees_pure _ fun _ _ h => ⟨h, nofun⟩
  | true =>
      have hactive : Agrees world view SameObserved (fun _ => Eq) (markActive cluster) := by
        rw [markActive_eq]
        apply agrees_amendUnless haside
        intro s t h
        rw [StatusChange.active_unless, StatusChange.active_unless]
        exact h.active_eq
      refine hactive.bind fun _ => agrees_pure _ ?_
      rintro s _ rfl
      exact ⟨⟨rfl, rfl⟩, fun _ => rfl⟩

theorem agrees_create : Agrees world view SameCluster Levelled (create cluster) := by
  rw [create_eq]
  refine (agrees_converging haside (chooseVersion_isConverging _)).bind fun version => ?_
  refine (agrees_converging haside (Step.only_provider (only_question trivial))).bind
    fun created => ?_
  have hrecorded : Agrees world view SameCluster (fun _ => SameCluster)
      (recordCreated cluster created.id) :=
    agrees_amend haside (.adopt created.id) fun _ _ _ => rfl
  refine hrecorded.bind fun _ => (agrees_observed haside).bind fun _ => ?_
  exact agrees_pure _ fun _ _ h => ⟨h, nofun⟩

/-- Converging attempts with the same cluster on record agree. -/
theorem agrees_converge : Agrees world view SameCluster Levelled (converge cluster) := by
  rw [converge_eq]
  apply agrees_status
  intro s t h
  refine ⟨congrArg (convergeFrom cluster) h, ?_⟩
  cases s.clusterId with
  | none => exact agrees_create haside
  | some id =>
      refine (agrees_calls haside ?_).bind fun reply => ?_
      · exact only_question fun hc => hc
      cases (reply : Except ProviderFault RemoteCluster) with
      | ok remote =>
          dsimp only
          rw [update_eq_makeReady]
          exact (agrees_makeReady haside remote).bind fun ready => agrees_conclude haside ready
      | error cause =>
          cases cause with
          | notFound => exact agrees_create haside
          | _ => exact agrees_throw _

theorem agrees_requestDeletion :
    Agrees world view SameCluster (fun _ => SameCluster) (requestDeletion id) := by
  refine (agrees_calls haside ?_).bind fun reply => ?_
  · exact only_question fun hc => hc
  cases (reply : Except ProviderFault Unit) with
  | ok _ => exact agrees_pure _ fun _ _ h => h
  | error cause =>
      cases cause with
      | notFound => exact agrees_pure _ fun _ _ h => h
      | _ => exact agrees_throw _

/-- Attempts to take the same cluster down agree. -/
theorem agrees_tearDown :
    Agrees world view SameCluster (fun _ => SameCluster) (tearDown cluster) := by
  rw [tearDown_eq]
  apply agrees_status
  intro s t h
  refine ⟨congrArg (tearDownFrom cluster) h, ?_⟩
  cases s.clusterId with
  | none => exact agrees_throw _
  | some id =>
      refine (agrees_enter haside .deleting).bind fun _ => ?_
      refine (agrees_calls haside ?_).bind fun reply => ?_
      · exact only_question fun hc => hc
      cases (reply : Except ProviderFault RemoteCluster) with
      | ok remote => exact agrees_requestDeletion haside
      | error cause =>
          cases cause with
          | notFound => exact agrees_pure _ fun _ _ h => h
          | _ => exact agrees_throw _

end Attempt

/-- Where statuses are written beside everything else, attempts that begin with the same cluster on
record make the same calls besides, with the same replies, and come to the same result. A converging
attempt that is through leaves the same cluster and the same pools on record, and one that settles
leaves the same status. -/
theorem status_is_advisory (haside : world.WritesAside view) (cluster : ClusterDeclaration)
    {left right : ClusterStatus} (hid : left.clusterId = right.clusterId) (cancelled : Bool)
    (state : σ) :
    (let first := world.run (Attempt.converge cluster).run (.start cancelled left state)
     let second := world.run (Attempt.converge cluster).run (.start cancelled right state)
     transcript first.2.exchanges = transcript second.2.exchanges ∧ first.1 = second.1 ∧
       ∀ progress, first.1 = .ok progress →
         first.2.memory.clusterId = second.2.memory.clusterId ∧
           first.2.memory.pools = second.2.memory.pools ∧
           (progress = .settled → first.2.memory = second.2.memory)) ∧
    (let first := world.run (Attempt.tearDown cluster).run (.start cancelled left state)
     let second := world.run (Attempt.tearDown cluster).run (.start cancelled right state)
     transcript first.2.exchanges = transcript second.2.exchanges ∧ first.1 = second.1) := by
  have halike : Scene.Alike view (.start cancelled left state) (.start cancelled right state) :=
    ⟨rfl, rfl, rfl⟩
  have hconverge : Attempt.Agrees world view SameCluster Levelled (Attempt.converge cluster) :=
    Attempt.agrees_converge haside
  have htearDown : Attempt.Agrees world view SameCluster (fun _ => SameCluster)
      (Attempt.tearDown cluster) := Attempt.agrees_tearDown haside
  constructor
  · obtain ⟨hresult, halike', hlevelled⟩ := hconverge _ _ halike hid
    refine ⟨halike'.transcript, hresult, fun progress hok => ?_⟩
    obtain ⟨hobserved, hsettled⟩ := hlevelled progress hok
    exact ⟨hobserved.clusterId, hobserved.pools, hsettled⟩
  · obtain ⟨hresult, halike', _⟩ := htearDown _ _ halike hid
    exact ⟨halike'.transcript, hresult⟩

/-- A status of the same cluster that has nothing else right. -/
def staleWorkshop : ClusterStatus where
  phase := .active
  clusterId := some 42
  pools := Pools.desired workshop.spec.nodePools
  failureMessage := some Fault.cancelled.message

/-- Begun with either status, an attempt at the ready cluster settles with the same status. -/
theorem stale_workshop_settles :
    readyWorld.WritesAside (fun s => s) ∧
      provisioningWorkshop.clusterId = staleWorkshop.clusterId ∧
      let first := readyWorld.run (Attempt.converge workshop).run
        (.start false provisioningWorkshop ())
      let second := readyWorld.run (Attempt.converge workshop).run (.start false staleWorkshop ())
      second.1 = .ok .settled ∧ first.2.memory = second.2.memory := by
  have haside : readyWorld.WritesAside (fun s => s) := by
    refine ⟨fun _ _ _ _ => rfl, fun _ _ _ _ => rfl, fun _ _ _ _ => rfl, ?_⟩
    rintro c _ s t rfl
    exact ⟨rfl, rfl⟩
  have hid : provisioningWorkshop.clusterId = staleWorkshop.clusterId := rfl
  obtain ⟨⟨_, hresult, hlevelled⟩, _⟩ := status_is_advisory haside workshop hid false ()
  have hsettled : (readyWorld.run (Attempt.converge workshop).run
      (.start false provisioningWorkshop ())).1 = .ok .settled := by decide +kernel
  exact ⟨haside, hid, hresult.symm.trans hsettled, (hlevelled _ hsettled).2.2 rfl⟩

end ClusterKeeper
