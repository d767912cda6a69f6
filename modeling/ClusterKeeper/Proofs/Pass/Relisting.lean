import ClusterKeeper.Proofs.Logic.Parallel
import ClusterKeeper.Proofs.Pass.Report
import ClusterKeeper.Proofs.Pools.Disturbance
import ClusterKeeper.Proofs.Pools.Ranking
/-!
Pools that are listed in another order.

Of a listing a pass looks at the pools that it observes there and at whether all nodes are ready,
and neither depends on the order. So two worlds that differ in nothing but the order in which they
list pools see the same calls of a pass, with the same arguments, and the pass comes to the same end.
-/

namespace ClusterKeeper

open Dialogue (Parallel BothEnd bothEnd_eq only_question)
open Pools

variable {σ α β : Type} {cluster : ClusterDeclaration} {id : ClusterId} {settings : Settings}

/-- A listing shows what the other shows of the pools. -/
structure ShowsSame (pools listing : List RemotePool) : Prop where
  observed : observed pools = observed listing
  ready : allNodesReady pools = allNodesReady listing

theorem showsSame_of_perm {pools listing : List RemotePool} (hsound : IsSound pools)
    (hperm : listing.Perm pools) : ShowsSame pools listing where
  observed := (observed_perm hsound hperm).symm
  ready := hperm.symm.all_eq

namespace Call

/-- The call asks for the pools. -/
def ListsPools : Call → Prop
  | listPools _ => True
  | _ => False

/-- The replies to the call differ in no more than the order of sound pools. -/
inductive Relists : (c : Call) → c.Reply → c.Reply → Prop where
  | same {c : Call} (reply : c.Reply) : Relists c reply reply
  | listed {id : ClusterId} {pools listing : List RemotePool} :
      IsSound pools → listing.Perm pools →
      Relists (.listPools id) (Except.ok pools) (Except.ok listing)

theorem Relists.eq {c : Call} (hc : ¬ c.ListsPools) {reply reply' : c.Reply}
    (h : c.Relists reply reply') : reply = reply' := by
  cases h with
  | same => rfl
  | listed => exact absurd trivial hc

theorem Relists.showsSame {reply reply' : Except ProviderFault (List RemotePool)}
    (h : Relists (.listPools id) reply reply') : BothEnd ShowsSame reply reply' := by
  cases h with
  | same =>
      cases reply with
      | ok pools => exact .ok ⟨rfl, rfl⟩
      | error cause => exact .error
  | listed hsound hperm => exact .ok (showsSame_of_perm hsound hperm)

end Call

namespace Prompt

/-- The prompt asks for the pools. -/
def ListsPools : Prompt → Prop
  | call c | interruptibleCall c => c.ListsPools
  | _ => False

/-- The answers to the prompt differ in no more than the order of sound pools. -/
def Relists : (p : Prompt) → p.Answer → p.Answer → Prop
  | call c => c.Relists
  | interruptibleCall c => Option.Rel c.Relists
  | isCancelled | memory | record _ => Eq

theorem Relists.eq {p : Prompt} (hp : ¬ p.ListsPools) {answer answer' : p.Answer}
    (h : p.Relists answer answer') : answer = answer' := by
  cases p with
  | call c => exact Call.Relists.eq hp h
  | interruptibleCall c =>
      rcases h with hreply | _
      · rw [Call.Relists.eq hp hreply]
      · rfl
  | isCancelled => exact h
  | memory => exact h
  | record status => exact h

end Prompt

/-- The worlds respond alike, but for the order in which they list sound pools. -/
structure World.Relists (world other : World σ) : Prop where
  reply : ∀ (c : Call) s, c.Relists (world.respond c s).1.reply (other.respond c s).1.reply
  cancels : ∀ c s, (world.respond c s).1.cancels = (other.respond c s).1.cancels
  suspends : ∀ c s, (world.respond c s).1.suspends = (other.respond c s).1.suspends
  state : ∀ c s, (world.respond c s).2 = (other.respond c s).2

namespace Scene

/-- The same calls were made, and the pass stands where it stands in the other scene. -/
structure SameCourse (left right : Scene σ) : Prop where
  cancelled : left.cancelled = right.cancelled
  memory : left.memory = right.memory
  calls : left.calls = right.calls
  state : left.state = right.state

theorem SameCourse.refl (scene : Scene σ) : SameCourse scene scene := ⟨rfl, rfl, rfl, rfl⟩

end Scene

namespace World.Relists

variable {world other : World σ} {left right : Scene σ}

theorem sameCourse_after (h : world.Relists other) (hsame : left.SameCourse right) (c : Call)
    (abandoned : Bool) :
    Scene.SameCourse
      (after left c (world.respond c left.state).1 abandoned (world.respond c left.state).2)
      (after right c (other.respond c right.state).1 abandoned
        (other.respond c right.state).2) where
  cancelled := by
    dsimp only [after]
    rw [hsame.cancelled, hsame.state, h.cancels]
  memory := hsame.memory
  calls := by
    rw [Scene.calls_after, Scene.calls_after, hsame.calls]
  state := by
    dsimp only [after]
    rw [hsame.state, h.state]

/-- Whatever is asked, the answers differ in no more than the order of pools. -/
theorem answer (h : world.Relists other) (hsame : left.SameCourse right) (p : Prompt) :
    p.Relists (world.answer p left).1 (other.answer p right).1 ∧
      Scene.SameCourse (world.answer p left).2 (other.answer p right).2 := by
  cases p with
  | call c =>
      refine ⟨?_, h.sameCourse_after hsame c false⟩
      change c.Relists (world.respond c left.state).1.reply (other.respond c right.state).1.reply
      rw [hsame.state]
      exact h.reply c right.state
  | interruptibleCall c =>
      dsimp only [World.answer, answerInterruptible]
      have hgivenUp : ((left.cancelled || (world.respond c left.state).1.cancels) &&
          (world.respond c left.state).1.suspends) =
          ((right.cancelled || (other.respond c right.state).1.cancels) &&
            (other.respond c right.state).1.suspends) := by
        rw [hsame.cancelled, hsame.state, h.cancels, h.suspends]
      rw [hgivenUp]
      refine ⟨?_, h.sameCourse_after hsame c _⟩
      rw [hsame.state]
      split
      · exact .none
      · exact .some (h.reply c right.state)
  | isCancelled =>
      refine ⟨hsame.cancelled, hsame.cancelled, hsame.memory, ?_, hsame.state⟩
      change left.checked.calls = right.checked.calls
      rw [Scene.calls_checked, Scene.calls_checked, hsame.calls]
  | memory => exact ⟨hsame.memory, hsame⟩
  | record status => exact ⟨rfl, hsame.cancelled, rfl, hsame.calls, hsame.state⟩

end World.Relists

namespace Pass

/-- Where the answers differ in no more than the order of pools, the pass does the same. -/
def IsSteady (pass : Pass α) : Prop := Parallel Prompt.Relists Eq pass pass

theorem isSteady_of_only {pass : Pass α} (h : pass.Only fun p => ¬ p.ListsPools) :
    pass.IsSteady :=
  .of_only (h.mono fun _ hp _ _ => Prompt.Relists.eq hp)

theorem IsSteady.bind {pass : Pass α} {next : α → Pass β} (h : pass.IsSteady)
    (hnext : ∀ a, (next a).IsSteady) : (pass >>= next).IsSteady := by
  refine Parallel.bind h ?_
  rintro a _ rfl
  exact hnext a

variable {rel : α → β → Prop} {sequence : Calls α} {sequence' : Calls β}

theorem parallel_abandonable (h : Parallel Call.Relists rel sequence sequence') :
    Parallel Prompt.Relists (Option.Rel rel) (abandonable sequence) (abandonable sequence') := by
  induction h with
  | done hends => exact .done (.some hends)
  | ask _ ih =>
      refine .ask fun answer answer' halike => ?_
      rcases halike with hreply | _
      · exact ih _ _ hreply
      · exact .done .none

theorem parallel_interruptible (h : Parallel Call.Relists rel sequence sequence') :
    Parallel Prompt.Relists (Option.Rel rel) (interruptible sequence)
      (interruptible sequence') := by
  refine .ask fun (cancelled cancelled' : Bool) halike => ?_
  obtain rfl : cancelled = cancelled' := halike
  cases cancelled with
  | true => exact .done .none
  | false => exact parallel_abandonable h

end Pass

namespace Step

/-- A step that does not ask for the pools. -/
theorem parallel_self {s : Step α} (h : s.run.Only fun c => ¬ c.ListsPools) :
    Parallel Call.Relists (BothEnd Eq) s.run s.run :=
  Parallel.mono (fun _ _ => bothEnd_eq.mpr)
    (.of_only (h.mono fun _ hc _ _ => Call.Relists.eq hc))

/-- One call of the provider that does not ask for the pools. -/
theorem provider_not_listsPools {operation : String} {ask : Calls (Except ProviderFault α)}
    (c : Call) (hask : ask.Only (· = c)) (hc : ¬ c.ListsPools) :
    (provider operation ask).run.Only fun c => ¬ c.ListsPools := by
  apply only_provider (hask.mono ?_)
  rintro _ rfl
  exact hc

end Step

namespace Attempt

/-- Where the answers differ in no more than the order of pools, the attempts make the same calls
and come to related ends. -/
def Goes (rel : α → β → Prop) (attempt : Attempt α) (other : Attempt β) : Prop :=
  Parallel Prompt.Relists (BothEnd rel) attempt.run other.run

/-- Where the answers differ in no more than the order of pools, the attempt does the same. -/
def IsSteady (attempt : Attempt α) : Prop := Goes Eq attempt attempt

variable {rel : α → β → Prop}

theorem isSteady_of_only {attempt : Attempt α} (h : attempt.run.Only fun p => ¬ p.ListsPools) :
    attempt.IsSteady :=
  (Pass.isSteady_of_only h).mono fun _ _ => bothEnd_eq.mpr

theorem IsSteady.run {attempt : Attempt α} (h : attempt.IsSteady) : Pass.IsSteady attempt.run :=
  Parallel.mono (fun _ _ => bothEnd_eq.mp) h

theorem isSteady_pure (a : α) : IsSteady (pure a) := isSteady_of_only trivial

theorem isSteady_throw (fault : Fault) : IsSteady (throw fault : Attempt α) :=
  isSteady_of_only trivial

theorem IsSteady.bind {attempt : Attempt α} {next : α → Attempt β} (h : attempt.IsSteady)
    (hnext : ∀ a, (next a).IsSteady) : (attempt >>= next).IsSteady := by
  refine Parallel.run_bind h ?_
  rintro a _ rfl
  exact hnext a

theorem goes_calls {sequence : Calls α} {sequence' : Calls β}
    (h : Parallel Call.Relists rel sequence sequence') :
    Goes rel (calls sequence) (calls sequence') := by
  refine (Pass.parallel_interruptible h).bind fun o o' hends => ?_
  rcases hends with hrel | _
  · exact .done (.ok hrel)
  · exact .done .error

theorem goes_step {s : Step α} {s' : Step β}
    (h : Parallel Call.Relists (BothEnd rel) s.run s'.run) : Goes rel (step s) (step s') := by
  refine Parallel.run_bind (goes_calls h) fun r r' hends => ?_
  rcases hends with hrel | _
  · exact .done (.ok hrel)
  · exact .done .error

theorem isSteady_calls {sequence : Calls α} (h : sequence.Only fun c => ¬ c.ListsPools) :
    IsSteady (calls sequence) :=
  goes_calls (.of_only (h.mono fun _ hc _ _ => Call.Relists.eq hc))

theorem isSteady_ask (c : Call) (hc : ¬ c.ListsPools) : IsSteady (calls c.ask) :=
  isSteady_calls (only_question hc)

theorem isSteady_step {s : Step α} (h : s.run.Only fun c => ¬ c.ListsPools) :
    IsSteady (step s) :=
  goes_step (Step.parallel_self h)

theorem isSteady_status : IsSteady status := isSteady_of_only ⟨not_false, fun _ => trivial⟩

theorem isSteady_modifyStatus (change : ClusterStatus → ClusterStatus) :
    IsSteady (modifyStatus change) :=
  isSteady_of_only ⟨not_false, fun _ => ⟨not_false, fun _ => trivial⟩⟩

theorem isSteady_amend (change : StatusChange) : IsSteady (amend cluster change) := by
  refine (isSteady_modifyStatus change.apply).bind fun _ => ?_
  refine (isSteady_modifyStatus _).bind fun _ => ?_
  exact isSteady_status.bind fun _ => isSteady_of_only (only_question not_false)

theorem isSteady_amendUnless (met : ClusterStatus → Prop) [DecidablePred met]
    (change : StatusChange) : IsSteady (amendUnless cluster met change) := by
  refine isSteady_status.bind fun current => ?_
  split
  · exact isSteady_pure ()
  · exact isSteady_amend change

theorem isSteady_enter (phase : Phase) : IsSteady (enter cluster phase) := by
  rw [enter_eq]
  exact isSteady_amendUnless _ _

end Attempt

/-- Whether the provider lists the pools in another order makes no difference to what is seen. -/
theorem Step.parallel_listPools (id : ClusterId) :
    Parallel Call.Relists (BothEnd ShowsSame)
      (Step.provider listPoolsOperation (Call.listPools id).ask).run
      (Step.provider listPoolsOperation (Call.listPools id).ask).run := by
  refine .ask fun reply reply' halike => ?_
  rcases halike.showsSame with hshows | _
  · exact .done (.ok hshows)
  · exact .done .error

theorem chooseVersion_not_listsPools (spec : ClusterSpec) :
    (chooseVersion spec).run.Only fun c => ¬ c.ListsPools := by
  apply (chooseVersion_only spec).mono
  rintro _ rfl
  exact id

theorem Credentials.sync_not_listsPools (cluster : ClusterDeclaration) (id : ClusterId) :
    (sync cluster id).run.Only fun c => ¬ c.ListsPools := by
  apply (sync_only cluster id).mono
  rintro c (rfl | hc)
  · exact fun hlists => hlists
  · cases c <;> first | exact fun hlists => hlists | exact hc.elim

theorem PoolPlan.apply_not_listsPools (id : ClusterId) (plan : PoolPlan) :
    (plan.apply id).run.Only fun c => ¬ c.ListsPools := by
  apply (plan.apply_only id).mono
  rintro _ ⟨action, _, rfl⟩
  cases action <;> exact fun hlists => hlists

namespace Attempt

/-- What is done with a listing depends on no more than the pools observed there. -/
theorem isSteady_listing {next : List RemotePool → Attempt α}
    (hobserved : ∀ pools listing, observed pools = observed listing → next pools = next listing)
    (hnext : ∀ listing, (next listing).IsSteady) :
    IsSteady (step (Step.provider listPoolsOperation (Call.listPools id).ask) >>= next) := by
  refine Parallel.run_bind (goes_step (Step.parallel_listPools id)) fun pools listing hshows => ?_
  rw [hobserved pools listing hshows.observed]
  exact hnext listing

theorem isSteady_observed (id : ClusterId) :
    IsSteady (observePools id >>= fun _ => persist cluster) := by
  rw [observePools, bind_assoc]
  apply isSteady_listing
  · intro pools listing hobserved
    rw [hobserved]
  · exact fun listing => isSteady_amend (.observe (observed listing))

theorem isSteady_convergePools (id : ClusterId) : IsSteady (convergePools cluster id) := by
  apply isSteady_listing
  · intro pools listing hobserved
    rw [hobserved]
  · intro listing
    change IsSteady (if (poolPlan cluster listing).isEmpty = true then _ else _)
    split
    · exact isSteady_amendUnless (·.pools = observed listing) (.observe (observed listing))
    · refine (isSteady_enter .updating).bind fun _ => ?_
      refine (isSteady_step (PoolPlan.apply_not_listsPools id _)).bind fun _ => ?_
      exact isSteady_observed id

theorem isSteady_isReady (id : ClusterId) : IsSteady (step (isReady id)) := by
  have hfetch : (Step.provider getClusterOperation (Call.getCluster id).ask).run.Only
      fun c => ¬ c.ListsPools :=
    Step.provider_not_listsPools (.getCluster id) (only_question rfl) not_false
  refine goes_step (Parallel.run_bind (Step.parallel_self hfetch) ?_)
  rintro remote _ rfl
  split
  · refine Parallel.run_bind (Step.parallel_listPools id) fun pools listing hshows => ?_
    rw [hshows.ready]
    exact .done (.ok rfl)
  · exact .done (.ok rfl)

theorem isSteady_makeReady (remote : RemoteCluster) : IsSteady (makeReady cluster remote) := by
  have hannounce : IsSteady (announce cluster remote) := by
    unfold announce
    split
    · exact isSteady_enter .updating
    · exact isSteady_pure ()
  refine hannounce.bind fun _ => ?_
  refine (isSteady_step (Step.provider_not_listsPools
    (.updateCluster remote.id (updateRequest cluster remote)) (only_question rfl)
    not_false)).bind fun _ => ?_
  refine (isSteady_convergePools remote.id).bind fun _ => ?_
  refine (isSteady_step (Credentials.sync_not_listsPools cluster remote.id)).bind fun synced => ?_
  cases synced with
  | false => exact isSteady_pure false
  | true => exact isSteady_isReady remote.id

theorem isSteady_conclude (ready : Bool) : IsSteady (conclude cluster ready) := by
  cases ready with
  | false => exact isSteady_pure Progress.inFlight
  | true =>
      refine IsSteady.bind ?_ fun _ => isSteady_pure Progress.settled
      rw [markActive_eq]
      exact isSteady_amendUnless _ _

theorem isSteady_create : IsSteady (create cluster) := by
  rw [create_eq]
  refine (isSteady_step (chooseVersion_not_listsPools cluster.spec)).bind fun version => ?_
  refine (isSteady_step (Step.provider_not_listsPools
    (.createCluster (creationRequest cluster version)) (only_question rfl)
    not_false)).bind fun created => ?_
  have hrecorded : IsSteady (recordCreated cluster created.id) := isSteady_amend (.adopt created.id)
  refine hrecorded.bind fun _ => ?_
  exact (isSteady_observed created.id).bind fun _ => isSteady_pure Progress.inFlight

theorem isSteady_converge : IsSteady (converge cluster) := by
  rw [converge_eq]
  refine isSteady_status.bind fun current => ?_
  cases current.clusterId with
  | none => exact isSteady_create
  | some id =>
      refine (isSteady_ask (.getCluster id) not_false).bind fun reply => ?_
      cases (reply : Except ProviderFault RemoteCluster) with
      | ok remote =>
          dsimp only
          rw [update_eq_makeReady]
          exact (isSteady_makeReady remote).bind isSteady_conclude
      | error cause =>
          cases cause with
          | notFound => exact isSteady_create
          | _ => exact isSteady_throw _

theorem isSteady_tearDown : IsSteady (tearDown cluster) := by
  rw [tearDown_eq]
  refine isSteady_status.bind fun current => ?_
  cases current.clusterId with
  | none => exact isSteady_throw _
  | some id =>
      refine (isSteady_enter .deleting).bind fun _ => ?_
      refine (isSteady_ask (.getCluster id) not_false).bind fun reply => ?_
      cases (reply : Except ProviderFault RemoteCluster) with
      | ok _ =>
          refine (isSteady_ask (.deleteCluster id) not_false).bind fun reply => ?_
          cases (reply : Except ProviderFault Unit) with
          | ok _ => exact isSteady_pure _
          | error cause =>
              cases cause with
              | notFound => exact isSteady_pure _
              | _ => exact isSteady_throw _
      | error cause =>
          cases cause with
          | notFound => exact isSteady_pure _
          | _ => exact isSteady_throw _

theorem isSteady_engage : IsSteady (engage cluster) := by
  have hconnect : IsSteady (ExceptT.mk (Pass.call (.connect cluster.spec.tokenSecretRef))) :=
    isSteady_of_only (only_question fun hlists => hlists)
  refine hconnect.bind fun _ => ?_
  unfold main
  split
  · exact isSteady_tearDown
  · exact isSteady_converge

end Attempt

namespace Pass

theorem isSteady_recordFailure (fault : Fault) : IsSteady (recordFailure cluster fault) := by
  apply isSteady_of_only
  unfold recordFailure
  split
  · exact trivial
  · exact ⟨not_false, fun _ => ⟨not_false, fun _ => ⟨not_false, fun _ => trivial⟩⟩⟩

theorem isSteady_releaseResource (ending : PassEnd) :
    IsSteady (releaseResource cluster ending) := by
  refine isSteady_of_only ⟨not_false, fun reply => ?_⟩
  cases (reply : Except Fault Unit) <;> exact trivial

theorem isSteady_guardResource : IsSteady (guardResource cluster) := by
  apply isSteady_of_only
  unfold guardResource
  cases cluster.isGuarded with
  | true => exact trivial
  | false => exact only_question not_false

theorem isSteady_done (a : α) : IsSteady (.done a) := .done rfl

theorem isSteady_prepare : IsSteady (prepare cluster) := by
  unfold prepare
  split
  · split
    · exact isSteady_done _
    · split
      · rw [map_eq_pure_bind]
        exact (isSteady_releaseResource .idle).bind fun _ => isSteady_done _
      · exact isSteady_done _
  · split
    · next fault _ => exact (isSteady_recordFailure fault).bind fun _ => isSteady_done _
    · refine isSteady_guardResource.bind fun guarded => ?_
      cases guarded <;> exact isSteady_done _

theorem isSteady_wrapUp (r : Except Fault Progress) : IsSteady (wrapUp settings cluster r) := by
  cases r with
  | error fault => exact (isSteady_recordFailure fault).bind fun _ => isSteady_done _
  | ok progress =>
      dsimp only [wrapUp]
      split
      · exact isSteady_releaseResource _
      · exact isSteady_done _

/-- A pass does the same, whatever the order in which the provider lists the pools. -/
theorem isSteady_reconcile (settings : Settings) (cluster : ClusterDeclaration) :
    IsSteady (reconcile settings cluster) := by
  have hrecord : IsSteady (record cluster.currentStatus) :=
    isSteady_of_only ⟨not_false, fun _ => trivial⟩
  rw [reconcile_eq]
  refine hrecord.bind fun _ => ?_
  refine isSteady_prepare.bind fun found => ?_
  cases found with
  | some ending => exact isSteady_done ending
  | none => exact Attempt.isSteady_engage.run.bind isSteady_wrapUp

end Pass

/-- What is made of sound pools does not depend on the order in which they are listed. Every name
that a pool has is kept for the first of that name, and every other pool under its identifier; the
plan is the same; and a pass makes the same calls, comes to the same end, and leaves the same status
and the same state, whichever order the provider chooses each time. -/
theorem listing_order_immaterial {pools listing : List RemotePool} (hsound : IsSound pools)
    (hperm : listing.Perm pools) :
    observed listing = observed pools ∧ KeptByRank pools (observed pools) ∧
      (∀ shapes, planFor shapes listing = planFor shapes pools) ∧
      ∀ {σ : Type} {world other : World σ}, world.Relists other →
        ∀ (settings : Settings) (cluster : ClusterDeclaration) (scene : Scene σ),
          let run := world.run (reconcile settings cluster) scene
          let run' := other.run (reconcile settings cluster) scene
          run.1 = run'.1 ∧ run.2.SameCourse run'.2 := by
  refine ⟨observed_perm hsound hperm, keptByRank_observed hsound,
    fun shapes => planFor_perm hsound hperm shapes, ?_⟩
  intro σ world other hrelists settings cluster scene
  have hanswer : ∀ (p : Prompt) (left right : Scene σ), left.SameCourse right →
      p.Relists (world.answer p left).1 (other.answer p right).1 ∧
        (world.answer p left).2.SameCourse (other.answer p right).2 :=
    fun p _ _ hsame => hrelists.answer hsame p
  exact (Pass.isSteady_reconcile settings cluster).run hanswer (Scene.SameCourse.refl scene)

/-- The world, but for the pools that it lists. -/
def World.listing (world : World σ) (pools : List RemotePool) : World σ where
  respond := fun
    | .listPools _, s => (promptly (.ok pools), s)
    | c, s => world.respond c s

theorem World.relists_listing (world : World σ) {pools listing : List RemotePool}
    (hsound : IsSound pools) (hperm : listing.Perm pools) :
    (world.listing pools).Relists (world.listing listing) where
  reply := by
    intro c s
    cases c with
    | listPools id => exact .listed hsound hperm
    | _ => exact .same _
  cancels := by rintro (_ | _) s <;> rfl
  suspends := by rintro (_ | _) s <;> rfl
  state := by rintro (_ | _) s <;> rfl

/-- The provider of a ready cluster, which can be reached and accepts all requests about pools. -/
def obligingWorld : World Unit where
  respond := fun
    | .updatePool .., s | .deletePool .., s => (promptly (.ok ()), s)
    | c, s => reachableWorld.respond c s

/-- Two pools of one name among others, listed in either direction. -/
theorem mixed_pools_reversed :
    IsSound mixedPools ∧ mixedPools.reverse.Perm mixedPools ∧
      observed mixedPools.reverse = observed mixedPools ∧
      KeptByRank mixedPools (observed mixedPools) ∧
      planFor mixedShapes mixedPools.reverse = planFor mixedShapes mixedPools ∧
      (obligingWorld.listing mixedPools).Relists (obligingWorld.listing mixedPools.reverse) ∧
      let run := (obligingWorld.listing mixedPools).run
        (reconcile Settings.standard activeWorkshop) (.start false .blank ())
      let run' := (obligingWorld.listing mixedPools.reverse).run
        (reconcile Settings.standard activeWorkshop) (.start false .blank ())
      run.1.result = .ok (.requeue Settings.standard.resyncDelay) ∧ run.1 = run'.1 ∧
        run.2.SameCourse run'.2 := by
  have hperm := mixedPools.reverse_perm
  have hrelists := obligingWorld.relists_listing isSound_mixedPools hperm
  obtain ⟨hobserved, hkept, hplan, hpass⟩ := listing_order_immaterial isSound_mixedPools hperm
  refine ⟨isSound_mixedPools, hperm, hobserved, hkept, hplan mixedShapes, hrelists, ?_,
    hpass hrelists Settings.standard activeWorkshop (.start false .blank ())⟩
  decide +kernel

end ClusterKeeper
