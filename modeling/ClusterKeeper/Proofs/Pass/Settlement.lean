import ClusterKeeper.Proofs.Pass.Explanation
import ClusterKeeper.Proofs.Pass.Identifier
import ClusterKeeper.Proofs.Pools.Runs
import ClusterKeeper.Proofs.Settling.Site
/-!
When an attempt settles.

While nobody stops it, an attempt to bring a known cluster nearer to its declaration settles just
where every call went as it should: the cluster was found and changed, its pools were as declared or
brought there, its kubeconfig was in the secret or put there, cluster and nodes were ready, and every
status was written. The phase of a ready cluster is written last, after all of that.
-/

namespace ClusterKeeper

open Dialogue

variable {σ α : Type} {conduct : Conduct σ} {cluster : ClusterDeclaration} {scene : Scene σ}
  {id : ClusterId} {turns : List (Turn Call Call.Reply)}

namespace PoolAction

/-- The request with its reply. -/
def turn (id : ClusterId) : PoolAction → Except ProviderFault Unit → Turn Call Call.Reply
  | create name shape, reply => ⟨.createPool id (Pools.creation name shape), reply⟩
  | update name pool shape, reply => ⟨.updatePool id pool (Pools.update name shape), reply⟩
  | delete _ pool, reply => ⟨.deletePool id pool, reply⟩

/-- The request was accepted, or the pool to be deleted was gone. -/
inductive IsMade (id : ClusterId) : PoolAction → Turn Call Call.Reply → Prop where
  | accepted {action : PoolAction} : IsMade id action (action.turn id (.ok ()))
  | gone {name pool} :
      IsMade id (.delete name pool) (turn id (.delete name pool) (.error .notFound))

end PoolAction

/-- The pools are as declared, or every request for them was made and they were listed again. -/
inductive PoolsBrought (cluster : ClusterDeclaration) (id : ClusterId) :
    List (Turn Call Call.Reply) → Prop where
  | already {listing} : (poolPlan cluster listing).isEmpty = true →
      PoolsBrought cluster id [⟨.listPools id, Except.ok listing⟩]
  | changed {listing work relisting} : (poolPlan cluster listing).isEmpty = false →
      List.Forall₂ (PoolAction.IsMade id) (poolPlan cluster listing).actions work →
      PoolsBrought cluster id
        (⟨.listPools id, Except.ok listing⟩ :: (work ++ [⟨.listPools id, Except.ok relisting⟩]))

/-- The secret has the kubeconfig, or one that has it was stored. -/
inductive SecretKept (cluster : ClusterDeclaration) (octets : Octets) :
    List (Turn Call Call.Reply) → Prop where
  | held {secret : Secret} : secret.entry? Credentials.entryName = some octets →
      SecretKept cluster octets
        [⟨.getSecret cluster.inNamespace (Credentials.secretName cluster.name),
          Except.ok (some secret)⟩]
  | created {secret : Secret} : secret = Credentials.newSecret cluster octets →
      secret.entry? Credentials.entryName = some octets →
      SecretKept cluster octets
        [⟨.getSecret cluster.inNamespace (Credentials.secretName cluster.name), Except.ok none⟩,
          ⟨.createSecret cluster.inNamespace secret, Except.ok ()⟩]
  | replaced {old new : Secret} : old.entry? Credentials.entryName ≠ some octets →
      new = old.withEntry Credentials.entryName octets →
      new.entry? Credentials.entryName = some octets →
      SecretKept cluster octets
        [⟨.getSecret cluster.inNamespace (Credentials.secretName cluster.name),
          Except.ok (some old)⟩, ⟨.replaceSecret cluster.inNamespace new, Except.ok ()⟩]

/-- The provider says of the cluster, and of every node of every pool, that it is ready. -/
inductive FoundReady (id : ClusterId) : List (Turn Call Call.Reply) → Prop where
  | mk {remote : RemoteCluster} {listing : List RemotePool} : remote.status = readyStatus →
      (∀ pool ∈ listing, ∀ node ∈ pool.nodes, node.status = readyStatus) →
      FoundReady id [⟨.getCluster id, Except.ok remote⟩, ⟨.listPools id, Except.ok listing⟩]

/-- A remote cluster was changed, its pools and its kubeconfig are in place, and it is ready. -/
inductive Readied (cluster : ClusterDeclaration) (remote : RemoteCluster) :
    List (Turn Call Call.Reply) → Prop where
  | mk {pools kubeconfig octets kept ready} : PoolsBrought cluster remote.id pools →
      Text.Wraps kubeconfig.content octets.toList → SecretKept cluster octets kept →
      FoundReady remote.id ready →
      Readied cluster remote
        (⟨.updateCluster remote.id (updateRequest cluster remote), Except.ok ()⟩ ::
          (pools ++ ⟨.getKubeconfig remote.id, Except.ok kubeconfig⟩ :: (kept ++ ready)))

/-- The cluster on record was found, and is ready. -/
inductive Settles (cluster : ClusterDeclaration) (id : ClusterId) :
    List (Turn Call Call.Reply) → Prop where
  | mk {remote rest} : Readied cluster remote rest →
      Settles cluster id (⟨.getCluster id, Except.ok remote⟩ :: rest)

/-- All that was exchanged is as it has to be. -/
structure Settled (cluster : ClusterDeclaration) (id : ClusterId) (exchanges : List Exchange) :
    Prop where
  written : AllWritten exchanges
  settles : Settles cluster id (transcript exchanges)

theorem plays_provider {operation : String} {calls : Calls (Except ProviderFault α)} {a : α} :
    (Step.provider operation calls).run.Plays turns (.ok a) ↔ calls.Plays turns (.ok a) := by
  change Plays (calls >>= fun reply => pure (reply.mapError (Fault.provider operation))) turns
    (Except.ok a) ↔ _
  rw [plays_bind]
  constructor
  · rintro ⟨first, _, r, rfl, hplays, rfl, hend⟩
    cases r with
    | error cause => cases hend
    | ok b =>
        cases hend
        rwa [List.append_nil]
  · intro hplays
    exact ⟨turns, [], .ok a, (List.append_nil _).symm, hplays, rfl, rfl⟩

theorem plays_discard {s : Step α} :
    (discard s).run.Plays turns (.ok ()) ↔ ∃ a, s.run.Plays turns (.ok a) := by
  have heq : discard s = s >>= fun _ => pure () := (bind_pure_comp _ s).symm
  rw [heq, plays_run_bind_ok]
  constructor
  · rintro ⟨first, second, a, rfl, hplays, hend⟩
    obtain ⟨rfl, _⟩ := plays_pure.mp hend
    exact ⟨a, by rwa [List.append_nil]⟩
  · rintro ⟨a, hplays⟩
    exact ⟨turns, [], a, (List.append_nil _).symm, hplays, plays_pure.mpr ⟨rfl, rfl⟩⟩

namespace PoolAction

theorem plays_call (action : PoolAction) {reply : Except ProviderFault Unit} :
    (action.call id).Plays turns reply ↔ turns = [action.turn id reply] := by
  cases action <;> exact plays_question

theorem isMade_of_tolerates {action : PoolAction} {cause : ProviderFault}
    (h : action.tolerates cause = true) : action.IsMade id (action.turn id (.error cause)) := by
  cases action with
  | create name shape => cases h
  | update name pool shape => cases h
  | delete name pool =>
      cases cause with
      | notFound => exact .gone
      | _ => cases h

theorem plays_perform (action : PoolAction) :
    (action.perform id).run.Plays turns (.ok ()) ↔
      ∃ turn, turns = [turn] ∧ action.IsMade id turn := by
  refine plays_bind.trans ?_
  constructor
  · rintro ⟨first, second, reply, rfl, hfirst, hsecond⟩
    rw [action.plays_call.mp hfirst]
    cases reply with
    | ok _ =>
        obtain ⟨rfl, _⟩ := hsecond
        exact ⟨_, rfl, .accepted⟩
    | error cause =>
        dsimp only at hsecond
        split at hsecond
        · next htolerates =>
            obtain ⟨rfl, _⟩ := hsecond
            exact ⟨_, rfl, isMade_of_tolerates htolerates⟩
        · cases hsecond.2
  · rintro ⟨_, rfl, hmade⟩
    cases hmade with
    | accepted => exact ⟨[_], [], .ok (), rfl, action.plays_call.mpr rfl, rfl, rfl⟩
    | gone => exact ⟨[_], [], .error .notFound, rfl, plays_question.mpr rfl, rfl, rfl⟩

end PoolAction

theorem PoolPlan.plays_apply (plan : PoolPlan) :
    (plan.apply id).run.Plays turns (.ok ()) ↔
      List.Forall₂ (PoolAction.IsMade id) plan.actions turns := by
  unfold PoolPlan.apply
  generalize plan.actions = actions
  induction actions generalizing turns with
  | nil => exact plays_pure.trans (by simp)
  | cons action rest ih =>
      refine plays_run_bind_ok.trans ?_
      constructor
      · rintro ⟨first, second, ⟨⟩, rfl, hfirst, hsecond⟩
        obtain ⟨turn, rfl, hmade⟩ := action.plays_perform.mp hfirst
        exact .cons hmade (ih.mp hsecond)
      · intro h
        cases h with
        | @cons _ turn _ work hmade hrest =>
            exact ⟨[turn], work, (), rfl, action.plays_perform.mpr ⟨turn, rfl, hmade⟩,
              ih.mpr hrest⟩

theorem plays_listPools {listing : List RemotePool} :
    (Step.provider listPoolsOperation (Call.listPools id).ask).run.Plays turns (.ok listing) ↔
      turns = [⟨.listPools id, Except.ok listing⟩] :=
  plays_provider.trans plays_question

theorem plays_convergePools :
    (Step.convergePools cluster id).run.Plays turns (.ok ()) ↔ PoolsBrought cluster id turns := by
  refine plays_run_bind_ok.trans ?_
  constructor
  · rintro ⟨first, second, listing, rfl, hfirst, hsecond⟩
    rw [plays_listPools.mp hfirst]
    split at hsecond
    · next hempty =>
        obtain ⟨rfl, _⟩ := plays_pure.mp hsecond
        exact .already hempty
    · next hempty =>
        obtain ⟨work, last, ⟨⟩, rfl, hwork, hlast⟩ := plays_run_bind_ok.mp hsecond
        obtain ⟨relisting, hrelisted⟩ := plays_discard.mp hlast
        rw [plays_listPools.mp hrelisted]
        exact .changed (by simpa using hempty) ((PoolPlan.plays_apply _).mp hwork)
  · intro h
    cases h with
    | @already listing hempty =>
        refine ⟨[_], [], listing, rfl, plays_listPools.mpr rfl, ?_⟩
        rw [if_pos hempty]
        exact plays_pure.mpr ⟨rfl, rfl⟩
    | @changed listing work relisting hempty hwork =>
        refine ⟨[_], _, listing, rfl, plays_listPools.mpr rfl, ?_⟩
        rw [if_neg (by simpa using hempty)]
        exact plays_run_bind_ok.mpr ⟨work, _, (), rfl, (PoolPlan.plays_apply _).mpr hwork,
          plays_discard.mpr ⟨relisting, plays_listPools.mpr rfl⟩⟩

theorem plays_store {octets : Octets} :
    (Credentials.store cluster octets).run.Plays turns (.ok ()) ↔
      SecretKept cluster octets turns := by
  refine plays_run_bind_ok.trans ?_
  constructor
  · rintro ⟨first, second, found, rfl, hfirst, hsecond⟩
    rw [plays_question.mp hfirst]
    cases found with
    | none =>
        rw [plays_question.mp hsecond]
        exact .created rfl (Credentials.kubeconfig_newSecret cluster octets)
    | some secret =>
        dsimp only at hsecond
        split at hsecond
        · next hheld =>
            obtain ⟨rfl, _⟩ := plays_pure.mp hsecond
            exact .held hheld
        · next hother =>
            rw [plays_question.mp hsecond]
            exact .replaced hother rfl (secret.octets_withEntry Credentials.entryName octets)
  · intro h
    cases h with
    | @held secret hheld =>
        refine ⟨[_], [], some secret, rfl, plays_question.mpr rfl, ?_⟩
        dsimp only
        rw [if_pos hheld]
        exact plays_pure.mpr ⟨rfl, rfl⟩
    | created hsecret _ =>
        subst hsecret
        exact ⟨[_], [_], none, rfl, plays_question.mpr rfl, plays_question.mpr rfl⟩
    | @replaced old new hother hnew _ =>
        subst hnew
        refine ⟨[_], [_], some old, rfl, plays_question.mpr rfl, ?_⟩
        dsimp only
        rw [if_neg hother]
        exact plays_question.mpr rfl

theorem plays_sync :
    (Credentials.sync cluster id).run.Plays turns (.ok true) ↔
      ∃ kubeconfig octets kept, turns = ⟨.getKubeconfig id, Except.ok kubeconfig⟩ :: kept ∧
        Text.Wraps kubeconfig.content octets.toList ∧ SecretKept cluster octets kept := by
  refine plays_run_bind_ok.trans ?_
  constructor
  · rintro ⟨first, second, reply, rfl, hfirst, hsecond⟩
    rw [plays_question.mp (plays_lift_ok.mp hfirst)]
    cases (reply : Except ProviderFault EncodedKubeconfig) with
    | error cause => cases cause <;> cases hsecond.2
    | ok kubeconfig =>
        obtain ⟨_, kept, octets, rfl, hdecode, hstore⟩ := plays_run_bind_ok.mp hsecond
        obtain ⟨rfl, hdecoded⟩ := plays_liftExcept.mp hdecode
        obtain ⟨kept, _, _, rfl, hkept, hend⟩ := plays_run_bind_ok.mp hstore
        obtain ⟨rfl, _⟩ := plays_pure.mp hend
        exact ⟨kubeconfig, octets, _, rfl, Credentials.decode_eq_ok_iff.mp hdecoded,
          by simpa using plays_store.mp hkept⟩
  · rintro ⟨kubeconfig, octets, kept, rfl, hwraps, hkept⟩
    have hdecoded := Credentials.decode_eq_ok_iff.mpr hwraps
    refine ⟨[_], kept, Except.ok kubeconfig, rfl, plays_lift_ok.mpr (plays_question.mpr rfl), ?_⟩
    refine plays_run_bind_ok.mpr ⟨[], kept, octets, rfl, plays_liftExcept.mpr ⟨rfl, hdecoded⟩, ?_⟩
    exact plays_run_bind_ok.mpr ⟨kept, [], (), (List.append_nil _).symm, plays_store.mpr hkept,
      plays_pure.mpr ⟨rfl, rfl⟩⟩

theorem plays_isReady :
    (isReady id).run.Plays turns (.ok true) ↔ FoundReady id turns := by
  refine plays_run_bind_ok.trans ?_
  constructor
  · rintro ⟨first, second, remote, rfl, hfirst, hsecond⟩
    rw [plays_question.mp (plays_provider.mp hfirst)]
    split at hsecond
    · next hstatus =>
        obtain ⟨_, _, listing, rfl, hlisted, hend⟩ := plays_run_bind_ok.mp hsecond
        rw [plays_listPools.mp hlisted]
        obtain ⟨rfl, hnodes⟩ := plays_pure.mp hend
        exact .mk hstatus (allNodesReady_iff.mp hnodes)
    · cases (plays_pure.mp hsecond).2
  · intro h
    cases h with
    | @mk remote listing hstatus hnodes =>
        refine ⟨[_], [_], remote, rfl, plays_provider.mpr (plays_question.mpr rfl), ?_⟩
        rw [if_pos hstatus]
        exact plays_run_bind_ok.mpr ⟨[_], [], listing, rfl, plays_listPools.mpr rfl,
          plays_pure.mpr ⟨rfl, allNodesReady_iff.mpr hnodes⟩⟩

theorem plays_makeReady {remote : RemoteCluster} :
    (Step.makeReady cluster remote).run.Plays turns (.ok true) ↔ Readied cluster remote turns := by
  refine plays_run_bind_ok.trans ?_
  constructor
  · rintro ⟨first, second, ⟨⟩, rfl, hupdate, hsecond⟩
    rw [plays_question.mp (plays_provider.mp hupdate)]
    obtain ⟨pools, _, ⟨⟩, rfl, hpools, hsecond⟩ := plays_run_bind_ok.mp hsecond
    obtain ⟨_, ready, synced, rfl, hsync, hready⟩ := plays_run_bind_ok.mp hsecond
    cases synced with
    | false => cases (plays_pure.mp hready).2
    | true =>
        obtain ⟨kubeconfig, octets, kept, rfl, hwraps, hkept⟩ := plays_sync.mp hsync
        exact .mk (plays_convergePools.mp hpools) hwraps hkept (plays_isReady.mp hready)
  · intro h
    cases h with
    | @mk pools kubeconfig octets kept ready hpools hwraps hkept hready =>
        refine ⟨[_], _, (), rfl, plays_provider.mpr (plays_question.mpr rfl), ?_⟩
        refine plays_run_bind_ok.mpr ⟨pools, _, (), rfl, plays_convergePools.mpr hpools, ?_⟩
        exact plays_run_bind_ok.mpr ⟨_ :: kept, ready, true, rfl,
          plays_sync.mpr ⟨kubeconfig, octets, kept, rfl, hwraps, hkept⟩,
          plays_isReady.mpr hready⟩

/-- A creation is never the end. -/
theorem not_plays_create : ¬ (Step.create cluster).run.Plays turns (.ok .settled) := by
  intro h
  obtain ⟨_, _, version, _, _, h⟩ := plays_run_bind_ok.mp h
  obtain ⟨_, _, created, _, _, h⟩ := plays_run_bind_ok.mp h
  obtain ⟨_, _, _, _, _, h⟩ := plays_run_bind_ok.mp h
  cases (plays_pure.mp h).2

theorem plays_converge :
    (Step.converge cluster (some id)).run.Plays turns (.ok .settled) ↔
      Settles cluster id turns := by
  refine plays_run_bind_ok.trans ?_
  constructor
  · rintro ⟨first, second, reply, rfl, hfirst, hsecond⟩
    rw [plays_question.mp (plays_lift_ok.mp hfirst)]
    cases (reply : Except ProviderFault RemoteCluster) with
    | ok remote =>
        obtain ⟨rest, _, ready, rfl, hrest, hend⟩ := plays_run_bind_ok.mp hsecond
        obtain ⟨rfl, hsettled⟩ := plays_pure.mp hend
        cases ready with
        | false => cases hsettled
        | true =>
            rw [List.append_nil]
            exact .mk (plays_makeReady.mp hrest)
    | error cause =>
        cases cause with
        | notFound => exact absurd hsecond not_plays_create
        | _ => cases hsecond.2
  · intro h
    cases h with
    | @mk remote rest hrest =>
        refine ⟨[_], rest, Except.ok remote, rfl, plays_lift_ok.mpr (plays_question.mpr rfl), ?_⟩
        exact plays_run_bind_ok.mpr ⟨rest, [], true, (List.append_nil _).symm,
          plays_makeReady.mpr hrest, plays_pure.mpr ⟨rfl, rfl⟩⟩

/-- Unless the phase was active at the beginning, it is not, and was not to be written. -/
def Inactive (entry : ClusterStatus) (scene : Scene σ) : Prop :=
  entry.phase ≠ .active → scene.memory.phase ≠ .active ∧
    ∀ e ∈ scene.exchanges, ∀ status, e.Writes status → status.phase ≠ .active

theorem preserves_inactive (conduct : Conduct σ) (entry : ClusterStatus) :
    conduct.Preserves (fun c => ¬ c.WritesStatus) (Inactive entry) where
  checked := by
    intro scene h hentry
    rw [Scene.exchanges_checked]
    exact h hentry
  after := by
    intro scene c response abandoned state hkind _ h hentry
    refine ⟨(h hentry).1, Scene.forall_exchanges_after.mpr ⟨(h hentry).2, ?_⟩⟩
    rintro status ⟨inNamespace, name, hcall⟩
    rw [show c = _ from hcall] at hkind
    exact absurd trivial hkind

/-- No other amendment enters the active phase. -/
theorem StatusChange.phase_written_ne {change : StatusChange} (h : change ≠ .enter .active)
    {status : ClusterStatus} (hstatus : status.phase ≠ .active) :
    (change.written status).phase ≠ .active := by
  cases change with
  | enter phase =>
      rintro rfl
      exact h rfl
  | observe pools => exact hstatus
  | adopt id => simp [written, apply]

theorem keeps_inactive (entry : ClusterStatus) {kind : Call → Prop} {attempt : Attempt α}
    {s : Step α} (h : Attempt.ErasesTo cluster kind (· ≠ .enter .active) attempt s)
    (hkind : ∀ c, kind c → ¬ c.WritesStatus) :
    Attempt.Keeps conduct (Inactive entry) attempt := by
  apply h.keeps ((preserves_inactive conduct entry).mono hkind)
  intro change hchange scene hscene
  rw [Attempt.ensures_amend]
  intro response state _ hentry
  obtain ⟨hphase, hwrites⟩ := hscene hentry
  have hwritten := StatusChange.phase_written_ne hchange hphase
  refine ⟨hwritten, Scene.forall_exchanges_after.mpr ⟨hwrites, ?_⟩⟩
  rintro status ⟨inNamespace, name, hcall⟩
  cases hcall
  exact hwritten

/-- How an attempt ends as far as the active phase goes. -/
structure Concludes (cluster : ClusterDeclaration) (id : ClusterId) (entry : ClusterStatus)
    (r : Except Fault Progress) (scene : Scene σ) : Prop where
  active : r = .ok .settled →
    scene.memory.phase = .active ∧ scene.memory.failureMessage = none
  /-- The active phase is written last, after all else was as it has to be. -/
  last : entry.phase ≠ .active → ∀ before e after status,
    scene.exchanges = before ++ e :: after → e.Writes status → status.phase = .active →
    after = [] ∧ Settled cluster id before

theorem Inactive.concludes {entry : ClusterStatus} (h : Inactive entry scene)
    {r : Except Fault Progress} (hr : r ≠ .ok .settled) : Concludes cluster id entry r scene where
  active := fun hsettled => absurd hsettled hr
  last := by
    intro hentry before e after status hsplit hwrites hactive
    have hmem : e ∈ scene.exchanges := by simp [hsplit]
    exact absurd hactive ((h hentry).2 e hmem status hwrites)

/-- However the write of the active phase goes, it is the last. -/
theorem Inactive.concludes_active {entry : ClusterStatus} (h : Inactive entry scene)
    (hsettled : Settled cluster id scene.exchanges) {status : ClusterStatus}
    (hstatus : status = (StatusChange.enter .active).written scene.memory)
    (response : Response (Call.patchStatus cluster.inNamespace cluster.name status).Reply)
    (state : σ) (r : Except Fault Progress) :
    Concludes cluster id entry r (World.after (scene.recording status)
      (.patchStatus cluster.inNamespace cluster.name status) response false state) where
  active := by
    intro _
    rw [hstatus]
    exact ⟨rfl, rfl⟩
  last := by
    intro hentry before e after other hsplit hwrites hactive
    rw [Scene.exchanges_after] at hsplit
    rcases snoc_eq_append_cons hsplit with ⟨rfl, rfl⟩ | ⟨rest, hbefore, _⟩
    · rw [← List.append_inj_left' hsplit rfl]
      exact ⟨rfl, hsettled⟩
    · have hscene : scene.exchanges = before ++ e :: rest := hbefore
      have hmem : e ∈ scene.exchanges := by simp [hscene]
      exact absurd hactive ((h hentry).2 e hmem other hwrites)

theorem ensures_conclude {entry : ClusterStatus} (h : Inactive entry scene) {ready : Bool}
    (hready : ready = true → Settled cluster id scene.exchanges) :
    Attempt.Ensures conduct (Attempt.conclude cluster ready) (Concludes cluster id entry)
      scene := by
  cases ready with
  | false => exact h.concludes (by simp)
  | true =>
      change Attempt.Ensures conduct
        (Attempt.markActive cluster >>= fun _ => pure Progress.settled) _ scene
      rw [Attempt.ensures_bind, Attempt.markActive_eq, Attempt.ensures_amendUnless]
      split
      · next hmet =>
          refine ⟨fun _ => hmet, ?_⟩
          exact fun hentry => absurd hmet.1 (h hentry).1
      · rw [Attempt.ensures_amend]
        intro response state _
        have hlast := h.concludes_active (hready rfl) rfl response state
        cases hreply : (response.reply : Except Fault Unit) with
        | ok _ => exact hlast _
        | error fault => exact hlast _

/-- A creation ends without the active phase. -/
theorem ensures_create_concludes (hcalm : conduct.IsCalm) (hgoing : scene.cancelled = false)
    {entry : ClusterStatus} (h : Inactive entry scene) :
    Attempt.Ensures conduct (Attempt.create cluster) (Concludes cluster id entry) scene := by
  have herases : Attempt.ErasesTo cluster Call.Founds (· ≠ .enter .active)
      (Attempt.create cluster) (Step.create cluster) :=
    Attempt.erases_create trivial (fun _ => trivial) (fun _ => trivial) (by simp) (by simp)
  have hkind : ∀ c : Call, c.Founds → ¬ c.WritesStatus :=
    fun _ hc => hc.isConverging.not_writesStatus
  refine ((keeps_inactive entry herases hkind scene h).and
    (herases.ensures_explained hkind hcalm hgoing)).mono ?_
  rintro r scene' ⟨hinactive, rest, _, hexplained⟩
  apply hinactive.concludes
  rintro rfl
  exact not_plays_create ((hexplained.eq_ok_iff .settled).mp rfl).2

theorem ensures_update_concludes (hcalm : conduct.IsCalm) (hgoing : scene.cancelled = false)
    {entry : ClusterStatus} (h : Inactive entry scene) (remote : RemoteCluster)
    (hwritten : AllWritten scene.exchanges)
    (hfound : transcript scene.exchanges = [⟨.getCluster id, Except.ok remote⟩]) :
    Attempt.Ensures conduct (Attempt.update cluster remote) (Concludes cluster id entry) scene := by
  have herases : Attempt.ErasesTo cluster Call.IsConverging (· ≠ .enter .active)
      (Attempt.makeReady cluster remote) (Step.makeReady cluster remote) := by
    apply (Attempt.erases_makeReady trivial fun _ hc => hc.isConverging).mono (fun _ hc => hc)
    rintro _ hupdate rfl
    cases hupdate
  have hkind : ∀ c : Call, c.IsConverging → ¬ c.WritesStatus := fun _ hc => hc.not_writesStatus
  rw [Attempt.update_eq_makeReady]
  refine ((keeps_inactive entry herases hkind scene h).and
    (herases.ensures_explained hkind hcalm hgoing)).bind ?_ ?_
  · rintro ready scene' ⟨hinactive, rest, hfollows, hexplained⟩
    apply ensures_conclude hinactive
    rintro rfl
    obtain ⟨hrest, hplays⟩ := (hexplained.eq_ok_iff true).mp rfl
    rw [hfollows.exchanges]
    refine ⟨allWritten_append.mpr ⟨hwritten, hrest⟩, ?_⟩
    rw [transcript_append, hfound]
    exact .mk (plays_makeReady.mp hplays)
  · rintro fault scene' ⟨hinactive, _⟩
    exact hinactive.concludes (by simp)

theorem ensures_converge_concludes (hcalm : conduct.IsCalm) (hgoing : scene.cancelled = false)
    (hid : scene.memory.clusterId = some id) (hnothing : scene.exchanges = []) :
    Attempt.Ensures conduct (Attempt.converge cluster) (Concludes cluster id scene.memory)
      scene := by
  have hinactive : Inactive scene.memory scene := by
    intro hentry
    exact ⟨hentry, by simp [hnothing]⟩
  rw [Attempt.converge_eq, Attempt.ensures_bind, Attempt.ensures_status, Dialogue.orFault_ok, hid]
  refine (Attempt.ensures_bind _ _ _).mpr ?_
  apply Attempt.ensures_calls_of_calm hcalm hgoing
  intro response state hconduct
  have hpreserves := preserves_inactive conduct scene.memory
  have hasked := hpreserves.after scene.checked (.getCluster id) response false state
    (fun hwrites => hwrites) hconduct (hpreserves.checked scene hinactive)
  have hgoes : (World.after scene.checked (.getCluster id) response false state).cancelled =
      false := by
    simp [World.after, Scene.checked, hgoing, hcalm _ _ _ _ hconduct]
  have hexchanges := Scene.exchanges_after_checked scene (.getCluster id) response false state
  rw [hnothing, List.nil_append] at hexchanges
  cases hreply : (response.reply : Except ProviderFault RemoteCluster) with
  | ok remote =>
      refine ensures_update_concludes hcalm hgoes hasked remote ?_ ?_
      · rw [hexchanges]
        exact List.forall_mem_singleton.mpr trivial
      · rw [hexchanges, ← hreply]
        rfl
  | error cause =>
      cases cause with
      | notFound => exact ensures_create_concludes hcalm hgoes hasked
      | _ => exact hasked.concludes (by simp)

/-- The world never tells a pass to stop. -/
def World.IsCalm (world : World σ) : Prop := ∀ c s, (world.respond c s).1.cancels = false

/-- What a world does that never tells a pass to stop. -/
def Conduct.calm : Conduct σ := fun _ _ response _ => response.cancels = false

/-- While nobody stops it, an attempt that begins with a known cluster settles just where everything
was as it had to be. A phase that was not active is made so after that, and last. -/
theorem converge_settles_iff {world : World σ} (hcalm : world.IsCalm)
    (cluster : ClusterDeclaration) {entry : ClusterStatus} {id : ClusterId}
    (hid : entry.clusterId = some id) (state : σ) :
    let run := world.run (Attempt.converge cluster).run (.start false entry state)
    (run.1 = .ok .settled ↔ Settled cluster id run.2.exchanges) ∧
      Concludes cluster id entry run.1 run.2 := by
  have hkeeps : world.Keeps (fun s => s) Conduct.calm := hcalm
  have hconduct : (Conduct.calm : Conduct σ).IsCalm := fun _ _ _ _ h => h
  have hexplains : Attempt.Ensures Conduct.calm (Attempt.converge cluster) (fun r scene =>
      r = .ok .settled ↔ Settled cluster id scene.exchanges)
      ((Scene.start false entry state).through fun s => s) := by
    have herases : Attempt.ErasesTo cluster Call.IsConverging StatusChange.IsConverging
        (Attempt.convergeFrom cluster entry.clusterId) _ := Attempt.erases_convergeFrom _
    rw [Attempt.converge_eq, Attempt.ensures_bind, Attempt.ensures_status, Dialogue.orFault_ok]
    refine (herases.ensures_explained (fun _ hc => hc.not_writesStatus) hconduct rfl).mono ?_
    rintro r scene ⟨rest, hfollows, hexplained⟩
    rw [hid] at hexplained
    rw [hfollows.exchanges, hexplained.eq_ok_iff, plays_converge]
    exact ⟨fun h => ⟨h.1, h.2⟩, fun h => ⟨h.written, h.settles⟩⟩
  have hconcludes : Attempt.Ensures Conduct.calm (Attempt.converge cluster)
      (Concludes cluster id entry) ((Scene.start false entry state).through fun s => s) :=
    ensures_converge_concludes hconduct rfl hid rfl
  exact ⟨World.run_of_ensures hkeeps hexplains, World.run_of_ensures hkeeps hconcludes⟩

/-- A provider of a ready cluster with one pool, and an API server without secrets. -/
def readyWorld : World Unit where
  respond := fun
    | .getCluster _, s => (promptly (.ok { remoteWorkshop with status := readyStatus }), s)
    | .listPools _, s => (promptly (.ok [smallPool]), s)
    | .getKubeconfig _, s => (promptly (.ok ⟨"a3ViZQ=="⟩), s)
    | .getSecret .., s => (promptly (.ok none), s)
    | .updateCluster .., s | .updatePool .., s | .createSecret .., s | .patchStatus .., s =>
        (promptly (.ok ()), s)
    | c, s => (promptly c.unreached, s)

/-- The status of a cluster that is not ready yet. -/
def provisioningWorkshop : ClusterStatus := ClusterStatus.blank.withCreated 42

/-- There an attempt settles, once the pool was enlarged and the secret was made. -/
theorem ready_workshop_settles :
    readyWorld.IsCalm ∧ provisioningWorkshop.clusterId = some 42 ∧
      let run := readyWorld.run (Attempt.converge workshop).run
        (.start false provisioningWorkshop ())
      run.1 = .ok .settled ∧ Settled workshop 42 run.2.exchanges ∧
        run.2.memory.phase = .active := by
  have hcalm : readyWorld.IsCalm := by
    intro c s
    cases c <;> rfl
  obtain ⟨hiff, hconcludes⟩ := converge_settles_iff hcalm workshop
    (show provisioningWorkshop.clusterId = some 42 from rfl) ()
  have hsettled : (readyWorld.run (Attempt.converge workshop).run
      (.start false provisioningWorkshop ())).1 = .ok .settled := by decide +kernel
  exact ⟨hcalm, rfl, hsettled, hiff.mp hsettled, (hconcludes.active hsettled).1⟩

end ClusterKeeper
