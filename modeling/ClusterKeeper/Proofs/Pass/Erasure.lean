import ClusterKeeper.Proofs.Logic.Transcript
import ClusterKeeper.Proofs.Pass.Courses
/-!
What is left of an attempt once the status is left out.

An attempt makes calls, and between them it amends the status and writes it. The status is read to
see which cluster is on record, and to see whether an amendment would change anything. What is left
without the amendments is a step that knows nothing of the status: the attempt erases to it. An
invariant that the calls and the amendments keep is kept by the attempt.
-/

namespace ClusterKeeper

open Dialogue (only_question)

variable {σ α β : Type} {conduct : Conduct σ} {cluster : ClusterDeclaration}

namespace Call

/-- Serves to bring a cluster nearer to its declaration. -/
def IsConverging : Call → Prop
  | connect _ | deleteCluster _ | patchStatus .. | addFinalizer .. | removeFinalizer .. => False
  | _ => True

/-- Serves to keep up a known cluster, but for its settings. -/
def IsUpkeep : Call → Prop
  | getCluster _ | getKubeconfig _ | listPools _ | createPool .. | updatePool .. | deletePool ..
  | getSecret .. | createSecret .. | replaceSecret .. => True
  | _ => False

/-- Serves to create a cluster. -/
def Founds : Call → Prop
  | listVersions | createCluster _ | listPools _ => True
  | _ => False

/-- Serves to take a cluster down. -/
def Dismantles : Call → Prop
  | getCluster _ | deleteCluster _ => True
  | _ => False

theorem IsUpkeep.isConverging {c : Call} (h : c.IsUpkeep) : c.IsConverging := by
  cases c <;> first | exact trivial | exact h

theorem Founds.isConverging {c : Call} (h : c.Founds) : c.IsConverging := by
  cases c <;> first | exact trivial | exact h

theorem Dismantles.isRoutine {c : Call} (h : c.Dismantles) : c.IsRoutine := by
  cases c <;> first | exact trivial | exact h

theorem IsConverging.not_writesStatus {c : Call} (h : c.IsConverging) : ¬ c.WritesStatus := by
  cases c with
  | patchStatus inNamespace name status => exact h.elim
  | _ => exact id

theorem IsOnSecret.isUpkeep {c : Call} (h : c.IsOnSecret cluster) : c.IsUpkeep := by
  cases c <;> first | exact trivial | exact h

end Call

theorem PoolAction.isUpkeep_toCall (id : ClusterId) (action : PoolAction) :
    (action.toCall id).IsUpkeep := by
  cases action <;> exact trivial

theorem PoolPlan.apply_isUpkeep (id : ClusterId) (plan : PoolPlan) :
    (plan.apply id).run.Only Call.IsUpkeep := by
  apply (plan.apply_only id).mono
  rintro _ ⟨action, _, rfl⟩
  exact action.isUpkeep_toCall id

theorem Credentials.sync_isUpkeep (cluster : ClusterDeclaration) (id : ClusterId) :
    (sync cluster id).run.Only Call.IsUpkeep := by
  apply (sync_only cluster id).mono
  rintro c (rfl | hc)
  · exact trivial
  · exact hc.isUpkeep

theorem isReady_isUpkeep (id : ClusterId) : (isReady id).run.Only Call.IsUpkeep := by
  apply (isReady_only id).mono
  rintro c (rfl | rfl) <;> exact trivial

theorem chooseVersion_isConverging (spec : ClusterSpec) :
    (chooseVersion spec).run.Only Call.IsConverging :=
  (chooseVersion_only spec).mono fun _ heq => heq ▸ trivial

/-- The plan for the pools that the provider lists. -/
def poolPlan (cluster : ClusterDeclaration) (listing : List RemotePool) : PoolPlan :=
  PoolPlan.between (Pools.desired cluster.spec.nodePools) (Pools.observed listing)

namespace Step

/-- A step is its calls, and ends in a fault where they do. -/
theorem eq_lift_bind (s : Step α) : s = ExceptT.lift s.run >>= fun
    | .ok a => pure a
    | .error fault => throw fault := by
  apply ExceptT.ext
  rw [ExceptT.run_bind_lift]
  calc s.run = s.run >>= pure := (bind_pure s.run).symm
    _ = _ := congrArg (s.run >>= ·) (funext fun r => by cases r <;> rfl)

/-- What is done about pools. -/
def convergePools (cluster : ClusterDeclaration) (id : ClusterId) : Step Unit := do
  let listing ← provider listPoolsOperation (Call.listPools id).ask
  if (poolPlan cluster listing).isEmpty then return ()
  (poolPlan cluster listing).apply id
  discard <| provider listPoolsOperation (Call.listPools id).ask

/-- What is done to create a cluster. -/
def create (cluster : ClusterDeclaration) : Step Progress := do
  let version ← chooseVersion cluster.spec
  let created ← provider "create cluster"
    (Call.createCluster (creationRequest cluster version)).ask
  discard <| provider listPoolsOperation (Call.listPools created.id).ask
  return .inFlight

/-- What is done until a known cluster is ready. -/
def makeReady (cluster : ClusterDeclaration) (remote : RemoteCluster) : Step Bool := do
  provider "update cluster" (Call.updateCluster remote.id (updateRequest cluster remote)).ask
  convergePools cluster remote.id
  if ← Credentials.sync cluster remote.id then isReady remote.id else return false

/-- What is done to bring a cluster nearer to its declaration, if this one is on record. -/
def converge (cluster : ClusterDeclaration) : Option ClusterId → Step Progress
  | none => create cluster
  | some id => do
      let reply : Except ProviderFault RemoteCluster ← liftM (Call.getCluster id).ask
      match reply with
      | .ok remote =>
          let ready ← makeReady cluster remote
          return if ready then .settled else .inFlight
      | .error .notFound => create cluster
      | .error cause => throw (.provider getClusterOperation cause)

/-- What is done to delete a cluster. -/
def requestDeletion (id : ClusterId) : Step Progress := do
  let reply : Except ProviderFault Unit ← liftM (Call.deleteCluster id).ask
  match reply with
  | .ok () => return .inFlight
  | .error .notFound => return .settled
  | .error cause => throw (.provider "delete cluster" cause)

/-- What is done to take a cluster down, if this one is on record. -/
def tearDown (cluster : ClusterDeclaration) : Option ClusterId → Step Progress
  | none => throw (.noClusterId cluster.name)
  | some id => do
      let reply : Except ProviderFault RemoteCluster ← liftM (Call.getCluster id).ask
      match reply with
      | .ok _ => requestDeletion id
      | .error .notFound => return .settled
      | .error cause => throw (.provider getClusterOperation cause)

end Step

/-- A change of the status in memory. -/
inductive StatusChange where
  | enter (phase : Phase)
  | observe (pools : KeyMap PoolRecord)
  /-- A new cluster is put on record. -/
  | adopt (id : ClusterId)

namespace StatusChange

def apply : StatusChange → ClusterStatus → ClusterStatus
  | enter phase, status => { status with phase }
  | observe pools, status => { status with pools }
  | adopt id, status => { status with phase := .provisioning, clusterId := some id }

/-- Changes that a known cluster calls for until it is ready. -/
def IsUpdate : StatusChange → Prop
  | enter phase => phase = .updating
  | observe _ => True
  | adopt _ => False

/-- Changes on the way to a cluster that is as declared. -/
def IsConverging : StatusChange → Prop
  | enter phase => phase = .updating ∨ phase = .active
  | observe _ | adopt _ => True

theorem IsUpdate.isConverging {change : StatusChange} (h : change.IsUpdate) :
    change.IsConverging := by
  cases change with
  | enter phase => exact Or.inl h
  | observe pools => exact trivial
  | adopt id => exact trivial

/-- The status that is written after the change. -/
def written (change : StatusChange) (status : ClusterStatus) : ClusterStatus :=
  { change.apply status with failureMessage := none }

end StatusChange

/-- A record of a failure keeps an invariant of what was exchanged, which another write keeps. -/
theorem keeps_recordFailure_exchanges {inv : List Exchange → Prop}
    (h : ∀ exchanges status response, inv exchanges →
      inv (exchanges ++ [.writing cluster status response])) (fault : Fault) (scene : Scene σ)
    (hinv : inv scene.exchanges) :
    Pass.Ensures conduct (recordFailure cluster fault) (fun _ scene' => inv scene'.exchanges)
      scene := by
  rw [Pass.ensures_recordFailure]
  split
  · exact hinv
  · intro response state _
    rw [Scene.exchanges_after]
    exact h scene.exchanges (scene.memory.withFailure fault) response hinv

namespace Attempt

/-- What holds at the end of an attempt, and what where it fails. -/
def unlessFailed (post : α → Scene σ → Prop) (failed : Fault → Scene σ → Prop) :
    Except Fault α → Scene σ → Prop
  | .ok a, scene => post a scene
  | .error fault, scene => failed fault scene

theorem Ensures.bind_unlessFailed {scene : Scene σ} {attempt : Attempt α} {next : α → Attempt β}
    {mid : α → Scene σ → Prop} {post : β → Scene σ → Prop} {failed : Fault → Scene σ → Prop}
    (h : Ensures conduct attempt (unlessFailed mid failed) scene)
    (hnext : ∀ a scene', mid a scene' →
      Ensures conduct (next a) (unlessFailed post failed) scene') :
    Ensures conduct (attempt >>= next) (unlessFailed post failed) scene :=
  h.bind hnext fun _ _ hfailed => hfailed

theorem Ensures.mono_unlessFailed {scene : Scene σ} {attempt : Attempt α}
    {weak strong : α → Scene σ → Prop} {failed : Fault → Scene σ → Prop}
    (h : Ensures conduct attempt (unlessFailed strong failed) scene)
    (himp : ∀ a scene', strong a scene' → weak a scene') :
    Ensures conduct attempt (unlessFailed weak failed) scene := by
  refine h.mono fun r scene' hscene => ?_
  cases r with
  | ok a => exact himp a scene' hscene
  | error fault => exact hscene

/-- What holds at any end holds where the attempt does not fail. -/
theorem Ensures.toUnlessFailed {scene : Scene σ} {attempt : Attempt α} {inv : Scene σ → Prop}
    {failed : Fault → Scene σ → Prop} (h : Ensures conduct attempt (fun _ => inv) scene)
    (hfailed : ∀ fault scene', inv scene' → failed fault scene') :
    Ensures conduct attempt (unlessFailed (fun _ => inv) failed) scene := by
  refine h.mono fun r scene' hscene => ?_
  cases r with
  | ok a => exact hscene
  | error fault => exact hfailed fault scene' hscene

/-- What holds where the attempt fails holds in any case if it follows at the end. -/
theorem Ensures.of_unlessFailed {scene : Scene σ} {attempt : Attempt α}
    {post : α → Scene σ → Prop} {failed : Scene σ → Prop}
    (h : Ensures conduct attempt (unlessFailed post fun _ => failed) scene)
    (himp : ∀ a scene', post a scene' → failed scene') :
    Ensures conduct attempt (fun _ => failed) scene := by
  refine h.mono fun r scene' hscene => ?_
  cases r with
  | ok a => exact himp a scene' hscene
  | error fault => exact hscene

/-- The invariant holds at the end of an attempt that began with it, and something else where it
fails. -/
def KeepsUntil (conduct : Conduct σ) (inv : Scene σ → Prop) (failed : Fault → Scene σ → Prop)
    (attempt : Attempt α) : Prop :=
  ∀ scene, inv scene → Ensures conduct attempt (unlessFailed (fun _ => inv) failed) scene

theorem KeepsUntil.bind {inv : Scene σ → Prop} {failed : Fault → Scene σ → Prop}
    {attempt : Attempt α} {next : α → Attempt β} (h : KeepsUntil conduct inv failed attempt)
    (hnext : ∀ a, KeepsUntil conduct inv failed (next a)) :
    KeepsUntil conduct inv failed (attempt >>= next) :=
  fun scene hinv => (h scene hinv).bind_unlessFailed fun a scene' => hnext a scene'

theorem keeps_iff_keepsUntil {inv : Scene σ → Prop} {attempt : Attempt α} :
    Keeps conduct inv attempt ↔ KeepsUntil conduct inv (fun _ => inv) attempt := by
  have hpost : (fun (_ : Except Fault α) => inv) = unlessFailed (fun _ => inv) fun _ => inv := by
    funext r scene
    cases r <;> rfl
  rw [Keeps, KeepsUntil, hpost]

/-- Changes the status and writes it. -/
def amend (cluster : ClusterDeclaration) (change : StatusChange) : Attempt Unit := do
  modifyStatus change.apply
  persist cluster

/-- Changes the status and writes it, unless it is so already. -/
def amendUnless (cluster : ClusterDeclaration) (met : ClusterStatus → Prop) [DecidablePred met]
    (change : StatusChange) : Attempt Unit := do
  if met (← status) then return ()
  amend cluster change

theorem ensures_amend (change : StatusChange) (post : Except Fault Unit → Scene σ → Prop)
    (scene : Scene σ) :
    Ensures conduct (amend cluster change) post scene ↔
      conduct.onCall (.patchStatus cluster.inNamespace cluster.name (change.written scene.memory))
        post (scene.recording (change.written scene.memory)) := by
  cases change <;> exact Iff.rfl

theorem ensures_amendUnless (met : ClusterStatus → Prop) [DecidablePred met]
    (change : StatusChange) (post : Except Fault Unit → Scene σ → Prop) (scene : Scene σ) :
    Ensures conduct (amendUnless cluster met change) post scene ↔
      if met scene.memory then post (.ok ()) scene
      else Ensures conduct (amend cluster change) post scene := by
  rw [amendUnless, ensures_bind, ensures_status, Dialogue.orFault_ok]
  split <;> exact Iff.rfl

/-- An invariant of what was exchanged, which another write keeps. -/
theorem keeps_amend_exchanges {inv : List Exchange → Prop}
    (h : ∀ exchanges status response, inv exchanges →
      inv (exchanges ++ [.writing cluster status response])) (change : StatusChange) :
    Keeps conduct (fun scene => inv scene.exchanges) (amend cluster change) := by
  intro scene hinv
  rw [ensures_amend]
  intro response state _
  rw [Scene.exchanges_after]
  exact h scene.exchanges (change.written scene.memory) response hinv

theorem enter_eq (phase : Phase) :
    enter cluster phase = amendUnless cluster (·.phase = phase) (.enter phase) := rfl

theorem markActive_eq : markActive cluster =
    amendUnless cluster (fun status => status.phase = .active ∧ status.failureMessage = none)
      (.enter .active) := rfl

/-- Without its amendments, which are of a kind, the attempt is the step, whose calls are of a
kind. -/
inductive ErasesTo (cluster : ClusterDeclaration) (kind : Call → Prop)
    (allowed : StatusChange → Prop) : {α : Type} → Attempt α → Step α → Prop where
  | value {α : Type} (a : α) : ErasesTo cluster kind allowed (pure a) (pure a)
  | failure {α : Type} (fault : Fault) :
      ErasesTo cluster kind allowed (throw fault : Attempt α) (throw fault)
  | bind {α β : Type} {attempt : Attempt α} {next : α → Attempt β} {first : Step α}
      {second : α → Step β} : ErasesTo cluster kind allowed attempt first →
      (∀ a, ErasesTo cluster kind allowed (next a) (second a)) →
      ErasesTo cluster kind allowed (attempt >>= next) (first >>= second)
  | calls {α : Type} {sequence : Calls α} : sequence.Only kind →
      ErasesTo cluster kind allowed (calls sequence) (ExceptT.lift sequence)
  | amend {change : StatusChange} : allowed change →
      ErasesTo cluster kind allowed (amend cluster change) (pure ())
  | amendUnless {change : StatusChange} (met : ClusterStatus → Prop) [DecidablePred met] :
      allowed change → ErasesTo cluster kind allowed (amendUnless cluster met change) (pure ())

namespace ErasesTo

variable {kind : Call → Prop} {allowed : StatusChange → Prop}

theorem step {s : Step α} (hs : s.run.Only kind) :
    ErasesTo cluster kind allowed (Attempt.step s) s := by
  have h : ErasesTo cluster kind allowed (Attempt.step s) (ExceptT.lift s.run >>= fun
      | .ok a => pure a
      | .error fault => throw fault) := by
    refine .bind (.calls hs) fun r => ?_
    cases r with
    | ok a => exact .value a
    | error cause => exact .failure cause
  rwa [← s.eq_lift_bind] at h

/-- Amendments before a step leave nothing. -/
theorem andThen {first : Attempt Unit} {next : Attempt α} {s : Step α}
    (hfirst : ErasesTo cluster kind allowed first (pure ()))
    (hnext : ErasesTo cluster kind allowed next s) :
    ErasesTo cluster kind allowed (first >>= fun _ => next) s := by
  have h := hfirst.bind fun _ => hnext
  rwa [pure_bind] at h

/-- One call of the provider. -/
theorem provider {operation : String} {c : Call} {ask : Calls (Except ProviderFault α)}
    (hask : ask.Only (· = c)) (hkind : kind c) :
    ErasesTo cluster kind allowed (Attempt.step (Step.provider operation ask))
      (Step.provider operation ask) := by
  apply step (Step.only_provider (hask.mono ?_))
  rintro _ rfl
  exact hkind

/-- An invariant that the calls and the amendments keep unless they fail is kept unless the attempt
fails. -/
theorem keepsUntil {inv : Scene σ → Prop} {failed : Fault → Scene σ → Prop} {attempt : Attempt α}
    {s : Step α} (h : ErasesTo cluster kind allowed attempt s)
    (hcalls : ∀ {β : Type} {sequence : Calls β}, sequence.Only kind →
      KeepsUntil conduct inv failed (Attempt.calls sequence))
    (hamends : ∀ change, allowed change →
      KeepsUntil conduct inv failed (Attempt.amend cluster change))
    (hfailed : ∀ fault scene, inv scene → failed fault scene) :
    KeepsUntil conduct inv failed attempt := by
  induction h with
  | value a => exact fun _ hinv => hinv
  | failure cause => exact fun scene hinv => hfailed cause scene hinv
  | bind _ _ ihfirst ihnext => exact ihfirst.bind ihnext
  | calls hsequence => exact hcalls hsequence
  | amend hchange => exact hamends _ hchange
  | amendUnless met hchange =>
      intro scene hinv
      rw [ensures_amendUnless]
      split
      · exact hinv
      · exact hamends _ hchange scene hinv

theorem keepsUntil_of_preserves {inv : Scene σ → Prop} {failed : Fault → Scene σ → Prop}
    {attempt : Attempt α} {s : Step α} (h : ErasesTo cluster kind allowed attempt s)
    (hcalls : conduct.Preserves kind inv)
    (hamends : ∀ change, allowed change →
      KeepsUntil conduct inv failed (Attempt.amend cluster change))
    (hfailed : ∀ fault scene, inv scene → failed fault scene) :
    KeepsUntil conduct inv failed attempt := by
  refine h.keepsUntil (fun hsequence scene hinv => ?_) hamends hfailed
  exact (hcalls.calls hsequence hinv).toUnlessFailed hfailed

/-- An invariant that the calls and the amendments keep is kept. -/
theorem keeps {inv : Scene σ → Prop} {attempt : Attempt α} {s : Step α}
    (h : ErasesTo cluster kind allowed attempt s) (hcalls : conduct.Preserves kind inv)
    (hamends : ∀ change, allowed change → Keeps conduct inv (Attempt.amend cluster change)) :
    Keeps conduct inv attempt := by
  rw [keeps_iff_keepsUntil]
  refine h.keepsUntil_of_preserves hcalls (fun change hchange => ?_) fun _ _ hinv => hinv
  exact keeps_iff_keepsUntil.mp (hamends change hchange)

theorem mono {wide : Call → Prop} {free : StatusChange → Prop} {attempt : Attempt α} {s : Step α}
    (h : ErasesTo cluster kind allowed attempt s) (hkind : ∀ c, kind c → wide c)
    (hallowed : ∀ change, allowed change → free change) :
    ErasesTo cluster wide free attempt s := by
  induction h with
  | value a => exact .value a
  | failure cause => exact .failure cause
  | bind _ _ ihfirst ihnext => exact .bind ihfirst ihnext
  | calls hsequence => exact .calls (hsequence.mono hkind)
  | amend hchange => exact .amend (hallowed _ hchange)
  | amendUnless met hchange => exact .amendUnless met (hallowed _ hchange)

end ErasesTo

section Parts

variable {kind : Call → Prop} {allowed : StatusChange → Prop} {id : ClusterId}

theorem erases_enter {phase : Phase} (henter : allowed (.enter phase)) :
    ErasesTo cluster kind allowed (enter cluster phase) (pure ()) := by
  rw [enter_eq]
  exact .amendUnless _ henter

theorem erases_markActive (hactive : allowed (.enter .active)) :
    ErasesTo cluster kind allowed (markActive cluster) (pure ()) := by
  rw [markActive_eq]
  exact .amendUnless _ hactive

/-- The provider is asked for the pools. -/
theorem erases_listPools (hlist : kind (.listPools id)) :
    ErasesTo cluster kind allowed
      (step (Step.provider listPoolsOperation (Call.listPools id).ask))
      (Step.provider listPoolsOperation (Call.listPools id).ask) :=
  .provider (only_question rfl) hlist

/-- The pools that the provider reports are put on record. -/
theorem erases_observed (hlist : kind (.listPools id))
    (hobserve : ∀ pools, allowed (.observe pools)) :
    ErasesTo cluster kind allowed (observePools id >>= fun _ => persist cluster)
      (discard <| Step.provider listPoolsOperation (Call.listPools id).ask) := by
  rw [observePools, bind_assoc]
  exact .bind (erases_listPools hlist) fun listing => .amend (hobserve _)

theorem erases_convergePools (hupkeep : ∀ c : Call, c.IsUpkeep → kind c)
    (hobserve : ∀ pools, allowed (.observe pools)) (henter : allowed (.enter .updating)) :
    ErasesTo cluster kind allowed (convergePools cluster id) (Step.convergePools cluster id) := by
  have hlist : kind (.listPools id) := hupkeep _ trivial
  refine .bind (erases_listPools hlist) fun listing => ?_
  change ErasesTo _ _ _ (if (poolPlan cluster listing).isEmpty = true then _ else _) _
  split
  · exact .amendUnless _ (hobserve _)
  · refine (erases_enter henter).andThen ?_
    refine .bind (.step ((PoolPlan.apply_isUpkeep id _).mono hupkeep)) fun _ => ?_
    exact erases_observed hlist hobserve

/-- Announces a change of the settings of a cluster. -/
def announce (cluster : ClusterDeclaration) (remote : RemoteCluster) : Attempt Unit :=
  if settingsDiffer cluster remote then enter cluster .updating else pure ()

theorem erases_announce (remote : RemoteCluster) (henter : allowed (.enter .updating)) :
    ErasesTo cluster kind allowed (announce cluster remote) (pure ()) := by
  unfold announce
  split
  · exact erases_enter henter
  · exact .value ()

/-- Changes a known cluster, keeps its kubeconfig, and finds out whether it is ready. -/
def makeReady (cluster : ClusterDeclaration) (remote : RemoteCluster) : Attempt Bool := do
  announce cluster remote
  step <| Step.provider "update cluster"
    (Call.updateCluster remote.id (updateRequest cluster remote)).ask
  convergePools cluster remote.id
  if ← step (Credentials.sync cluster remote.id) then step (isReady remote.id) else return false

/-- Records that a cluster is ready, if it is. -/
def conclude (cluster : ClusterDeclaration) (ready : Bool) : Attempt Progress := do
  if ready then
    markActive cluster
    return .settled
  else return .inFlight

theorem update_eq_makeReady (cluster : ClusterDeclaration) (remote : RemoteCluster) :
    update cluster remote = makeReady cluster remote >>= conclude cluster := by
  have hannounced : update cluster remote =
      announce cluster remote >>= fun _ => updateAnnounced cluster remote := by
    rw [update_eq, announce]
    split <;> rfl
  rw [hannounced, makeReady]
  simp only [updateAnnounced, bind_assoc]
  refine bind_congr fun _ => bind_congr fun _ => bind_congr fun _ => bind_congr fun synced => ?_
  cases synced with
  | false => rfl
  | true =>
      refine bind_congr fun ready => ?_
      cases ready <;> rfl

/-- Brings a cluster nearer to its declaration, if this one is on record. -/
def convergeFrom (cluster : ClusterDeclaration) : Option ClusterId → Attempt Progress
  | none => create cluster
  | some id => do
      let reply : Except ProviderFault RemoteCluster ← calls (Call.getCluster id).ask
      match reply with
      | .ok remote => update cluster remote
      | .error .notFound => create cluster
      | .error cause => throw (.provider getClusterOperation cause)

/-- Of the status no more is looked at than the identifier. -/
theorem converge_eq (cluster : ClusterDeclaration) :
    converge cluster = status >>= fun current => convergeFrom cluster current.clusterId := by
  refine congrArg (status >>= ·) (funext fun current => ?_)
  cases current.clusterId <;> rfl

theorem erases_makeReady {remote : RemoteCluster}
    (hupdate : kind (.updateCluster remote.id (updateRequest cluster remote)))
    (hupkeep : ∀ c : Call, c.IsUpkeep → kind c) :
    ErasesTo cluster kind StatusChange.IsUpdate (makeReady cluster remote)
      (Step.makeReady cluster remote) := by
  have henter : StatusChange.IsUpdate (.enter .updating) := rfl
  refine (erases_announce remote henter).andThen ?_
  refine .bind (.provider (only_question rfl) hupdate) fun _ => ?_
  refine .bind (erases_convergePools hupkeep (fun _ => trivial) henter) fun _ => ?_
  refine .bind (.step ((Credentials.sync_isUpkeep cluster remote.id).mono hupkeep)) fun synced => ?_
  cases synced with
  | false => exact .value false
  | true => exact .step ((isReady_isUpkeep remote.id).mono hupkeep)

theorem erases_conclude (hactive : allowed (.enter .active)) (ready : Bool) :
    ErasesTo cluster kind allowed (conclude cluster ready)
      (pure (if ready then Progress.settled else Progress.inFlight)) := by
  cases ready with
  | false => exact .value Progress.inFlight
  | true => exact (erases_markActive hactive).andThen (.value Progress.settled)

theorem erases_create (hversions : kind .listVersions)
    (hrequest : ∀ version, kind (.createCluster (creationRequest cluster version)))
    (hlist : ∀ id, kind (.listPools id)) (hadopt : ∀ id, allowed (.adopt id))
    (hobserve : ∀ pools, allowed (.observe pools)) :
    ErasesTo cluster kind allowed (create cluster) (Step.create cluster) := by
  have hchoice : (chooseVersion cluster.spec).run.Only kind :=
    (chooseVersion_only _).mono fun _ heq => heq ▸ hversions
  rw [create_eq]
  refine .bind (.step hchoice) fun version => ?_
  refine .bind (.provider (only_question rfl) (hrequest version)) fun created => ?_
  have hrecorded : ErasesTo cluster kind allowed (recordCreated cluster created.id) (pure ()) :=
    .amend (hadopt created.id)
  refine hrecorded.andThen ?_
  exact (erases_observed (hlist created.id) hobserve).bind fun _ => .value _

theorem erases_convergeFrom (known : Option ClusterId) :
    ErasesTo cluster Call.IsConverging StatusChange.IsConverging (convergeFrom cluster known)
      (Step.converge cluster known) := by
  have hcreate : ErasesTo cluster Call.IsConverging StatusChange.IsConverging (create cluster)
      (Step.create cluster) := erases_create trivial (fun _ => trivial) (fun _ => trivial)
    (fun _ => trivial) fun _ => trivial
  cases known with
  | none => exact hcreate
  | some id =>
      refine .bind (.calls (only_question trivial)) fun reply => ?_
      cases (reply : Except ProviderFault RemoteCluster) with
      | ok remote =>
          have hready : ErasesTo cluster Call.IsConverging StatusChange.IsConverging
              (makeReady cluster remote) (Step.makeReady cluster remote) :=
            (erases_makeReady trivial fun _ hkind => hkind.isConverging).mono (fun _ hc => hc)
              fun _ h => h.isConverging
          dsimp only
          rw [update_eq_makeReady]
          exact hready.bind fun ready => erases_conclude (Or.inr rfl) ready
      | error cause =>
          cases cause with
          | notFound => exact hcreate
          | _ => exact .failure _

/-- Takes a cluster down, if this one is on record. -/
def tearDownFrom (cluster : ClusterDeclaration) : Option ClusterId → Attempt Progress
  | none => throw (.noClusterId cluster.name)
  | some id => do
      enter cluster .deleting
      let reply : Except ProviderFault RemoteCluster ← calls (Call.getCluster id).ask
      match reply with
      | .ok _ => requestDeletion id
      | .error .notFound => return .settled
      | .error cause => throw (.provider getClusterOperation cause)

theorem tearDown_eq (cluster : ClusterDeclaration) :
    tearDown cluster = status >>= fun current => tearDownFrom cluster current.clusterId := by
  refine congrArg (status >>= ·) (funext fun current => ?_)
  cases current.clusterId <;> rfl

theorem erases_requestDeletion :
    ErasesTo cluster Call.Dismantles allowed (requestDeletion id) (Step.requestDeletion id) := by
  refine .bind (.calls (only_question trivial)) fun reply => ?_
  cases (reply : Except ProviderFault Unit) with
  | ok _ => exact .value _
  | error cause =>
      cases cause with
      | notFound => exact .value _
      | _ => exact .failure _

theorem erases_tearDownFrom (known : Option ClusterId) :
    ErasesTo cluster Call.Dismantles (· = .enter .deleting) (tearDownFrom cluster known)
      (Step.tearDown cluster known) := by
  cases known with
  | none => exact .failure _
  | some id =>
      refine ErasesTo.andThen (erases_enter rfl) ?_
      refine .bind (.calls (only_question trivial)) fun reply => ?_
      cases (reply : Except ProviderFault RemoteCluster) with
      | ok remote => exact erases_requestDeletion
      | error cause =>
          cases cause with
          | notFound => exact .value _
          | _ => exact .failure _

end Parts

end Attempt

end ClusterKeeper
