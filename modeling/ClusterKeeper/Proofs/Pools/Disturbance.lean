import ClusterKeeper.Proofs.Pools.Converged
import ClusterKeeper.Proofs.Pools.Resumption
/-!
How little a plan disturbs.

A plan that is carried out makes no call about a pool that is right, changes one of another shape in
place where the instance type allows it, and makes new pools for the other names only. While it is
under way no declared name loses its last pool: deletions wait until every name has a pool of its
shape.
-/

namespace ClusterKeeper

open Pools

variable {shapes : KeyMap PoolShape} {name : String} {shape : PoolShape} {cluster : ClusterId}
  {start : List RemotePool} {rest : List PoolAction}

/-- What is true of the pools while a plan is carried out that began with others. -/
structure Undisturbed (shapes : KeyMap PoolShape) (start pools : List RemotePool) : Prop where
  /-- A declared name that had a pool has one. -/
  covered : ∀ name shape, shapes.get? name = some shape → (∃ pool ∈ start, nameOf pool = name) →
    ∃ pool ∈ pools, nameOf pool = name
  /-- A pool that served its name serves it. -/
  retained : ∀ pool, Serves shapes start pool →
    ∃ kept, Serves shapes pools kept ∧ kept.id = pool.id ∧ nameOf kept = nameOf pool

theorem Undisturbed.refl (shapes : KeyMap PoolShape) (pools : List RemotePool) :
    Undisturbed shapes pools pools :=
  ⟨fun _ _ _ hpool => hpool, fun pool hserves => ⟨pool, hserves, rfl, rfl⟩⟩

section Deletion

variable {pools : List RemotePool} {key : String} {id : PoolId}
  (h : Outstanding shapes (.delete key id :: rest) pools)
include h

/-- Before a deletion every declared name is served. -/
theorem Pools.Outstanding.exists_serves (hshape : shapes.get? name = some shape) :
    ∃ pool, Serves shapes pools pool ∧ nameOf pool = name := by
  by_contra hnone
  apply h.served_of_delete name
  exact ⟨⟨shape, hshape⟩, fun pool hserves hname => hnone ⟨pool, hserves, hname⟩⟩

/-- Before a deletion every declared name has a pool of its shape. -/
theorem Pools.Outstanding.exists_shaped
    (hall : Exhaustive shapes (.delete key id :: rest) pools)
    (hshape : shapes.get? name = some shape) :
    ∃ pool ∈ pools, nameOf pool = name ∧ shapeOf pool = shape := by
  obtain ⟨pool, hserves, rfl⟩ := h.exists_serves hshape
  refine ⟨pool, hserves.holder.mem, rfl, ?_⟩
  by_contra hne
  -- A change that is still to be made would come before the deletion.
  rcases List.mem_cons.mp (hall.update pool shape hserves hshape hne) with heq | hmem
  · cases heq
  · exact (List.pairwise_cons.mp h.ordered).1 _ hmem trivial

end Deletion

section Step

variable {h h' : PoolHost} {action : PoolAction} (hdecl : IsDeclarable shapes)
  (hrest : Outstanding shapes (action :: rest) h.pools) (hdone : h.CarriesOut action h')
include hdecl hrest hdone

/-- A request leaves the pools that serve, each under its name and identifier. -/
theorem serves_of_carriesOut {pool : RemotePool} (hserves : Serves shapes h.pools pool) :
    ∃ kept, Serves shapes h'.pools kept ∧ kept.id = pool.id ∧ nameOf kept = nameOf pool := by
  cases action with
  | create name shape =>
      obtain ⟨hname, _⟩ := hdecl name shape hrest.create_head.1
      obtain ⟨made, hmeets, hnew, hpools, _⟩ := hdone
      rw [hpools]
      exact ⟨pool, (hrest.serves_created_iff hname hmeets hnew).mpr (Or.inl hserves), rfl, rfl⟩
  | update name id shape =>
      obtain ⟨hname, _⟩ := hdecl name shape hrest.update_head.1
      obtain ⟨nodes, rfl⟩ := hdone
      have hkeeps := hrest.change_keeps hname nodes pool hserves.holder.mem
      exact ⟨_, (hrest.serves_changed_iff hname nodes).mpr ⟨pool, hserves, rfl⟩, hkeeps.id,
        hkeeps.name⟩
  | delete key id =>
      obtain rfl := hdone
      exact ⟨pool, hrest.serves_removed_iff.mpr hserves, rfl, rfl⟩

/-- A request leaves a pool to each declared name that has one. -/
theorem covered_of_carriesOut (hshape : shapes.get? name = some shape)
    (hcovered : ∃ pool ∈ h.pools, nameOf pool = name) :
    ∃ pool ∈ h'.pools, nameOf pool = name := by
  obtain ⟨pool, hpool, rfl⟩ := hcovered
  cases action with
  | create key want =>
      obtain ⟨made, _, _, hpools, _⟩ := hdone
      rw [hpools]
      exact ⟨pool, List.mem_append_left _ hpool, rfl⟩
  | update key id want =>
      obtain ⟨hname, _⟩ := hdecl key want hrest.update_head.1
      obtain ⟨nodes, rfl⟩ := hdone
      exact ⟨_, List.mem_map_of_mem hpool, (hrest.change_keeps hname nodes pool hpool).name⟩
  | delete key id =>
      obtain rfl := hdone
      obtain ⟨served, hserves, hname⟩ := hrest.exists_serves hshape
      exact ⟨served, (hrest.serves_removed_iff.mpr hserves).holder.mem, hname⟩

theorem undisturbed_of_carriesOut (hleft : Undisturbed shapes start h.pools) :
    Undisturbed shapes start h'.pools where
  covered := by
    intro name shape hshape hpool
    exact covered_of_carriesOut hdecl hrest hdone hshape (hleft.covered name shape hshape hpool)
  retained := by
    intro pool hserves
    obtain ⟨kept, hkept, hid, hname⟩ := hleft.retained pool hserves
    obtain ⟨kept', hkept', hid', hname'⟩ := serves_of_carriesOut hdecl hrest hdone hkept
    exact ⟨kept', hkept', hid'.trans hid, hname'.trans hname⟩

end Step

/-- What a plan has to be like wherever it is under way. -/
structure UnderWay (shapes : KeyMap PoolShape) (cluster : ClusterId) (start : List RemotePool)
    (plan : PoolPlan) (rest : List PoolAction) (scene : Scene PoolHost) : Prop where
  outstanding : Outstanding shapes rest scene.state.pools
  exhaustive : Exhaustive shapes rest scene.state.pools
  accounted : Accounted shapes start scene.state
  room : (creations rest).length ≤ scene.state.room
  undisturbed : Undisturbed shapes start scene.state.pools
  calls : scene.exchanges.map Exchange.call ++ rest.map (PoolAction.toCall cluster) =
    plan.actions.map (PoolAction.toCall cluster)

/-- What is true of a call when it is made: declared names are covered, and at a deletion they have
pools of their shapes. -/
def Covered (shapes : KeyMap PoolShape) (start : List RemotePool) (c : Call)
    (scene : Scene PoolHost) : Prop :=
  (∀ name shape, shapes.get? name = some shape → (∃ pool ∈ start, nameOf pool = name) →
    ∃ pool ∈ scene.state.pools, nameOf pool = name) ∧
  ∀ id pool, c = .deletePool id pool → ∀ name shape, shapes.get? name = some shape →
    ∃ pool ∈ scene.state.pools, nameOf pool = name ∧ shapeOf pool = shape

namespace UnderWay

variable {plan : PoolPlan} {scene : Scene PoolHost} {action : PoolAction}

theorem start_of_planFor (hsound : IsSound start) (hdecl : IsDeclarable shapes)
    (hpools : scene.state.pools = start) (hmade : scene.state.made = [])
    (hroom : (creations (planFor shapes start).actions).length ≤ scene.state.room)
    (hlog : scene.log = []) :
    UnderWay shapes cluster start (planFor shapes start) (planFor shapes start).actions scene := by
  subst hpools
  have hcalls : scene.exchanges = [] := by
    rw [Scene.exchanges, hlog]
    rfl
  exact
    { outstanding := outstanding_planFor hsound hdecl
      exhaustive := exhaustive_planFor hsound hdecl
      accounted := Accounted.refl hmade
      room := hroom
      undisturbed := Undisturbed.refl _ _
      calls := by rw [hcalls]; rfl }

theorem after (hdecl : IsDeclarable shapes)
    (h : UnderWay shapes cluster start plan (action :: rest) scene)
    {response : Response (action.toCall cluster).Reply} {host : PoolHost}
    (hconduct : Obliging cluster scene.state (action.toCall cluster) response host) :
    UnderWay shapes cluster start plan rest
      (World.after scene (action.toCall cluster) response false host) := by
  have hdone := (Obliging.carriesOut hconduct h.outstanding h.room).2
  refine ⟨?_, ?_, ?_, ?_, ?_, ?_⟩
  · exact outstanding_of_carriesOut hdecl h.outstanding hdone
  · exact exhaustive_of_carriesOut hdecl h.outstanding hdone h.exhaustive
  · exact accounted_of_carriesOut hdecl h.outstanding hdone h.accounted
  · exact room_of_carriesOut hdone h.room
  · exact undisturbed_of_carriesOut hdecl h.outstanding hdone h.undisturbed
  · rw [Scene.exchanges_after, List.map_append, List.append_assoc, ← h.calls]
    rfl

theorem covered (h : UnderWay shapes cluster start plan (action :: rest) scene) :
    Covered shapes start (action.toCall cluster) scene := by
  refine ⟨h.undisturbed.covered, ?_⟩
  intro id pool hcall name shape hshape
  cases action with
  | create key want => cases hcall
  | update key other want => cases hcall
  | delete key other => exact h.outstanding.exists_shaped h.exhaustive hshape

/-- At a provider that does not fail a plan is carried out, and it is under way until then. -/
theorem ensures_apply (hdecl : IsDeclarable shapes)
    (h : UnderWay shapes cluster start plan plan.actions scene) :
    Dialogue.Ensures ((Conduct.onCall (Obliging cluster)).checking (Covered shapes start))
      (plan.apply cluster).run
      (fun r scene' => r = .ok () ∧ UnderWay shapes cluster start plan [] scene') scene := by
  refine PoolPlan.ensures_apply_checking (UnderWay shapes cluster start plan) ?_ ?_ ?_ h ?_
  · exact fun action rest scene response host h hconduct _ => h.after hdecl hconduct
  · intro action rest scene response host fault h hconduct hpasses
    exact absurd (Obliging.carriesOut hconduct h.outstanding h.room).1 hpasses
  · exact fun scene h => ⟨rfl, h⟩
  · exact fun action rest scene h => h.covered

end UnderWay

/-- What a plan that was carried out by these calls has made of the pools of the beginning. -/
structure Renewed (shapes : KeyMap PoolShape) (cluster : ClusterId) (start : List RemotePool)
    (calls : List Call) (final : PoolHost) : Prop where
  /-- There is one pool for each declared name, of its shape, and no other. -/
  converged : IsConverged shapes final.pools
  /-- A pool that had its name and its shape is still there, and no call was made about it. -/
  spared : ∀ pool, IsHolder start pool → shapes.get? (nameOf pool) = some (shapeOf pool) →
    pool ∈ final.pools ∧ ∀ c ∈ calls, ¬ c.TouchesPool pool.id
  /-- One of another shape, but of the same instance type, was changed and is still there. -/
  adjusted : ∀ pool shape, IsHolder start pool → shapes.get? (nameOf pool) = some shape →
    shapeOf pool ≠ shape → pool.instanceType = shape.instanceType →
    Call.updatePool cluster pool.id (update (nameOf pool) shape) ∈ calls ∧
    (∀ c ∈ calls, c.TouchesPool pool.id →
      c = .updatePool cluster pool.id (update (nameOf pool) shape)) ∧
    ∃ kept ∈ final.pools, kept.id = pool.id ∧ nameOf kept = nameOf pool ∧ shapeOf kept = shape
  /-- A name without a pool of its instance type got one new pool. -/
  once : ∀ name, Lacks shapes start name → final.timesMade name = 1
  /-- No other got a new one. -/
  never : ∀ name, ¬ Lacks shapes start name → final.timesMade name = 0

section Renewal

variable {pool : RemotePool} (hsound : IsSound start) (hdecl : IsDeclarable shapes)
include hsound hdecl

/-- The one request about a pool that serves and has another shape is the change of it. -/
theorem toCall_eq_of_touchesPool (hserves : Serves shapes start pool)
    (hshape : shapes.get? (nameOf pool) = some shape) {action : PoolAction}
    (haction : action ∈ (planFor shapes start).actions)
    (htouches : (action.toCall cluster).TouchesPool pool.id) :
    action.toCall cluster = .updatePool cluster pool.id (update (nameOf pool) shape) := by
  cases action with
  | create name want => exact htouches.elim
  | update name id want =>
      obtain rfl : id = pool.id := htouches
      obtain ⟨hwant, target, htarget, rfl, hid, _⟩ :=
        (update_mem_actions_iff hsound hdecl).mp haction
      obtain rfl := hsound.eq_of_id_eq htarget.holder.mem hserves.holder.mem hid
      rw [hshape] at hwant
      rw [Option.some.inj hwant]
      rfl
  | delete key id =>
      exact absurd htouches (not_deletesPool_of_serves hsound hdecl cluster hserves haction)

theorem UnderWay.renewed {scene : Scene PoolHost}
    (h : UnderWay shapes cluster start (planFor shapes start) [] scene) :
    Renewed shapes cluster start (scene.exchanges.map Exchange.call) scene.state := by
  have hcalls : scene.exchanges.map Exchange.call =
      (planFor shapes start).actions.map (PoolAction.toCall cluster) := by
    have hall := h.calls
    rw [List.map_nil, List.append_nil] at hall
    exact hall
  have hconverged := isConverged_of_exhaustive h.outstanding h.exhaustive
  have hserved : ∀ name, ¬ Lacks shapes scene.state.pools name := by
    intro name hlacks
    obtain ⟨shape, hshape⟩ := hlacks.declared
    exact List.not_mem_nil ((h.outstanding.create name shape).mpr ⟨hshape, hlacks⟩)
  refine ⟨hconverged, ?_, ?_, ?_, ?_⟩
  · intro pool hholder hshape
    have hright : IsRight shapes start pool := ⟨⟨hholder, shapeOf pool, hshape, rfl⟩, hshape⟩
    refine ⟨(h.accounted.right pool hright).serves.holder.mem, fun c hc => ?_⟩
    rw [hcalls] at hc
    obtain ⟨action, haction, rfl⟩ := List.mem_map.mp hc
    exact not_touchesPool_of_isRight hsound hdecl cluster hright haction
  · intro pool shape hholder hshape hne htype
    have hserves : Serves shapes start pool := ⟨hholder, shape, hshape, htype⟩
    refine ⟨?_, fun c hc htouches => ?_, ?_⟩
    · have haction := (update_mem_actions_iff hsound hdecl).mpr
        ⟨hshape, pool, hserves, rfl, rfl, hne⟩
      rw [hcalls]
      exact List.mem_map.mpr ⟨_, haction, rfl⟩
    · rw [hcalls] at hc
      obtain ⟨action, haction, rfl⟩ := List.mem_map.mp hc
      exact toCall_eq_of_touchesPool hsound hdecl hserves hshape haction htouches
    · obtain ⟨kept, hkept, hid, hname⟩ := h.undisturbed.retained pool hserves
      refine ⟨kept, hkept.holder.mem, hid, hname, ?_⟩
      have hshape' := hconverged.get?_eq hkept.holder.mem
      rw [hname, hshape] at hshape'
      exact (Option.some.inj hshape').symm
  · exact fun name hlacks => h.accounted.once name hlacks (hserved name)
  · exact fun name hlacks => h.accounted.never name (Or.inl hlacks)

end Renewal

/-- A plan disturbs no more than it has to, and leaves no declared name without a pool while it is
under way. -/
theorem plan_disturbs_least {τ : Type} {world : World τ} {view : τ → PoolHost}
    (hkeeps : world.Keeps view (Obliging cluster)) (hdecl : IsDeclarable shapes)
    (cancelled : Bool) (memory : ClusterStatus) (t : τ) {listing : List RemotePool}
    (hlisting : listing.Perm (view t).pools) (hsound : IsSound (view t).pools)
    (hmade : (view t).made = [])
    (hroom : (creations (planFor shapes listing).actions).length ≤ (view t).room) :
    let calls := ((planFor shapes listing).apply cluster).run
    let run := world.runCalls calls (.start cancelled memory t)
    (run.1 = .ok () ∧ Renewed shapes cluster (view t).pools (run.2.exchanges.map Exchange.call)
      (view run.2.state)) ∧
    ∀ moment ∈ world.moments calls (.start cancelled memory t),
      Covered shapes (view t).pools moment.1 (moment.2.through view) := by
  intro calls run
  have hplan : planFor shapes listing = planFor shapes (view t).pools := by
    rw [planFor, planFor, observed_perm hsound hlisting]
  have hstart : UnderWay shapes cluster (view t).pools (planFor shapes listing)
      (planFor shapes listing).actions ((Scene.start cancelled memory t).through view) := by
    rw [hplan] at hroom ⊢
    exact UnderWay.start_of_planFor hsound hdecl rfl hmade hroom rfl
  have hrenewed : ∀ scene, UnderWay shapes cluster (view t).pools (planFor shapes listing) [] scene →
      Renewed shapes cluster (view t).pools (scene.exchanges.map Exchange.call) scene.state := by
    rw [hplan]
    exact fun scene hend => hend.renewed hsound hdecl
  have hensures := hstart.ensures_apply hdecl
  refine ⟨?_, World.moments_of_ensures hkeeps hensures⟩
  obtain ⟨hok, hend⟩ := World.runCalls_of_ensures hkeeps
    (hensures.of_checking (Conduct.onCall_mono (Obliging cluster)))
  exact ⟨hok, hrenewed _ hend⟩

/-- Pools of which one is right, one too small, one of another type, and one a duplicate. -/
def mixedPools : List RemotePool :=
  [⟨1, 2, "g6-standard-1", [tag "steady"], .off, []⟩,
   ⟨2, 2, "g6-standard-1", [tag "steady"], .off, []⟩,
   ⟨3, 1, "g6-standard-1", [tag "small"], .off, []⟩,
   ⟨4, 3, "g6-standard-1", [tag "workers"], .off, []⟩]

/-- The shapes that are declared for them, and one for a name without a pool. -/
def mixedShapes : KeyMap PoolShape :=
  KeyMap.ofList [("new", ⟨1, "g6-standard-1", none⟩), ("small", ⟨5, "g6-standard-1", none⟩),
    ("steady", ⟨2, "g6-standard-1", none⟩), ("workers", ⟨3, "g6-standard-2", none⟩)]

/-- A ledger with those pools. -/
def mixedLedger : Ledger where
  pools := mixedPools
  made := []
  upcoming := [5, 6]
  ascending := List.pairwise_pair.mpr (by decide)
  above := by
    have habove : (mixedPools.all fun pool => [5, 6].all fun id => pool.id < id) = true := by
      decide +kernel
    simpa only [List.all_eq_true, decide_eq_true_eq] using habove

theorem isSound_mixedPools : IsSound mixedPools where
  distinct := by decide +kernel
  plain := by
    have hplain : ∀ pool ∈ mixedPools, ∀ name ∈ givenName? pool, IsPlain name := by decide +kernel
    exact fun pool hpool name hname => hplain pool hpool name hname

theorem isDeclarable_mixedShapes : IsDeclarable mixedShapes := by
  have hentries : ∀ entry ∈ mixedShapes.entries, entry.1 ≠ "" ∧ IsPlain entry.1 := by
    decide +kernel
  exact fun name shape hshape => hentries (name, shape) (KeyMap.get?_eq_some_iff.mp hshape)

/-- The run of the plan for them. -/
def mixedRun : Except Fault Unit × Scene Ledger :=
  ledgerWorld.runCalls ((planFor mixedShapes mixedPools).apply 1).run
    (.start false .blank mixedLedger)

/-- The new pools are made and the small one is changed before the others go. -/
theorem mixed_disturbed_least :
    mixedRun.2.exchanges.map Exchange.call =
      [.createPool 1 (creation "new" ⟨1, "g6-standard-1", none⟩),
       .updatePool 1 3 (update "small" ⟨5, "g6-standard-1", none⟩),
       .createPool 1 (creation "workers" ⟨3, "g6-standard-2", none⟩),
       .deletePool 1 1, .deletePool 1 4] ∧
    Renewed mixedShapes 1 mixedPools (mixedRun.2.exchanges.map Exchange.call)
      mixedRun.2.state.host ∧
    ∀ moment ∈ ledgerWorld.moments ((planFor mixedShapes mixedPools).apply 1).run
        (.start false .blank mixedLedger),
      Covered mixedShapes mixedPools moment.1 (moment.2.through Ledger.host) := by
  obtain ⟨⟨_, hrenewed⟩, hcovered⟩ := plan_disturbs_least (ledgerWorld_keeps 1)
    isDeclarable_mixedShapes false .blank mixedLedger (List.Perm.refl mixedPools)
    isSound_mixedPools rfl (by decide +kernel)
  exact ⟨by decide +kernel, hrenewed, hcovered⟩

end ClusterKeeper
