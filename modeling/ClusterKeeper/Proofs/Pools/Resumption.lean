import ClusterKeeper.Pass.World
import ClusterKeeper.Proofs.Pools.Runs
/-!
Plans that are given up, and the plans that come after them.

A run of a plan may end at any request, and a request that failed may have taken effect all the
same. The next plan, made from the pools that are there then, does what is left: every name that
needed a pool got one, once over both runs, and no pool was touched that was right.
-/

namespace ClusterKeeper

open Pools

variable {shapes : KeyMap PoolShape} {name : String} {shape : PoolShape} {cluster : ClusterId}

/-- The pools of a cluster at the provider. -/
structure PoolHost where
  pools : List RemotePool
  /-- All pools that were ever made, as they were made. -/
  made : List RemotePool
  /-- How many more pools can be made. -/
  room : Nat

namespace PoolHost

/-- A pool is made, with an identifier above all others. -/
def Makes (h : PoolHost) (request : PoolCreation) (h' : PoolHost) : Prop :=
  ∃ pool, Meets pool request ∧ (∀ other ∈ h.pools, other.id < pool.id) ∧
    h'.pools = h.pools ++ [pool] ∧ h'.made = h.made ++ [pool] ∧ h'.room + 1 = h.room

/-- A pool is changed. -/
def Changes (h : PoolHost) (id : PoolId) (request : PoolUpdate) (h' : PoolHost) : Prop :=
  ∃ nodes, h' = { h with pools := withChange id request nodes h.pools }

/-- A pool is deleted. -/
def Drops (h : PoolHost) (id : PoolId) (h' : PoolHost) : Prop :=
  h' = { h with pools := without id h.pools }

/-- There is a pool of that identifier. -/
def Has (h : PoolHost) (id : PoolId) : Prop := ∃ pool ∈ h.pools, pool.id = id

/-- How many pools of that name were made. -/
def timesMade (h : PoolHost) (name : String) : Nat :=
  h.made.countP fun pool => nameOf pool == name

end PoolHost

/-- Whatever a provider accepts it carries out. It may also carry out what it does not accept. -/
def Faltering (cluster : ClusterId) (h : PoolHost) :
    (c : Call) → Response c.Reply → PoolHost → Prop
  | .createPool id request, response, h' => id = cluster →
      h.Makes request h' ∨ h' = h ∧ response.reply ≠ Except.ok ()
  | .updatePool id pool request, response, h' => id = cluster →
      h.Changes pool request h' ∨ h' = h ∧ response.reply ≠ Except.ok ()
  | .deletePool id pool, response, h' => id = cluster →
      h.Drops pool h' ∨ h' = h ∧ response.reply ≠ Except.ok ()
  | _, _, _ => True

/-- A provider carries out every request for which there is room, and about every pool it has. -/
def Obliging (cluster : ClusterId) (h : PoolHost) :
    (c : Call) → Response c.Reply → PoolHost → Prop
  | .createPool id request, response, h' => id = cluster → h.room ≠ 0 →
      response.reply = Except.ok () ∧ h.Makes request h'
  | .updatePool id pool request, response, h' => id = cluster → h.Has pool →
      response.reply = Except.ok () ∧ h.Changes pool request h'
  | .deletePool id pool, response, h' => id = cluster → h.Has pool →
      response.reply = Except.ok () ∧ h.Drops pool h'
  | _, _, _ => True

/-- The pool serves its name, and it has the declared shape. -/
structure IsRight (shapes : KeyMap PoolShape) (pools : List RemotePool) (pool : RemotePool) :
    Prop where
  serves : Serves shapes pools pool
  shape : shapes.get? (nameOf pool) = some (shapeOf pool)

/-- What has become of the pools since there were those of the beginning. -/
structure Accounted (shapes : KeyMap PoolShape) (start : List RemotePool) (h : PoolHost) :
    Prop where
  lacks : ∀ name, Lacks shapes h.pools name → Lacks shapes start name
  once : ∀ name, Lacks shapes start name → ¬ Lacks shapes h.pools name → h.timesMade name = 1
  never : ∀ name, ¬ Lacks shapes start name ∨ Lacks shapes h.pools name → h.timesMade name = 0
  serving : ∀ pool ∈ h.made, ∃ served, Serves shapes h.pools served ∧ served.id = pool.id
  right : ∀ pool, IsRight shapes start pool → IsRight shapes h.pools pool

namespace Accounted

variable {start : List RemotePool} {h h' : PoolHost} {rest : List PoolAction}

theorem refl (hmade : h.made = []) : Accounted shapes h.pools h where
  lacks := fun _ hlacks => hlacks
  once := fun _ hlacks hnot => absurd hlacks hnot
  never := by
    intro name _
    rw [PoolHost.timesMade, hmade]
    rfl
  serving := by
    intro pool hpool
    rw [hmade] at hpool
    exact absurd hpool List.not_mem_nil
  right := fun _ hright => hright

theorem makes (haccounted : Accounted shapes start h)
    (hrest : Outstanding shapes (.create name shape :: rest) h.pools) (hname : name ≠ "")
    (hmakes : h.Makes (creation name shape) h') : Accounted shapes start h' := by
  obtain ⟨pool, hmeets, hnew, hpools, hmade, _⟩ := hmakes
  have hserves : ∀ other, Serves shapes h'.pools other ↔ Serves shapes h.pools other ∨
      other = pool := by
    intro other
    rw [hpools]
    exact hrest.serves_created_iff hname hmeets hnew
  have hlacks : ∀ key, Lacks shapes h'.pools key ↔ Lacks shapes h.pools key ∧ key ≠ name := by
    intro key
    rw [hpools]
    exact hrest.lacks_created_iff hname hmeets hnew
  have htimes : ∀ key, h'.timesMade key = h.timesMade key + if name = key then 1 else 0 := by
    intro key
    rw [PoolHost.timesMade, PoolHost.timesMade, hmade, List.countP_append, List.countP_singleton,
      hmeets.nameOf_eq hname]
    simp only [beq_iff_eq]
  have hlacked := hrest.create_head.2
  constructor
  · exact fun key hkey => haccounted.lacks key ((hlacks key).mp hkey).1
  · intro key hstart hnot
    rw [htimes]
    by_cases hkey : name = key
    · subst hkey
      rw [if_pos rfl, haccounted.never name (Or.inr hlacked)]
    · rw [if_neg hkey, haccounted.once key hstart fun hold =>
        hnot ((hlacks key).mpr ⟨hold, Ne.symm hkey⟩)]
  · intro key hor
    have hkey : name ≠ key := by
      rintro rfl
      rcases hor with hstart | hold
      · exact hstart (haccounted.lacks name hlacked)
      · exact ((hlacks name).mp hold).2 rfl
    rw [htimes, if_neg hkey, haccounted.never key (hor.imp_right fun hold =>
      ((hlacks key).mp hold).1)]
  · intro other hother
    rw [hmade] at hother
    rcases List.mem_append.mp hother with hother | hother
    · obtain ⟨served, hserved, hid⟩ := haccounted.serving other hother
      exact ⟨served, (hserves served).mpr (Or.inl hserved), hid⟩
    · rw [List.mem_singleton.mp hother]
      exact ⟨pool, (hserves pool).mpr (Or.inr rfl), rfl⟩
  · intro other hright
    have hold := haccounted.right other hright
    exact ⟨(hserves other).mpr (Or.inl hold.serves), hold.shape⟩

theorem changes (haccounted : Accounted shapes start h) {id : PoolId}
    (hrest : Outstanding shapes (.update name id shape :: rest) h.pools) (hname : name ≠ "")
    (hchanges : h.Changes id (update name shape) h') : Accounted shapes start h' := by
  obtain ⟨nodes, rfl⟩ := hchanges
  have hlacks : ∀ key, Lacks shapes (withChange id (update name shape) nodes h.pools) key ↔
      Lacks shapes h.pools key := fun _ => hrest.lacks_changed_iff hname nodes
  constructor
  · exact fun key hkey => haccounted.lacks key ((hlacks key).mp hkey)
  · exact fun key hstart hnot => haccounted.once key hstart fun hold => hnot ((hlacks key).mpr hold)
  · exact fun key hor => haccounted.never key (hor.imp_right (hlacks key).mp)
  · intro other hother
    obtain ⟨served, hserved, hid⟩ := haccounted.serving other hother
    refine ⟨_, (hrest.serves_changed_iff hname nodes).mpr ⟨served, hserved, rfl⟩, ?_⟩
    rw [← hid]
    exact (hrest.change_keeps hname nodes served hserved.holder.mem).id
  · intro other hright
    have hold := haccounted.right other hright
    refine ⟨(hrest.serves_changed_iff hname nodes).mpr ⟨other, hold.serves, ?_⟩, hold.shape⟩
    rw [if_neg]
    intro hid
    obtain ⟨hshape, target, htarget, _, hid', hne⟩ := hrest.update_head
    obtain rfl := hrest.sound.eq_of_id_eq hold.serves.holder.mem htarget.holder.mem
      (hid.trans hid'.symm)
    have hshape' := hold.shape
    rw [(hrest.target_eq hold.serves.holder.mem hid).2, hshape] at hshape'
    exact hne (Option.some.inj hshape').symm

theorem drops (haccounted : Accounted shapes start h) {key : String} {id : PoolId}
    (hrest : Outstanding shapes (.delete key id :: rest) h.pools) (hdrops : h.Drops id h') :
    Accounted shapes start h' := by
  obtain rfl := hdrops
  have hnot : ∀ name, ¬ Lacks shapes (without id h.pools) name := fun _ =>
    not_lacks_without hrest.sound hrest.served_of_delete hrest.idle_of_delete
  constructor
  · exact fun name hname => absurd hname (hnot name)
  · exact fun name hstart _ => haccounted.once name hstart (hrest.served_of_delete name)
  · exact fun name hor => haccounted.never name (hor.imp_right fun hold => absurd hold (hnot name))
  · intro other hother
    obtain ⟨served, hserved, hid⟩ := haccounted.serving other hother
    exact ⟨served, hrest.serves_removed_iff.mpr hserved, hid⟩
  · intro other hright
    have hold := haccounted.right other hright
    exact ⟨hrest.serves_removed_iff.mpr hold.serves, hold.shape⟩

end Accounted

/-- The host does what a request says. -/
def PoolHost.CarriesOut (h : PoolHost) : PoolAction → PoolHost → Prop
  | .create name shape, h' => h.Makes (creation name shape) h'
  | .update name id shape, h' => h.Changes id (update name shape) h'
  | .delete _ id, h' => h.Drops id h'

section Carried

variable {start : List RemotePool} {h h' : PoolHost} {action : PoolAction} {rest : List PoolAction}
  (hdecl : IsDeclarable shapes) (hrest : Outstanding shapes (action :: rest) h.pools)
  (hdone : h.CarriesOut action h')
include hdecl hrest hdone

theorem outstanding_of_carriesOut : Outstanding shapes rest h'.pools := by
  cases action with
  | create name shape =>
      obtain ⟨hname, hplain⟩ := hdecl name shape hrest.create_head.1
      obtain ⟨pool, hmeets, hnew, hpools, _⟩ := hdone
      rw [hpools]
      exact hrest.created hname hmeets hnew hplain
  | update name id shape =>
      obtain ⟨hname, hplain⟩ := hdecl name shape hrest.update_head.1
      obtain ⟨nodes, rfl⟩ := hdone
      exact hrest.changed hname nodes hplain
  | delete key id =>
      obtain rfl := hdone
      exact hrest.removed

theorem exhaustive_of_carriesOut (hall : Exhaustive shapes (action :: rest) h.pools) :
    Exhaustive shapes rest h'.pools := by
  cases action with
  | create name shape =>
      obtain ⟨hname, _⟩ := hdecl name shape hrest.create_head.1
      obtain ⟨pool, hmeets, hnew, hpools, _⟩ := hdone
      rw [hpools]
      exact hrest.exhaustive_created hname hmeets hnew hall
  | update name id shape =>
      obtain ⟨hname, _⟩ := hdecl name shape hrest.update_head.1
      obtain ⟨nodes, rfl⟩ := hdone
      exact hrest.exhaustive_changed hname nodes hall
  | delete key id =>
      obtain rfl := hdone
      exact hrest.exhaustive_removed hall

theorem accounted_of_carriesOut (haccounted : Accounted shapes start h) :
    Accounted shapes start h' := by
  cases action with
  | create name shape =>
      exact haccounted.makes hrest (hdecl name shape hrest.create_head.1).1 hdone
  | update name id shape =>
      exact haccounted.changes hrest (hdecl name shape hrest.update_head.1).1 hdone
  | delete key id => exact haccounted.drops hrest hdone

end Carried

/-- The pools that requests create. -/
def creations (rest : List PoolAction) : List (String × PoolShape) :=
  rest.filterMap fun
    | .create name shape => some (name, shape)
    | _ => none

/-- A request is carried out, or nothing happens, after which only a deletion is passed over. -/
theorem Faltering.carriesOut_or {h h' : PoolHost} {action : PoolAction}
    {response : Response (action.toCall cluster).Reply}
    (hconduct : Faltering cluster h (action.toCall cluster) response h') :
    h.CarriesOut action h' ∨
      h' = h ∧ (action.Passes cluster response.reply → IsDeletion action) := by
  cases action with
  | create name shape =>
      exact (hconduct rfl).imp_right fun hnot => ⟨hnot.1, fun hpasses => hnot.2 hpasses⟩
  | update name id shape =>
      exact (hconduct rfl).imp_right fun hnot => ⟨hnot.1, fun hpasses => hnot.2 hpasses⟩
  | delete key id => exact (hconduct rfl).imp_right fun hnot => ⟨hnot.1, fun _ => trivial⟩

/-- A request for which there is room, or about a pool that is there, is carried out. -/
theorem Obliging.carriesOut {h h' : PoolHost} {action : PoolAction} {rest : List PoolAction}
    {response : Response (action.toCall cluster).Reply}
    (hconduct : Obliging cluster h (action.toCall cluster) response h')
    (hrest : Outstanding shapes (action :: rest) h.pools)
    (hroom : (creations (action :: rest)).length ≤ h.room) :
    action.Passes cluster response.reply ∧ h.CarriesOut action h' := by
  cases action with
  | create name shape =>
      have hspace : h.room ≠ 0 := by
        intro hnone
        rw [hnone] at hroom
        exact absurd hroom (by simp [creations])
      exact hconduct rfl hspace
  | update name id shape =>
      obtain ⟨_, pool, hserves, _, hid, _⟩ := hrest.update_head
      exact hconduct rfl ⟨pool, hserves.holder.mem, hid⟩
  | delete key id =>
      obtain ⟨pool, hpool, hid, _⟩ := hrest.delete key id List.mem_cons_self
      obtain ⟨hreply, hdrops⟩ := hconduct rfl ⟨pool, hpool, hid⟩
      exact ⟨Or.inl hreply, hdrops⟩

/-- With each request that is carried out there is room for the creations that are left. -/
theorem room_of_carriesOut {h h' : PoolHost} {action : PoolAction} {rest : List PoolAction}
    (hdone : h.CarriesOut action h') (hroom : (creations (action :: rest)).length ≤ h.room) :
    (creations rest).length ≤ h'.room := by
  cases action with
  | create name shape =>
      obtain ⟨_, _, _, _, _, hless⟩ := hdone
      have hcons : (creations (.create name shape :: rest)).length = (creations rest).length + 1 :=
        rfl
      omega
  | update name id shape =>
      obtain ⟨nodes, rfl⟩ := hdone
      exact hroom
  | delete key id =>
      obtain rfl := hdone
      exact hroom

/-- Wherever a plan ends at a provider that may fail, the pools are accounted for. -/
theorem ensures_faltering (hdecl : IsDeclarable shapes) {start : List RemotePool} {plan : PoolPlan}
    {scene : Scene PoolHost} (hrest : Outstanding shapes plan.actions scene.state.pools)
    (haccounted : Accounted shapes start scene.state) :
    Step.Ensures (Faltering cluster) (plan.apply cluster) (fun _ scene' =>
      IsSound scene'.state.pools ∧ Accounted shapes start scene'.state) scene := by
  refine PoolPlan.ensures_apply (fun rest scene =>
    Outstanding shapes rest scene.state.pools ∧ Accounted shapes start scene.state) ?_ ?_ ?_
    ⟨hrest, haccounted⟩
  · rintro action rest scene response h' ⟨hrest, haccounted⟩ hconduct hpasses
    rcases Faltering.carriesOut_or hconduct with hdone | ⟨rfl, hdeletion⟩
    · exact ⟨outstanding_of_carriesOut hdecl hrest hdone,
        accounted_of_carriesOut hdecl hrest hdone haccounted⟩
    · cases action with
      | create name shape => exact (hdeletion hpasses).elim
      | update name id shape => exact (hdeletion hpasses).elim
      | delete key id => exact ⟨hrest.skipped, haccounted⟩
  · rintro action rest scene response h' fault ⟨hrest, haccounted⟩ hconduct _
    rcases Faltering.carriesOut_or hconduct with hdone | ⟨rfl, _⟩
    · exact ⟨(outstanding_of_carriesOut hdecl hrest hdone).sound,
        accounted_of_carriesOut hdecl hrest hdone haccounted⟩
    · exact ⟨hrest.sound, haccounted⟩
  · rintro scene ⟨hrest, haccounted⟩
    exact ⟨hrest.sound, haccounted⟩

/-- A plan for all that is to be done comes to its end at a provider that does not fail. -/
theorem ensures_obliging (hdecl : IsDeclarable shapes) {start : List RemotePool} {plan : PoolPlan}
    {scene : Scene PoolHost} (hrest : Outstanding shapes plan.actions scene.state.pools)
    (hall : Exhaustive shapes plan.actions scene.state.pools)
    (haccounted : Accounted shapes start scene.state)
    (hroom : (creations plan.actions).length ≤ scene.state.room) :
    Step.Ensures (Obliging cluster) (plan.apply cluster) (fun r scene' =>
      r = .ok () ∧ IsConverged shapes scene'.state.pools ∧
        (∀ name, ¬ Lacks shapes scene'.state.pools name) ∧
        Accounted shapes start scene'.state) scene := by
  refine PoolPlan.ensures_apply (fun rest scene =>
    Outstanding shapes rest scene.state.pools ∧ Exhaustive shapes rest scene.state.pools ∧
      Accounted shapes start scene.state ∧ (creations rest).length ≤ scene.state.room) ?_ ?_ ?_
    ⟨hrest, hall, haccounted, hroom⟩
  · rintro action rest scene response h' ⟨hrest, hall, haccounted, hroom⟩ hconduct _
    have hdone := (Obliging.carriesOut hconduct hrest hroom).2
    exact ⟨outstanding_of_carriesOut hdecl hrest hdone,
      exhaustive_of_carriesOut hdecl hrest hdone hall,
      accounted_of_carriesOut hdecl hrest hdone haccounted, room_of_carriesOut hdone hroom⟩
  · rintro action rest scene response h' fault ⟨hrest, _, _, hroom⟩ hconduct hpasses
    exact absurd (Obliging.carriesOut hconduct hrest hroom).1 hpasses
  · rintro scene ⟨hrest, hall, haccounted, _⟩
    refine ⟨rfl, isConverged_of_exhaustive hrest hall, fun name hlacks => ?_, haccounted⟩
    obtain ⟨shape, hshape⟩ := hlacks.declared
    exact List.not_mem_nil ((hrest.create name shape).mpr ⟨hshape, hlacks⟩)

/-! ### Both runs together -/

namespace Call

/-- The call deletes the pool. -/
def DeletesPool (id : PoolId) : Call → Prop
  | deletePool _ pool => pool = id
  | _ => False

/-- The call changes or deletes the pool. -/
def TouchesPool (id : PoolId) : Call → Prop
  | updatePool _ pool _ => pool = id
  | deletePool _ pool => pool = id
  | _ => False

end Call

section Untouched

variable {pools : List RemotePool} {pool : RemotePool} (hsound : IsSound pools)
  (hdecl : IsDeclarable shapes)
include hsound hdecl

/-- A plan deletes no pool that serves. -/
theorem not_deletesPool_of_serves (cluster : ClusterId) (hserves : Serves shapes pools pool)
    {action : PoolAction} (haction : action ∈ (planFor shapes pools).actions) :
    ¬ (action.toCall cluster).DeletesPool pool.id := by
  cases action with
  | create name shape => exact id
  | update name id shape => exact not_false
  | delete key id =>
      rintro rfl
      obtain ⟨spare, hspare, hid, _, hidle⟩ := (delete_mem_actions_iff hsound hdecl).mp haction
      rw [hsound.eq_of_id_eq hspare hserves.holder.mem hid] at hidle
      exact hidle hserves

/-- A plan does not touch a pool that is right. -/
theorem not_touchesPool_of_isRight (cluster : ClusterId) (hright : IsRight shapes pools pool)
    {action : PoolAction} (haction : action ∈ (planFor shapes pools).actions) :
    ¬ (action.toCall cluster).TouchesPool pool.id := by
  cases action with
  | create name shape => exact id
  | update name id shape =>
      rintro rfl
      obtain ⟨hshape, target, hserves, hname, hid, hne⟩ :=
        (update_mem_actions_iff hsound hdecl).mp haction
      obtain rfl := hsound.eq_of_id_eq hserves.holder.mem hright.serves.holder.mem hid
      have hshape' := hright.shape
      rw [hname, hshape] at hshape'
      exact hne (Option.some.inj hshape').symm
  | delete key id => exact not_deletesPool_of_serves hsound hdecl cluster hright.serves haction

end Untouched

/-- What is to be said of two runs of plans, the first of which may have been given up. -/
structure Resumed (shapes : KeyMap PoolShape) (start : List RemotePool)
    (first second : List Exchange) (interrupted final : PoolHost) : Prop where
  /-- There is one pool for each declared name, of its shape, and no other. -/
  converged : IsConverged shapes final.pools
  /-- A name that needed a pool got one. -/
  once : ∀ name, Lacks shapes start name → final.timesMade name = 1
  never : ∀ name, ¬ Lacks shapes start name → final.timesMade name = 0
  /-- A pool that was right is still there, and no call was made about it. -/
  right : ∀ pool, IsRight shapes start pool → pool ∈ final.pools ∧
    ∀ e ∈ first ++ second, ¬ e.call.TouchesPool pool.id
  /-- No pool that the first run made is deleted by the second. -/
  kept : ∀ pool ∈ interrupted.made, ∀ e ∈ second, ¬ e.call.DeletesPool pool.id

/-- A plan that was given up anywhere is completed by the next plan, without double work. -/
theorem interrupted_plan_resumed {τ τ' : Type} {world : World τ} {world' : World τ'}
    {view : τ → PoolHost} {view' : τ' → PoolHost} (hfirst : world.Keeps view (Faltering cluster))
    (hsecond : world'.Keeps view' (Obliging cluster)) (hdecl : IsDeclarable shapes)
    (cancelled cancelled' : Bool) (memory memory' : ClusterStatus) (t : τ) (t' : τ')
    {listing listing' : List RemotePool} (hlisting : listing.Perm (view t).pools)
    (hlisting' : listing'.Perm (view' t').pools) (hsound : IsSound (view t).pools)
    (hmade : (view t).made = [])
    (hroom : (creations (planFor shapes listing').actions).length ≤ (view' t').room) :
    let first := world.runCalls ((planFor shapes listing).apply cluster).run
      (.start cancelled memory t)
    let second := world'.runCalls ((planFor shapes listing').apply cluster).run
      (.start cancelled' memory' t')
    view' t' = view first.2.state →
      second.1 = .ok () ∧ Resumed shapes (view t).pools first.2.exchanges second.2.exchanges
        (view first.2.state) (view' second.2.state) := by
  intro first second hresumed
  have hplan : planFor shapes listing = planFor shapes (view t).pools := by
    rw [planFor, planFor, observed_perm hsound hlisting]
  have hstart : Accounted shapes (view t).pools (view t) := Accounted.refl hmade
  have hstopped : IsSound (view first.2.state).pools ∧
      Accounted shapes (view t).pools (view first.2.state) := by
    refine World.runCalls_of_ensures hfirst (ensures_faltering hdecl ?_ hstart)
    rw [hplan]
    exact outstanding_planFor hsound hdecl
  obtain ⟨hsound', haccounted⟩ := hstopped
  rw [← hresumed] at hsound' haccounted
  have hplan' : planFor shapes listing' = planFor shapes (view' t').pools := by
    rw [planFor, planFor, observed_perm hsound' hlisting']
  have hrest := outstanding_planFor hsound' hdecl
  have hdone : second.1 = .ok () ∧ IsConverged shapes (view' second.2.state).pools ∧
      (∀ name, ¬ Lacks shapes (view' second.2.state).pools name) ∧
      Accounted shapes (view t).pools (view' second.2.state) := by
    refine World.runCalls_of_ensures hsecond (ensures_obliging hdecl ?_ ?_ haccounted ?_)
    · rw [hplan']
      exact hrest
    · rw [hplan']
      exact exhaustive_planFor hsound' hdecl
    · exact hroom
  obtain ⟨hok, hconverged, hlacks, haccounted'⟩ := hdone
  have hcalls : ∀ e ∈ first.2.exchanges, ∃ action ∈ (planFor shapes (view t).pools).actions,
      e.call = action.toCall cluster := by
    rw [← hplan]
    apply World.exchanges_of_only (PoolPlan.apply_only cluster _)
    exact fun e he => absurd he List.not_mem_nil
  have hcalls' : ∀ e ∈ second.2.exchanges, ∃ action ∈ (planFor shapes (view' t').pools).actions,
      e.call = action.toCall cluster := by
    rw [← hplan']
    apply World.exchanges_of_only (PoolPlan.apply_only cluster _)
    exact fun e he => absurd he List.not_mem_nil
  refine ⟨hok, hconverged, ?_, ?_, ?_, ?_⟩
  · exact fun name hname => haccounted'.once name hname (hlacks name)
  · exact fun name hname => haccounted'.never name (Or.inl hname)
  · intro pool hright
    refine ⟨(haccounted'.right pool hright).serves.holder.mem, fun e he => ?_⟩
    rcases List.mem_append.mp he with he | he
    · obtain ⟨action, haction, hcall⟩ := hcalls e he
      rw [hcall]
      exact not_touchesPool_of_isRight hsound hdecl cluster hright haction
    · obtain ⟨action, haction, hcall⟩ := hcalls' e he
      rw [hcall]
      exact not_touchesPool_of_isRight hsound' hdecl cluster (haccounted.right pool hright) haction
  · intro pool hpool e he
    rw [← hresumed] at hpool
    obtain ⟨served, hserves, hid⟩ := haccounted.serving pool hpool
    obtain ⟨action, haction, hcall⟩ := hcalls' e he
    rw [hcall, ← hid]
    exact not_deletesPool_of_serves hsound' hdecl cluster hserves haction

/-- Pools, and the identifiers of those that can still be made. -/
structure Ledger where
  pools : List RemotePool
  made : List RemotePool
  upcoming : List PoolId
  ascending : upcoming.Pairwise (· < ·)
  above : ∀ pool ∈ pools, ∀ id ∈ upcoming, pool.id < id

namespace Ledger

/-- The host that the ledger describes. -/
def host (l : Ledger) : PoolHost := ⟨l.pools, l.made, l.upcoming.length⟩

/-- A pool made for a request. -/
def newPool (id : PoolId) (request : PoolCreation) : RemotePool :=
  ⟨id, request.count, request.instanceType, request.tags, request.scaling.getD .off, []⟩

/-- The ledger with one more pool, which has the next identifier. -/
def make (l : Ledger) (request : PoolCreation) : Option Ledger :=
  match h : l.upcoming with
  | [] => none
  | id :: rest => some
      { pools := l.pools ++ [newPool id request]
        made := l.made ++ [newPool id request]
        upcoming := rest
        ascending := (List.pairwise_cons.mp (h ▸ l.ascending)).2
        above := by
          intro pool hpool other hother
          have hmem : other ∈ l.upcoming := h ▸ List.mem_cons_of_mem id hother
          rcases List.mem_append.mp hpool with hpool | hpool
          · exact l.above pool hpool other hmem
          · rw [List.mem_singleton.mp hpool]
            exact (List.pairwise_cons.mp (h ▸ l.ascending)).1 other hother }

def change (l : Ledger) (id : PoolId) (request : PoolUpdate) : Ledger :=
  { l with
    pools := withChange id request [] l.pools
    above := by
      intro pool hpool
      obtain ⟨other, hother, rfl⟩ := List.mem_map.mp hpool
      split
      · exact l.above other hother
      · exact l.above other hother }

/-- The ledger without a pool. -/
def drop (l : Ledger) (id : PoolId) : Ledger :=
  { l with
    pools := without id l.pools
    above := fun pool hpool => l.above pool (mem_without.mp hpool).1 }

end Ledger

/-- A provider that keeps a ledger. -/
def ledgerWorld : World Ledger where
  respond := fun
    | .createPool _ request, l =>
        match l.make request with
        | some l' => (⟨.ok (), false, false⟩, l')
        | none => (⟨.error (.transport "full"), false, false⟩, l)
    | .updatePool _ id request, l => (⟨.ok (), false, false⟩, l.change id request)
    | .deletePool _ id, l => (⟨.ok (), false, false⟩, l.drop id)
    | c, l => (⟨c.unreached, false, false⟩, l)

/-- A provider that fails after so many calls, and carries out the one that fails. -/
def failingWorld : World (Nat × Ledger) where
  respond := fun
    | c, (0, l) => (⟨c.unreached, false, false⟩, (0, (ledgerWorld.respond c l).2))
    | c, (n + 1, l) => ((ledgerWorld.respond c l).1, (n, (ledgerWorld.respond c l).2))

theorem ledgerWorld_make (l : Ledger) (cluster : ClusterId) (request : PoolCreation) :
    l.host.Makes request (ledgerWorld.respond (.createPool cluster request) l).2.host ∧
        (ledgerWorld.respond (.createPool cluster request) l).1.reply = Except.ok () ∨
      l.host.room = 0 ∧ (ledgerWorld.respond (.createPool cluster request) l).2 = l ∧
        (ledgerWorld.respond (.createPool cluster request) l).1.reply ≠ Except.ok () := by
  obtain ⟨pools, made, upcoming, ascending, above⟩ := l
  cases upcoming with
  | nil =>
      refine Or.inr ⟨rfl, rfl, ?_⟩
      intro hreply
      cases hreply
  | cons id rest =>
      refine Or.inl ⟨⟨Ledger.newPool id request, ⟨rfl, rfl, rfl, rfl⟩, ?_, rfl, rfl, rfl⟩, rfl⟩
      intro other hother
      exact above other hother id List.mem_cons_self

theorem ledgerWorld_keeps (cluster : ClusterId) :
    ledgerWorld.Keeps Ledger.host (Obliging cluster) := by
  intro c l
  cases c with
  | createPool id request =>
      intro _ hroom
      rcases ledgerWorld_make l id request with ⟨hmakes, hreply⟩ | ⟨hfull, _⟩
      · exact ⟨hreply, hmakes⟩
      · exact absurd hfull hroom
  | updatePool id pool request => exact fun _ _ => ⟨rfl, [], rfl⟩
  | deletePool id pool => exact fun _ _ => ⟨rfl, rfl⟩
  | _ => exact trivial

theorem failingWorld_keeps (cluster : ClusterId) :
    failingWorld.Keeps (fun s => s.2.host) (Faltering cluster) := by
  rintro c ⟨n, l⟩
  cases n with
  | zero =>
      cases c with
      | createPool id request =>
          intro _
          rcases ledgerWorld_make l id request with ⟨hmakes, _⟩ | ⟨_, hsame, _⟩
          · exact Or.inl hmakes
          · refine Or.inr ⟨congrArg Ledger.host hsame, ?_⟩
            intro hreply
            cases hreply
      | updatePool id pool request => exact fun _ => Or.inl ⟨[], rfl⟩
      | deletePool id pool => exact fun _ => Or.inl rfl
      | _ => exact trivial
  | succ n =>
      cases c with
      | createPool id request =>
          intro _
          rcases ledgerWorld_make l id request with ⟨hmakes, _⟩ | ⟨_, hsame, hreply⟩
          · exact Or.inl hmakes
          · exact Or.inr ⟨congrArg Ledger.host hsame, hreply⟩
      | updatePool id pool request => exact fun _ => Or.inl ⟨[], rfl⟩
      | deletePool id pool => exact fun _ => Or.inl rfl
      | _ => exact trivial

/-- A pool whose instance type is to change. -/
def oldPool : RemotePool := ⟨7, 3, "g6-standard-1", [tag "workers"], .off, []⟩

/-- The shape that is declared for it. -/
def newShapes : KeyMap PoolShape := KeyMap.ofList [("workers", ⟨3, "g6-standard-2", none⟩)]

/-- A ledger with that pool. -/
def oldLedger : Ledger where
  pools := [oldPool]
  made := []
  upcoming := [8, 9]
  ascending := List.pairwise_pair.mpr (by decide)
  above := by
    intro pool hpool id hid
    rw [List.mem_singleton.mp hpool]
    rcases List.mem_pair.mp hid with rfl | rfl
    · decide
    · decide

/-- The first run, in which the creation fails after it took effect. -/
def givenUp : Except Fault Unit × Scene (Nat × Ledger) :=
  failingWorld.runCalls ((planFor newShapes [oldPool]).apply 1).run
    (.start false .blank (0, oldLedger))

/-- The run that follows. -/
def takenUp : Except Fault Unit × Scene Ledger :=
  ledgerWorld.runCalls ((planFor newShapes givenUp.2.state.2.pools).apply 1).run
    (.start false .blank givenUp.2.state.2)

theorem isSound_oldPool : IsSound [oldPool] where
  distinct := List.nodup_singleton _
  plain := by
    intro pool hpool name hname
    rw [List.mem_singleton.mp hpool, givenName?_of_tags rfl (by decide)] at hname
    rw [← Option.some.inj hname]
    decide

theorem isDeclarable_newShapes : IsDeclarable newShapes := by
  intro name shape hshape
  have hmem := KeyMap.get?_eq_some_iff.mp hshape
  obtain ⟨rfl, _⟩ : name = "workers" ∧ shape = ⟨3, "g6-standard-2", none⟩ := by
    simpa [newShapes, KeyMap.ofList, KeyMap.insert, KeyMap.insertIn, KeyMap.empty] using hmem
  exact ⟨by decide, by decide⟩

/-- The run that follows does no more than delete the old pool. -/
theorem replacement_resumed :
    (takenUp.2.exchanges.map Exchange.call = [.deletePool 1 7] ∧ takenUp.1 = .ok ()) ∧
      Resumed newShapes [oldPool] givenUp.2.exchanges takenUp.2.exchanges
        givenUp.2.state.2.host takenUp.2.state.host := by
  have hresumed := interrupted_plan_resumed (failingWorld_keeps 1) (ledgerWorld_keeps 1)
    isDeclarable_newShapes false false .blank .blank (0, oldLedger) givenUp.2.state.2
    (List.Perm.refl [oldPool])
    (List.Perm.refl givenUp.2.state.2.pools) isSound_oldPool rfl (by decide +kernel) rfl
  exact ⟨⟨by decide +kernel, hresumed.1⟩, hresumed.2⟩

end ClusterKeeper
