import ClusterKeeper.Pass.World
import ClusterKeeper.Proofs.Pass.CallKinds
/-!
The calls that a plan for node pools leads to.

A plan has a fixed list of errands: pools are created, then changed, then deleted, each in the order
of their names. It runs them one by one and ends with the first that fails, so that no pool is
deleted before all the others were made and changed. The fault says which errand it was.
-/

namespace ClusterKeeper

variable {σ : Type} {cluster : ClusterId}

/-- A call, with what it is called where it fails. -/
structure Errand where
  operation : String
  call : Call

namespace Errand

def create (cluster : ClusterId) (name : String) (shape : PoolShape) : Errand :=
  ⟨s!"create node pool {name}", .createPool cluster (Pools.creation name shape)⟩

def update (cluster : ClusterId) (name : String) (id : PoolId) (shape : PoolShape) : Errand :=
  ⟨s!"update node pool {name}", .updatePool cluster id (Pools.update name shape)⟩

def delete (cluster : ClusterId) (name : String) (id : PoolId) : Errand :=
  ⟨s!"delete node pool {name}", .deletePool cluster id⟩

end Errand

namespace PoolPlan

/-- The errands that make or change pools. One that is to change but was never made is made. -/
def building (cluster : ClusterId) (plan : PoolPlan) : List Errand :=
  plan.create.entries.map (fun entry => .create cluster entry.1 entry.2.shape) ++
  plan.update.entries.map fun entry =>
    match entry.2.id with
    | some id => .update cluster entry.1 id entry.2.shape
    | none => .create cluster entry.1 entry.2.shape

/-- The errands that delete pools, of those no longer wanted the ones that were ever made. -/
def removing (cluster : ClusterId) (plan : PoolPlan) : List Errand :=
  plan.delete.entries.filterMap (fun entry => entry.2.id.map fun id => .delete cluster entry.1 id) ++
  plan.replace.entries.map fun entry => .delete cluster entry.1 entry.2

/-- All errands of a plan. -/
def errands (cluster : ClusterId) (plan : PoolPlan) : List Errand :=
  plan.building cluster ++ plan.removing cluster

end PoolPlan

/-- The errand of a request. -/
def PoolAction.errand (cluster : ClusterId) (action : PoolAction) : Errand :=
  ⟨action.operation, action.toCall cluster⟩

theorem PoolPlan.errand_updateAction (entry : String × PoolRecord) :
    (updateAction entry).errand cluster = match entry.2.id with
      | some id => .update cluster entry.1 id entry.2.shape
      | none => .create cluster entry.1 entry.2.shape := by
  obtain ⟨name, id, shape⟩ := entry
  cases id <;> rfl

theorem PoolPlan.errands_eq (plan : PoolPlan) :
    plan.errands cluster = plan.actions.map (PoolAction.errand cluster) := by
  simp only [errands, building, removing, actions, List.map_append, List.map_map,
    List.map_filterMap, List.append_assoc]
  congr 2
  · simp [PoolPlan.errand_updateAction]
  · congr 2
    funext entry
    cases entry.2.id <;> rfl

/-- What a reply says went wrong. -/
def refusal? : Except ProviderFault Unit → Option ProviderFault
  | .ok _ => none
  | .error cause => some cause

theorem refusal?_eq_none_iff {reply : Except ProviderFault Unit} :
    refusal? reply = none ↔ reply = .ok () := by
  rcases reply with cause | ⟨⟩ <;> simp [refusal?]

theorem filter_refusal?_eq_none_iff {reply : Except ProviderFault Unit} :
    (refusal? reply).filter (· ≠ .notFound) = none ↔ reply = .ok () ∨ reply = .error .notFound := by
  rcases reply with cause | ⟨⟩
  · by_cases hcause : cause = .notFound <;> simp [refusal?, hcause]
  · simp [refusal?]

/-- Why a plan does not go on after a call. A pool to be deleted may be gone. -/
def Exchange.setback? : Exchange → Option ProviderFault
  | ⟨.createPool _ _, response, _, _⟩ => refusal? response.reply
  | ⟨.updatePool _ _ _, response, _, _⟩ => refusal? response.reply
  | ⟨.deletePool _ _, response, _, _⟩ => (refusal? response.reply).filter (· ≠ .notFound)
  | _ => none

/-- How an errand ends. -/
def Errand.ending (errand : Errand) : Option ProviderFault → Except Fault Unit
  | none => .ok ()
  | some cause => .error (.provider errand.operation cause)

theorem Errand.ending_eq_ok_iff {errand : Errand} {setback : Option ProviderFault} :
    errand.ending setback = .ok () ↔ setback = none := by
  cases setback <;> simp [ending]

/-- A request is one call, and the reply to it is the end. -/
theorem PoolAction.run_perform_eq (action : PoolAction) (cancels suspends abandoned : Bool)
    (memory : ClusterStatus) :
    (action.perform cluster).run = .ask (action.toCall cluster) fun reply =>
      .done ((action.errand cluster).ending (Exchange.setback?
        ⟨action.toCall cluster, ⟨reply, cancels, suspends⟩, abandoned, memory⟩)) := by
  cases action with
  | create name shape =>
      refine congrArg (Dialogue.ask (Call.createPool cluster (Pools.creation name shape))) ?_
      funext reply
      rcases (reply : Except ProviderFault Unit) with cause | _ <;> rfl
  | update name id shape =>
      refine congrArg (Dialogue.ask (Call.updatePool cluster id (Pools.update name shape))) ?_
      funext reply
      rcases (reply : Except ProviderFault Unit) with cause | _ <;> rfl
  | delete name id =>
      refine congrArg (Dialogue.ask (Call.deletePool cluster id)) ?_
      funext reply
      rcases (reply : Except ProviderFault Unit) with cause | _
      · cases cause <;> rfl
      · rfl

theorem World.runCalls_perform (world : World σ) (cluster : ClusterId) (action : PoolAction)
    (scene : Scene σ) :
    ∃ e : Exchange, e.call = (action.errand cluster).call ∧
      (world.runCalls (action.perform cluster).run scene).2.log = scene.log ++ [.exchange e] ∧
      (world.runCalls (action.perform cluster).run scene).1 =
        (action.errand cluster).ending e.setback? := by
  refine ⟨⟨action.toCall cluster, (world.respond (action.toCall cluster) scene.state).1, false,
    scene.memory⟩, rfl, ?_⟩
  rw [action.run_perform_eq (world.respond (action.toCall cluster) scene.state).1.cancels
    (world.respond (action.toCall cluster) scene.state).1.suspends false scene.memory]
  exact ⟨rfl, rfl⟩

/-- The calls that were made for a list of errands, and how it ended. -/
inductive Follows : List Errand → List Exchange → Except Fault Unit → Prop where
  | finished : Follows [] [] (.ok ())
  | goesOn {errand rest e made result} : e.call = errand.call → e.setback? = none →
      Follows rest made result → Follows (errand :: rest) (e :: made) result
  | stops {errand rest e cause} : e.call = errand.call → e.setback? = some cause →
      Follows (errand :: rest) [e] (.error (.provider errand.operation cause))

namespace Follows

variable {errands first second : List Errand} {made : List Exchange} {result : Except Fault Unit}

theorem calls (h : Follows errands made result) :
    made.map (·.call) <+: errands.map (·.call) := by
  induction h with
  | finished => simp
  | goesOn hcall _ _ ih => simpa [hcall] using ih
  | stops hcall _ => simp [hcall]

/-- Only the last call can have failed. -/
theorem goesOn_of_mem_dropLast (h : Follows errands made result) :
    ∀ e ∈ made.dropLast, e.setback? = none := by
  induction h with
  | finished => simp
  | @goesOn errand rest e made result hcall hgoes hrest ih =>
      cases made with
      | nil => simp
      | cons next made =>
          intro other hother
          rw [List.dropLast_cons_of_ne_nil (by simp), List.mem_cons] at hother
          rcases hother with rfl | hother
          · exact hgoes
          · exact ih other hother
  | stops => simp

theorem ok_iff (h : Follows errands made result) :
    result = .ok () ↔
      made.map (·.call) = errands.map (·.call) ∧ ∀ e ∈ made, e.setback? = none := by
  induction h with
  | finished => simp
  | goesOn hcall hgoes _ ih => simp [hcall, hgoes, ih]
  | stops _ hstops => simp [hstops]

/-- The fault is that of the last call, under the name of its errand. -/
theorem error_iff (h : Follows errands made result) (fault : Fault) :
    result = .error fault ↔ ∃ earlier e errand cause, made = earlier ++ [e] ∧
      errands[earlier.length]? = some errand ∧ e.call = errand.call ∧ e.setback? = some cause ∧
      fault = .provider errand.operation cause := by
  induction h with
  | finished => simp
  | @goesOn errand rest e made result hcall hgoes hrest ih =>
      rw [ih]
      constructor
      · rintro ⟨earlier, last, failed, cause, rfl, hfailed⟩
        exact ⟨e :: earlier, last, failed, cause, rfl, hfailed⟩
      · rintro ⟨earlier, last, failed, cause, hmade, hfailed, hlast, hcause, hfault⟩
        cases earlier with
        | nil =>
            -- The only call would be one that went well.
            simp only [List.nil_append, List.cons.injEq] at hmade
            rw [← hmade.1, hgoes] at hcause
            cases hcause
        | cons head earlier =>
            simp only [List.cons_append, List.cons.injEq] at hmade
            exact ⟨earlier, last, failed, cause, hmade.2, hfailed, hlast, hcause, hfault⟩
  | @stops errand rest e cause hcall hstops =>
      constructor
      · intro hresult
        cases hresult
        exact ⟨[], e, errand, cause, rfl, rfl, hcall, hstops, rfl⟩
      · rintro ⟨earlier, last, failed, cause', hmade, hfailed, _, hcause, rfl⟩
        obtain ⟨rfl, hlast⟩ : earlier = [] ∧ [e] = [last] := by
          cases earlier <;> simp_all
        cases hlast
        simp only [List.length_nil, List.getElem?_cons_zero, Option.some.injEq] at hfailed
        rw [hstops] at hcause
        cases hcause
        rw [hfailed]

/-- The second part of a list is begun only when the first is finished. -/
theorem append (h : Follows (first ++ second) made result) :
    Follows first made result ∨ ∃ done rest, made = done ++ rest ∧ Follows first done (.ok ()) ∧
      Follows second rest result := by
  induction first generalizing made with
  | nil => exact Or.inr ⟨[], made, rfl, .finished, h⟩
  | cons errand first ih =>
      cases h with
      | goesOn hcall hgoes hrest =>
          rcases ih hrest with hfirst | ⟨done, rest, rfl, hdone, hsecond⟩
          · exact Or.inl (.goesOn hcall hgoes hfirst)
          · exact Or.inr ⟨_ :: done, rest, rfl, .goesOn hcall hgoes hdone, hsecond⟩
      | stops hcall hstops => exact Or.inl (.stops hcall hstops)

end Follows

/-- The second part of a sequence begins where the first ends, unless that is in a fault. -/
theorem World.runCalls_bind (world : World σ) {α β : Type} (p : Step α) (f : α → Step β)
    (scene : Scene σ) :
    world.runCalls (p >>= f).run scene = match world.runCalls p.run scene with
      | (.ok a, scene') => world.runCalls (f a).run scene'
      | (.error fault, scene') => (.error fault, scene') := by
  rw [ExceptT.run_bind, runCalls, Dialogue.run_bind]
  rcases hfirst : Dialogue.run world.answerCall p.run scene with ⟨fault | a, scene'⟩
  · simp only [runCalls, hfirst]
    rfl
  · simp only [runCalls, hfirst]

theorem World.runCalls_forM (world : World σ) (cluster : ClusterId) (actions : List PoolAction)
    (scene : Scene σ) :
    ∃ made : List Exchange,
      (world.runCalls (actions.forM (PoolAction.perform cluster)).run scene).2.log =
        scene.log ++ made.map .exchange ∧
      Follows (actions.map (PoolAction.errand cluster)) made
        (world.runCalls (actions.forM (PoolAction.perform cluster)).run scene).1 := by
  induction actions generalizing scene with
  | nil => exact ⟨[], by simp [runCalls], .finished⟩
  | cons action rest ih =>
      obtain ⟨e, hcall, hlog, hend⟩ := world.runCalls_perform cluster action scene
      have hseq := world.runCalls_bind (action.perform cluster)
        (fun _ => rest.forM (PoolAction.perform cluster)) scene
      rw [List.forM, hseq]
      rcases hfirst : world.runCalls (action.perform cluster).run scene with ⟨result, scene'⟩
      rw [hfirst] at hlog hend
      simp only at hlog hend
      cases hsetback : e.setback? with
      | none =>
          obtain ⟨made, hrest, hfollows⟩ := ih scene'
          rw [hsetback] at hend
          subst hend
          refine ⟨e :: made, ?_, .goesOn hcall hsetback hfollows⟩
          change (world.runCalls (rest.forM (PoolAction.perform cluster)).run scene').2.log = _
          rw [hrest, hlog, List.append_assoc, List.singleton_append, List.map_cons]
      | some cause =>
          rw [hsetback] at hend
          subst hend
          exact ⟨[e], hlog, .stops hcall hsetback⟩

/-- What was called for a plan, and how it ended. -/
structure PoolPlan.Traces (cluster : ClusterId) (plan : PoolPlan) (made : List Exchange)
    (result : Except Fault Unit) : Prop where
  calls : made.map (·.call) <+: (plan.errands cluster).map (·.call)
  /-- Every call but the last went well. -/
  goesOn : ∀ e ∈ made.dropLast, e.setback? = none
  /-- It ends well if every errand was run and went well. -/
  ok_iff : result = .ok () ↔
    made.map (·.call) = (plan.errands cluster).map (·.call) ∧ ∀ e ∈ made, e.setback? = none
  /-- It ends in a fault if the last call did not go well, and the fault names its errand. -/
  error_iff : ∀ fault, result = .error fault ↔ ∃ earlier e errand cause, made = earlier ++ [e] ∧
    (plan.errands cluster)[earlier.length]? = some errand ∧ e.call = errand.call ∧
    e.setback? = some cause ∧ fault = .provider errand.operation cause
  /-- Before a pool is deleted, everything is made and changed. -/
  builtFirst : ∀ e ∈ made, (∃ pool, e.call = .deletePool cluster pool) →
    ∃ built rest, made = built ++ rest ∧
      built.map (·.call) = (plan.building cluster).map (·.call) ∧ ∀ b ∈ built, b.setback? = none

theorem PoolPlan.call_ne_deletePool_of_mem_building {plan : PoolPlan} {errand : Errand}
    (h : errand ∈ plan.building cluster) (pool : PoolId) :
    errand.call ≠ .deletePool cluster pool := by
  intro hcall
  rcases List.mem_append.mp h with h | h
  · obtain ⟨entry, _, rfl⟩ := List.mem_map.mp h
    cases hcall
  · obtain ⟨⟨name, id, shape⟩, _, rfl⟩ := List.mem_map.mp h
    cases id <;> cases hcall

theorem Follows.traces {plan : PoolPlan} {made : List Exchange} {result : Except Fault Unit}
    (h : Follows (plan.errands cluster) made result) : plan.Traces cluster made result where
  calls := h.calls
  goesOn := h.goesOn_of_mem_dropLast
  ok_iff := h.ok_iff
  error_iff := h.error_iff
  builtFirst := by
    rintro e he ⟨pool, hcall⟩
    rcases h.append with hbuilding | ⟨built, rest, rfl, hbuilt, _⟩
    · -- Only pools were made and changed so far.
      have hmem := hbuilding.calls.subset (List.mem_map_of_mem he)
      obtain ⟨errand, herrand, heq⟩ := List.mem_map.mp hmem
      exact absurd (heq.trans hcall) (PoolPlan.call_ne_deletePool_of_mem_building herrand pool)
    · have hdone := hbuilt.ok_iff.mp rfl
      exact ⟨built, rest, rfl, hdone.1, hdone.2⟩

/-- Whatever the provider replies, a plan makes the calls of its errands in their order, ends with
the first that does not go well, and says which one that was. -/
theorem plan_runs_errands (world : World σ) (cluster : ClusterId) (plan : PoolPlan)
    (scene : Scene σ) :
    ∃ made : List Exchange,
      (world.runCalls (plan.apply cluster).run scene).2.log = scene.log ++ made.map .exchange ∧
      plan.Traces cluster made (world.runCalls (plan.apply cluster).run scene).1 := by
  obtain ⟨made, hlog, hfollows⟩ := world.runCalls_forM cluster plan.actions scene
  rw [← PoolPlan.errands_eq] at hfollows
  exact ⟨made, hlog, hfollows.traces⟩

end ClusterKeeper
