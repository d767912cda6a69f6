import ClusterKeeper.Pools.Apply
import ClusterKeeper.Proofs.Pools.Holders
import ClusterKeeper.Proofs.Pools.Partition
/-!
What a plan for node pools asks for.

A pool serves its name if it holds it, and if the name is declared with the instance type that the
pool has. A plan creates a pool for each declared name that no pool serves, changes those that serve
but have another shape, and deletes all that do not serve. It asks for each thing once, and for
deletions last.
-/

namespace ClusterKeeper.Pools

/-- The names can be carried by tags, and are told apart from identifiers. -/
def IsDeclarable (shapes : KeyMap PoolShape) : Prop :=
  ∀ name shape, shapes.get? name = some shape → name ≠ "" ∧ IsPlain name

/-- The pool holds a declared name, and it has the declared instance type. -/
structure Serves (shapes : KeyMap PoolShape) (pools : List RemotePool) (pool : RemotePool) :
    Prop where
  holder : IsHolder pools pool
  fits : ∃ shape, shapes.get? (nameOf pool) = some shape ∧ pool.instanceType = shape.instanceType

/-- The name is declared, and no pool serves it. -/
structure Lacks (shapes : KeyMap PoolShape) (pools : List RemotePool) (name : String) : Prop where
  declared : ∃ shape, shapes.get? name = some shape
  unserved : ∀ pool, Serves shapes pools pool → nameOf pool ≠ name

variable {shapes : KeyMap PoolShape} {pools : List RemotePool} {pool : RemotePool}
  {name : String} {shape : PoolShape}

theorem Serves.instanceType_eq (h : Serves shapes pools pool)
    (hshape : shapes.get? (nameOf pool) = some shape) :
    pool.instanceType = shape.instanceType := by
  obtain ⟨shape', hshape', htype⟩ := h.fits
  rw [hshape] at hshape'
  rw [htype, Option.some.inj hshape']

/-- A holder that does not serve its declared name has another instance type. -/
theorem IsHolder.instanceType_ne (h : IsHolder pools pool)
    (hshape : shapes.get? (nameOf pool) = some shape) (hserves : ¬ Serves shapes pools pool) :
    pool.instanceType ≠ shape.instanceType :=
  fun htype => hserves ⟨h, shape, hshape, htype⟩

theorem lacks_of_holder_ne (hsound : IsSound pools) (h : IsHolder pools pool)
    (hshape : shapes.get? (nameOf pool) = some shape)
    (htype : pool.instanceType ≠ shape.instanceType) : Lacks shapes pools (nameOf pool) where
  declared := ⟨shape, hshape⟩
  unserved := by
    intro other hserves hname
    obtain rfl := hsound.holder_unique hserves.holder h hname
    exact htype (hserves.instanceType_eq hshape)

theorem get?_desired : (desired shapes).get? name = (shapes.get? name).map PoolRecord.pending :=
  KeyMap.get?_map _ shapes name

theorem mem_entries_desired {record : PoolRecord} :
    (name, record) ∈ (desired shapes).entries ↔
      ∃ shape, shapes.get? name = some shape ∧ record = .pending shape := by
  rw [← KeyMap.get?_eq_some_iff, get?_desired, Option.map_eq_some_iff]
  constructor
  · rintro ⟨shape, hshape, rfl⟩
    exact ⟨shape, hshape, rfl⟩
  · rintro ⟨shape, hshape, rfl⟩
    exact ⟨shape, hshape, rfl⟩

/-- Under a plain name its holder is observed. -/
theorem get?_observed_of_isPlain (hsound : IsSound pools) (hplain : IsPlain name)
    {record : PoolRecord} :
    (observed pools).get? name = some record ↔
      ∃ pool, IsHolder pools pool ∧ nameOf pool = name ∧
        record = .created pool.id (shapeOf pool) := by
  rw [get?_observed hsound]
  constructor
  · rintro ⟨pool, hpool, hkey, hrecord⟩
    obtain ⟨hholder, hname⟩ := isHolder_of_keyOf_eq hsound hpool hplain hkey
    exact ⟨pool, hholder, hname, hrecord⟩
  · rintro ⟨pool, hholder, hname, hrecord⟩
    exact ⟨pool, hholder.mem, (keyOf_of_isHolder hholder).trans hname, hrecord⟩

/-- The plan from the pools of a listing to declared ones. -/
def planFor (shapes : KeyMap PoolShape) (pools : List RemotePool) : PoolPlan :=
  .between (desired shapes) (observed pools)

theorem mem_create_entries {record : PoolRecord} :
    (name, record) ∈ (planFor shapes pools).create.entries ↔
      ∃ shape, shapes.get? name = some shape ∧ record = .pending shape ∧
        (observed pools).get? name = none := by
  rw [← KeyMap.get?_eq_some_iff, planFor, PoolPlan.get?_create]
  by_cases hnone : (observed pools).get? name = none
  · simp [hnone, KeyMap.get?_eq_some_iff, mem_entries_desired]
  · simp [hnone]

/-- The names that differ: the holder of a declared name has another shape. -/
theorem mem_ofDiffering_entries (hsound : IsSound pools) (hdecl : IsDeclarable shapes) {α : Type}
    {f : PoolRecord → PoolRecord → Option α} {a : α} :
    (name, a) ∈ (PoolPlan.ofDiffering (desired shapes) (observed pools) f).entries ↔
      ∃ shape pool, shapes.get? name = some shape ∧ IsHolder pools pool ∧ nameOf pool = name ∧
        shapeOf pool ≠ shape ∧ f (.pending shape) (.created pool.id (shapeOf pool)) = some a := by
  rw [← KeyMap.get?_eq_some_iff, PoolPlan.get?_ofDiffering_eq_some_iff]
  constructor
  · rintro ⟨want, current, hwant, hcurrent, hne, hf⟩
    obtain ⟨shape, hshape, rfl⟩ := mem_entries_desired.mp (KeyMap.get?_eq_some_iff.mp hwant)
    obtain ⟨pool, hholder, hname, rfl⟩ :=
      (get?_observed_of_isPlain hsound (hdecl name shape hshape).2).mp hcurrent
    exact ⟨shape, pool, hshape, hholder, hname, hne, hf⟩
  · rintro ⟨shape, pool, hshape, hholder, hname, hne, hf⟩
    have hwant : (desired shapes).get? name = some (.pending shape) := by
      rw [get?_desired, hshape, Option.map_some]
    refine ⟨.pending shape, _, hwant, ?_, hne, hf⟩
    exact (get?_observed_of_isPlain hsound (hdecl name shape hshape).2).mpr
      ⟨pool, hholder, hname, rfl⟩

theorem mem_delete_entries (hsound : IsSound pools) {record : PoolRecord} :
    (name, record) ∈ (planFor shapes pools).delete.entries ↔
      shapes.get? name = none ∧
        ∃ pool ∈ pools, keyOf pools pool = name ∧ record = .created pool.id (shapeOf pool) := by
  rw [← KeyMap.get?_eq_some_iff, planFor, PoolPlan.get?_delete, get?_desired]
  by_cases hnone : shapes.get? name = none
  · simp [hnone, get?_observed hsound]
  · simp [hnone]

theorem superseded?_created {id : PoolId} {current : PoolShape} :
    PoolPlan.superseded? (.pending shape) (.created id current) =
      if current.instanceType = shape.instanceType then none else some id := rfl

/-- A change in place where the instance type stays, else a creation. -/
theorem updateAction_changed (name : String) (shape : PoolShape) (id : PoolId)
    (current : PoolShape) :
    PoolPlan.updateAction (name, PoolPlan.changed (.pending shape) (.created id current)) =
      if current.instanceType = shape.instanceType then .update name id shape
      else .create name shape := by
  have hchanged : PoolPlan.changed (.pending shape) (.created id current) =
      ⟨if (PoolPlan.superseded? (.pending shape) (.created id current)).isSome then none
        else some id, shape⟩ := rfl
  rw [hchanged, superseded?_created]
  by_cases htype : current.instanceType = shape.instanceType
  · rw [if_pos htype, if_pos htype]
    rfl
  · rw [if_neg htype, if_neg htype]
    rfl

theorem mem_actions {action : PoolAction} {plan : PoolPlan} :
    action ∈ plan.actions ↔
      (∃ name record, (name, record) ∈ plan.create.entries ∧
        action = .create name record.shape) ∨
      (∃ name record, (name, record) ∈ plan.update.entries ∧
        action = PoolPlan.updateAction (name, record)) ∨
      (∃ name record id, (name, record) ∈ plan.delete.entries ∧ record.id = some id ∧
        action = .delete name id) ∨
      ∃ name id, (name, id) ∈ plan.replace.entries ∧ action = .delete name id := by
  simp only [PoolPlan.actions, List.mem_append, List.mem_map, List.mem_filterMap, Prod.exists,
    Option.map_eq_some_iff, eq_comm (a := action), or_assoc]
  simp only [exists_and_left]

variable (hsound : IsSound pools) (hdecl : IsDeclarable shapes)
include hsound hdecl

/-- The changes of a plan: one for each holder of a declared name that has another shape. -/
theorem mem_update_entries_iff {action : PoolAction} :
    (∃ name record, (name, record) ∈ (planFor shapes pools).update.entries ∧
        action = PoolPlan.updateAction (name, record)) ↔
      ∃ shape pool, shapes.get? (nameOf pool) = some shape ∧ IsHolder pools pool ∧
        shapeOf pool ≠ shape ∧
        action = if pool.instanceType = shape.instanceType then
          .update (nameOf pool) pool.id shape else .create (nameOf pool) shape := by
  constructor
  · rintro ⟨name, record, hmem, rfl⟩
    obtain ⟨shape, pool, hshape, hholder, rfl, hne, heq⟩ :=
      (mem_ofDiffering_entries hsound hdecl).mp hmem
    cases heq
    exact ⟨shape, pool, hshape, hholder, hne, updateAction_changed _ _ _ _⟩
  · rintro ⟨shape, pool, hshape, hholder, hne, rfl⟩
    refine ⟨nameOf pool, _, (mem_ofDiffering_entries hsound hdecl).mpr
      ⟨shape, pool, hshape, hholder, rfl, hne, rfl⟩, ?_⟩
    exact (updateAction_changed (nameOf pool) shape pool.id (shapeOf pool)).symm

/-- A plan creates a pool for each declared name that no pool serves. -/
theorem create_mem_actions_iff :
    .create name shape ∈ (planFor shapes pools).actions ↔
      shapes.get? name = some shape ∧ Lacks shapes pools name := by
  rw [mem_actions, mem_update_entries_iff hsound hdecl]
  constructor
  · rintro (⟨name', record, hmem, heq⟩ | ⟨shape', pool, hshape, hholder, hne, heq⟩ |
      ⟨_, _, _, _, _, heq⟩ | ⟨_, _, _, heq⟩)
    · obtain ⟨shape', hshape, rfl, hnone⟩ := mem_create_entries.mp hmem
      cases heq
      refine ⟨hshape, ⟨shape', hshape⟩, fun pool hserves hname => ?_⟩
      have hsome := (get?_observed_of_isPlain hsound (hdecl name shape' hshape).2).mpr
        ⟨pool, hserves.holder, hname, rfl⟩
      rw [hnone] at hsome
      cases hsome
    · split at heq
      · cases heq
      · next htype =>
          cases heq
          exact ⟨hshape, lacks_of_holder_ne hsound hholder hshape htype⟩
    · cases heq
    · cases heq
  · rintro ⟨hshape, hlacks⟩
    cases hobserved : (observed pools).get? name with
    | none =>
        exact Or.inl ⟨name, .pending shape,
          mem_create_entries.mpr ⟨shape, hshape, rfl, hobserved⟩, rfl⟩
    | some record =>
        obtain ⟨pool, hholder, rfl, rfl⟩ :=
          (get?_observed_of_isPlain hsound (hdecl name shape hshape).2).mp hobserved
        have htype : pool.instanceType ≠ shape.instanceType :=
          hholder.instanceType_ne hshape fun hserves => hlacks.unserved pool hserves rfl
        have hne : shapeOf pool ≠ shape := fun heq => htype (congrArg PoolShape.instanceType heq)
        exact Or.inr (Or.inl ⟨shape, pool, hshape, hholder, hne, (if_neg htype).symm⟩)

/-- It changes the pools that serve but have another shape. -/
theorem update_mem_actions_iff {id : PoolId} :
    .update name id shape ∈ (planFor shapes pools).actions ↔
      shapes.get? name = some shape ∧ ∃ pool, Serves shapes pools pool ∧ nameOf pool = name ∧
        pool.id = id ∧ shapeOf pool ≠ shape := by
  rw [mem_actions, mem_update_entries_iff hsound hdecl]
  constructor
  · rintro (⟨_, _, _, heq⟩ | ⟨shape', pool, hshape, hholder, hne, heq⟩ |
      ⟨_, _, _, _, _, heq⟩ | ⟨_, _, _, heq⟩)
    · cases heq
    · split at heq
      · next htype =>
          cases heq
          exact ⟨hshape, pool, ⟨hholder, shape, hshape, htype⟩, rfl, rfl, hne⟩
      · cases heq
    · cases heq
    · cases heq
  · rintro ⟨hshape, pool, hserves, rfl, rfl, hne⟩
    have htype := hserves.instanceType_eq hshape
    exact Or.inr (Or.inl ⟨shape, pool, hshape, hserves.holder, hne, (if_pos htype).symm⟩)

/-- It deletes the pools that do not serve. -/
theorem delete_mem_actions_iff {id : PoolId} :
    .delete name id ∈ (planFor shapes pools).actions ↔
      ∃ pool ∈ pools, pool.id = id ∧ keyOf pools pool = name ∧ ¬ Serves shapes pools pool := by
  rw [mem_actions, mem_update_entries_iff hsound hdecl]
  constructor
  · rintro (⟨_, _, _, heq⟩ | ⟨shape, pool, _, _, _, heq⟩ | ⟨name', record, id', hmem, hid, heq⟩ |
      ⟨name', id', hmem, heq⟩)
    · cases heq
    · split at heq <;> cases heq
    · cases heq
      obtain ⟨hnone, pool, hpool, rfl, rfl⟩ := (mem_delete_entries hsound).mp hmem
      refine ⟨pool, hpool, Option.some.inj hid, rfl, fun hserves => ?_⟩
      obtain ⟨shape, hshape, _⟩ := hserves.fits
      rw [keyOf_of_isHolder hserves.holder, hshape] at hnone
      cases hnone
    · cases heq
      obtain ⟨shape, pool, hshape, hholder, rfl, _, hid⟩ :=
        (mem_ofDiffering_entries hsound hdecl).mp hmem
      rw [superseded?_created] at hid
      split at hid
      · cases hid
      · next htype =>
          refine ⟨pool, hholder.mem, Option.some.inj hid, keyOf_of_isHolder hholder, ?_⟩
          exact fun hserves => htype (hserves.instanceType_eq hshape)
  · rintro ⟨pool, hpool, rfl, rfl, hserves⟩
    cases hshape : shapes.get? (keyOf pools pool) with
    | none =>
        refine Or.inr (Or.inr (Or.inl ⟨_, .created pool.id (shapeOf pool), pool.id, ?_, rfl, rfl⟩))
        exact (mem_delete_entries hsound).mpr ⟨hshape, pool, hpool, rfl, rfl⟩
    | some shape =>
        obtain ⟨hholder, hname⟩ :=
          isHolder_of_keyOf_eq hsound hpool (hdecl _ shape hshape).2 rfl
        rw [← hname] at hshape
        have htype := hholder.instanceType_ne hshape hserves
        have hne : shapeOf pool ≠ shape := fun heq => htype (congrArg PoolShape.instanceType heq)
        refine Or.inr (Or.inr (Or.inr ⟨_, pool.id, ?_, rfl⟩))
        rw [keyOf_of_isHolder hholder]
        exact (mem_ofDiffering_entries hsound hdecl).mpr
          ⟨shape, pool, hshape, hholder, rfl, hne, if_neg htype⟩

omit hsound hdecl

/-- The name that a request is about. -/
def subject : PoolAction → String
  | .create name _ => name
  | .update name _ _ => name
  | .delete name _ => name

/-- The request is for a deletion. -/
def IsDeletion : PoolAction → Prop
  | .delete _ _ => True
  | _ => False

theorem subject_updateAction (entry : String × PoolRecord) :
    subject (PoolPlan.updateAction entry) = entry.1 := by
  unfold PoolPlan.updateAction
  split <;> rfl

theorem not_isDeletion_updateAction (entry : String × PoolRecord) :
    ¬ IsDeletion (PoolPlan.updateAction entry) := by
  unfold PoolPlan.updateAction
  split <;> exact id

/-- Requests about the names of a map, one for each at most, are different. -/
theorem nodup_filterMap_entries {α : Type} (map : KeyMap α) {f : String × α → Option PoolAction}
    (hf : ∀ entry action, f entry = some action → subject action = entry.1) :
    (map.entries.filterMap f).Nodup := by
  apply List.Pairwise.filterMap f _ map.ascending
  intro first second hlt action haction other hother heq
  rw [← hf first action haction, ← hf second other hother, heq] at hlt
  exact String.lt_irrefl _ hlt

theorem nodup_map_entries {α : Type} (map : KeyMap α) {f : String × α → PoolAction}
    (hf : ∀ entry, subject (f entry) = entry.1) : (map.entries.map f).Nodup := by
  rw [← List.filterMap_eq_map]
  apply nodup_filterMap_entries
  intro entry action haction
  rw [← Option.some.inj haction]
  exact hf entry

/-- The requests that are no deletions. -/
def builds (plan : PoolPlan) : List PoolAction :=
  plan.create.entries.map (fun entry => .create entry.1 entry.2.shape) ++
  plan.update.entries.map PoolPlan.updateAction

/-- The requests that are deletions. -/
def removals (plan : PoolPlan) : List PoolAction :=
  plan.delete.entries.filterMap (fun entry => entry.2.id.map (.delete entry.1)) ++
  plan.replace.entries.map (fun entry => .delete entry.1 entry.2)

theorem actions_eq (plan : PoolPlan) : plan.actions = builds plan ++ removals plan := by
  rw [PoolPlan.actions, builds, removals, List.append_assoc]

theorem not_isDeletion_of_mem_builds {plan : PoolPlan} {action : PoolAction}
    (h : action ∈ builds plan) : ¬ IsDeletion action := by
  rcases List.mem_append.mp h with h | h
  · obtain ⟨entry, _, rfl⟩ := List.mem_map.mp h
    exact id
  · obtain ⟨entry, _, rfl⟩ := List.mem_map.mp h
    exact not_isDeletion_updateAction entry

theorem isDeletion_of_mem_removals {plan : PoolPlan} {action : PoolAction}
    (h : action ∈ removals plan) : IsDeletion action := by
  rcases List.mem_append.mp h with h | h
  · obtain ⟨entry, _, hentry⟩ := List.mem_filterMap.mp h
    obtain ⟨id, _, rfl⟩ := Option.map_eq_some_iff.mp hentry
    exact trivial
  · obtain ⟨entry, _, rfl⟩ := List.mem_map.mp h
    exact trivial

/-- After a deletion there are deletions only. -/
theorem actions_ordered (plan : PoolPlan) :
    plan.actions.Pairwise fun first second => IsDeletion first → IsDeletion second := by
  rw [actions_eq, List.pairwise_append]
  refine ⟨?_, ?_, ?_⟩
  · apply List.pairwise_of_forall_mem_list
    intro first hfirst second _ hdeletion
    exact absurd hdeletion (not_isDeletion_of_mem_builds hfirst)
  · apply List.pairwise_of_forall_mem_list
    intro first _ second hsecond _
    exact isDeletion_of_mem_removals hsecond
  · intro first _ second hsecond _
    exact isDeletion_of_mem_removals hsecond

include hsound hdecl

theorem builds_nodup : (builds (planFor shapes pools)).Nodup := by
  rw [builds, List.nodup_append]
  refine ⟨?_, ?_, ?_⟩
  · exact nodup_map_entries _ fun _ => rfl
  · exact nodup_map_entries _ subject_updateAction
  · intro action haction other hother heq
    subst heq
    obtain ⟨entry, hentry, rfl⟩ := List.mem_map.mp haction
    obtain ⟨entry', hentry', heq⟩ := List.mem_map.mp hother
    obtain ⟨_, _, _, hnone⟩ := mem_create_entries.mp hentry
    obtain ⟨shape, pool, hshape, hholder, hname, _⟩ :=
      (mem_ofDiffering_entries hsound hdecl).mp hentry'
    have hsubject : entry'.1 = entry.1 := by
      rw [← subject_updateAction entry', heq]
      rfl
    have hsome := (get?_observed_of_isPlain hsound (hdecl _ shape hshape).2).mpr
      ⟨pool, hholder, hname, rfl⟩
    rw [hsubject, hnone] at hsome
    cases hsome

theorem removals_nodup : (removals (planFor shapes pools)).Nodup := by
  rw [removals, List.nodup_append]
  refine ⟨?_, ?_, ?_⟩
  · apply nodup_filterMap_entries
    intro entry action haction
    obtain ⟨id, _, rfl⟩ := Option.map_eq_some_iff.mp haction
    rfl
  · exact nodup_map_entries _ fun _ => rfl
  · intro action haction other hother heq
    subst heq
    obtain ⟨entry, hentry, heq⟩ := List.mem_filterMap.mp haction
    obtain ⟨id, _, rfl⟩ := Option.map_eq_some_iff.mp heq
    obtain ⟨entry', hentry', heq'⟩ := List.mem_map.mp hother
    obtain ⟨hnone, _⟩ := (mem_delete_entries hsound).mp hentry
    obtain ⟨shape, pool, hshape, _⟩ := (mem_ofDiffering_entries hsound hdecl).mp hentry'
    have hsubject : entry'.1 = entry.1 := congrArg subject heq'
    rw [hsubject, hnone] at hshape
    cases hshape

/-- A plan asks for each thing once. -/
theorem actions_nodup : (planFor shapes pools).actions.Nodup := by
  rw [actions_eq, List.nodup_append]
  refine ⟨builds_nodup hsound hdecl, removals_nodup hsound hdecl, ?_⟩
  intro action haction other hother heq
  subst heq
  exact not_isDeletion_of_mem_builds haction (isDeletion_of_mem_removals hother)

end ClusterKeeper.Pools
