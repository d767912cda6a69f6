import Mathlib.Data.List.Nodup
import ClusterKeeper.Pools.Plan
/-!
Plans as partitions.

A plan is made from any two maps of pools, whatever identifiers they have. It sorts their names: a
name that is on one side only is created or deleted, one that is on both sides is changed if the
shapes differ, and left alone otherwise. A pool that gives way to another instance type is listed
beside the change, so that a plan without changes replaces nothing.
-/

namespace ClusterKeeper.PoolPlan

variable {desired observed : KeyMap PoolRecord} {name : String}

/-- The identifier that a pool is changed under: that of the current pool, unless the current pool
is known and has another instance type. -/
def keptId (want current : PoolRecord) : Option Int64 :=
  if current.id.isSome ∧ current.shape.instanceType ≠ want.shape.instanceType then none
  else current.id

/-- The plan says of every name what is to be done about it. -/
structure IsPartition (desired observed : KeyMap PoolRecord) (plan : PoolPlan) : Prop where
  create_update : plan.create.keys.Disjoint plan.update.keys
  create_delete : plan.create.keys.Disjoint plan.delete.keys
  update_delete : plan.update.keys.Disjoint plan.delete.keys
  /-- Created as desired is what is not observed. -/
  created : ∀ name record, plan.create.get? name = some record ↔
    desired.get? name = some record ∧ observed.get? name = none
  /-- Deleted as observed is what is not desired. -/
  deleted : ∀ name record, plan.delete.get? name = some record ↔
    observed.get? name = some record ∧ desired.get? name = none
  /-- Changed to the desired shape is what is observed with another. -/
  updated : ∀ name record, plan.update.get? name = some record ↔
    ∃ want current, desired.get? name = some want ∧ observed.get? name = some current ∧
      current.shape ≠ want.shape ∧ record = ⟨keptId want current, want.shape⟩
  /-- Replaced under its identifier is what is changed without one although it is known. -/
  replaced : ∀ name id, plan.replace.get? name = some id ↔
    ∃ want current, desired.get? name = some want ∧ observed.get? name = some current ∧
      current.shape.instanceType ≠ want.shape.instanceType ∧ current.id = some id
  /-- There is nothing to do if both sides have the same names with the same shapes. -/
  isEmpty_iff : plan.isEmpty = true ↔
    ∀ name, (desired.get? name).map (·.shape) = (observed.get? name).map (·.shape)
  /-- Nothing is replaced then. -/
  replaces_nothing : plan.isEmpty = true → plan.replace.isEmpty = true

theorem get?_create : (between desired observed).create.get? name =
    if observed.get? name = none then desired.get? name else none := by
  have hfilter : (between desired observed).create.get? name =
      (desired.get? name).filter fun _ => !observed.contains name := KeyMap.get?_filter ..
  rw [hfilter, KeyMap.contains]
  cases desired.get? name <;> cases observed.get? name <;> simp

theorem get?_delete : (between desired observed).delete.get? name =
    if desired.get? name = none then observed.get? name else none := by
  have hfilter : (between desired observed).delete.get? name =
      (observed.get? name).filter fun _ => !desired.contains name := KeyMap.get?_filter ..
  rw [hfilter, KeyMap.contains]
  cases desired.get? name <;> cases observed.get? name <;> simp

theorem get?_ofDiffering_eq_some_iff {α : Type} (f : PoolRecord → PoolRecord → Option α) {a : α} :
    (ofDiffering desired observed f).get? name = some a ↔
      ∃ want current, desired.get? name = some want ∧ observed.get? name = some current ∧
        current.shape ≠ want.shape ∧ f want current = some a := by
  rw [ofDiffering, KeyMap.get?_filterMap]
  simp only [Option.bind_eq_some_iff]
  constructor
  · rintro ⟨want, hwant, current, hcurrent, heq⟩
    by_cases hshape : current.shape = want.shape
    · simp [hshape] at heq
    · rw [if_neg hshape] at heq
      exact ⟨want, current, hwant, hcurrent, hshape, heq⟩
  · rintro ⟨want, current, hwant, hcurrent, hshape, heq⟩
    exact ⟨want, hwant, current, hcurrent, by rwa [if_neg hshape]⟩

theorem changed_eq (want current : PoolRecord) :
    changed want current = ⟨keptId want current, want.shape⟩ := by
  by_cases htype : current.shape.instanceType = want.shape.instanceType
  · simp [changed, superseded?, keptId, htype]
  · cases hid : current.id <;> simp [changed, superseded?, keptId, htype, hid]

theorem superseded?_eq_some_iff {want current : PoolRecord} {id : Int64} :
    superseded? want current = some id ↔
      current.shape.instanceType ≠ want.shape.instanceType ∧ current.id = some id := by
  by_cases htype : current.shape.instanceType = want.shape.instanceType <;>
    simp [superseded?, htype]

theorem get?_update_eq_some_iff {record : PoolRecord} :
    (between desired observed).update.get? name = some record ↔
      ∃ want current, desired.get? name = some want ∧ observed.get? name = some current ∧
        current.shape ≠ want.shape ∧ record = ⟨keptId want current, want.shape⟩ := by
  refine (get?_ofDiffering_eq_some_iff fun want current => some (changed want current)).trans ?_
  simp only [changed_eq, Option.some.injEq, eq_comm (a := record)]

theorem get?_replace_eq_some_iff {id : Int64} :
    (between desired observed).replace.get? name = some id ↔
      ∃ want current, desired.get? name = some want ∧ observed.get? name = some current ∧
        current.shape.instanceType ≠ want.shape.instanceType ∧ current.id = some id := by
  refine (get?_ofDiffering_eq_some_iff superseded?).trans ?_
  simp only [superseded?_eq_some_iff]
  constructor
  · rintro ⟨want, current, hwant, hcurrent, _, htype⟩
    exact ⟨want, current, hwant, hcurrent, htype⟩
  · rintro ⟨want, current, hwant, hcurrent, htype, hid⟩
    have hshape : current.shape ≠ want.shape := fun heq => htype (by rw [heq])
    exact ⟨want, current, hwant, hcurrent, hshape, htype, hid⟩

theorem isEmpty_eq_true_iff {plan : PoolPlan} :
    plan.isEmpty = true ↔ ∀ name, plan.create.get? name = none ∧
      plan.update.get? name = none ∧ plan.delete.get? name = none := by
  simp only [isEmpty, Bool.and_eq_true, KeyMap.isEmpty_iff]
  constructor
  · rintro ⟨⟨hcreate, hupdate⟩, hdelete⟩ name
    exact ⟨hcreate name, hupdate name, hdelete name⟩
  · intro hnone
    exact ⟨⟨fun name => (hnone name).1, fun name => (hnone name).2.1⟩, fun name => (hnone name).2.2⟩

theorem get?_update_eq_none_iff :
    (between desired observed).update.get? name = none ↔
      ∀ want current, desired.get? name = some want → observed.get? name = some current →
        current.shape = want.shape := by
  rw [Option.eq_none_iff_forall_ne_some]
  constructor
  · intro hnone want current hwant hcurrent
    by_contra hshape
    exact hnone _ (get?_update_eq_some_iff.mpr ⟨want, current, hwant, hcurrent, hshape, rfl⟩)
  · intro hsame record hrecord
    obtain ⟨want, current, hwant, hcurrent, hshape, _⟩ := get?_update_eq_some_iff.mp hrecord
    exact hshape (hsame want current hwant hcurrent)

theorem isEmpty_between_iff :
    (between desired observed).isEmpty = true ↔
      ∀ name, (desired.get? name).map (·.shape) = (observed.get? name).map (·.shape) := by
  rw [isEmpty_eq_true_iff]
  apply forall_congr'
  intro name
  rw [get?_create, get?_delete, get?_update_eq_none_iff]
  cases desired.get? name <;> cases observed.get? name <;> simp [eq_comm]

/-- What is replaced is changed as well. -/
theorem exists_update_of_replace {id : Int64}
    (h : (between desired observed).replace.get? name = some id) :
    ∃ record, (between desired observed).update.get? name = some record := by
  obtain ⟨want, current, hwant, hcurrent, htype, _⟩ := get?_replace_eq_some_iff.mp h
  have hshape : current.shape ≠ want.shape := fun heq => htype (by rw [heq])
  exact ⟨_, get?_update_eq_some_iff.mpr ⟨want, current, hwant, hcurrent, hshape, rfl⟩⟩

/-- A plan sorts the names of both sides exactly, whatever the two maps are. -/
theorem between_isPartition (desired observed : KeyMap PoolRecord) :
    IsPartition desired observed (between desired observed) where
  create_update := by
    intro name hcreate hupdate
    obtain ⟨_, hcreate⟩ := KeyMap.mem_keys_iff.mp hcreate
    obtain ⟨_, hupdate⟩ := KeyMap.mem_keys_iff.mp hupdate
    obtain ⟨_, _, _, hcurrent, _⟩ := get?_update_eq_some_iff.mp hupdate
    simp [get?_create, hcurrent] at hcreate
  create_delete := by
    intro name hcreate hdelete
    obtain ⟨_, hcreate⟩ := KeyMap.mem_keys_iff.mp hcreate
    obtain ⟨_, hdelete⟩ := KeyMap.mem_keys_iff.mp hdelete
    rw [get?_create] at hcreate
    rw [get?_delete] at hdelete
    by_cases hdesired : desired.get? name = none
    · simp [hdesired] at hcreate
    · simp [hdesired] at hdelete
  update_delete := by
    intro name hupdate hdelete
    obtain ⟨_, hupdate⟩ := KeyMap.mem_keys_iff.mp hupdate
    obtain ⟨_, hdelete⟩ := KeyMap.mem_keys_iff.mp hdelete
    obtain ⟨_, _, hwant, _⟩ := get?_update_eq_some_iff.mp hupdate
    simp [get?_delete, hwant] at hdelete
  created := by
    intro name record
    rw [get?_create]
    by_cases hobserved : observed.get? name = none <;> simp [hobserved]
  deleted := by
    intro name record
    rw [get?_delete]
    by_cases hdesired : desired.get? name = none <;> simp [hdesired]
  updated _ _ := get?_update_eq_some_iff
  replaced _ _ := get?_replace_eq_some_iff
  isEmpty_iff := isEmpty_between_iff
  replaces_nothing := by
    intro hempty
    rw [KeyMap.isEmpty_iff]
    intro name
    rw [Option.eq_none_iff_forall_ne_some]
    intro id hid
    obtain ⟨record, hrecord⟩ := exists_update_of_replace hid
    rw [(isEmpty_eq_true_iff.mp hempty name).2.1] at hrecord
    cases hrecord

end ClusterKeeper.PoolPlan
