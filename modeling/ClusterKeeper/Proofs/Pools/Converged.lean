import ClusterKeeper.Pass.Readiness
import ClusterKeeper.Proofs.Pools.Steps
/-!
Pools that are as declared.

There is nothing to do about them, and nothing is to be done about no others. The pools of a new
cluster are of that kind, and what is observed of pools does not depend on their nodes.
-/

namespace ClusterKeeper.Pools

variable {shapes : KeyMap PoolShape} {pools listing : List RemotePool} {pool other : RemotePool}
  {name : String} {shape : PoolShape}

namespace IsConverged

variable (h : IsConverged shapes pools)
include h

theorem get?_eq (hpool : pool ∈ pools) : shapes.get? (nameOf pool) = some (shapeOf pool) := by
  apply KeyMap.get?_eq_some_iff.mpr
  exact h.subset (List.mem_map_of_mem hpool)

theorem exists_pool (hshape : shapes.get? name = some shape) :
    ∃ pool ∈ pools, nameOf pool = name ∧ shapeOf pool = shape := by
  have hmem := h.symm.subset (KeyMap.get?_eq_some_iff.mp hshape)
  obtain ⟨pool, hpool, heq⟩ := List.mem_map.mp hmem
  cases heq
  exact ⟨pool, hpool, rfl, rfl⟩

theorem eq_of_nameOf_eq (hpool : pool ∈ pools) (hother : other ∈ pools)
    (hname : nameOf pool = nameOf other) : pool = other := by
  have hnames : (pools.map nameOf).Perm shapes.keys := by
    have hperm := h.map Prod.fst
    rw [List.map_map] at hperm
    exact hperm
  have hnodup : (pools.map nameOf).Nodup := hnames.nodup_iff.mpr shapes.nodup_keys
  exact List.inj_on_of_nodup_map hnodup hpool hother hname

/-- Each pool has its name to itself. -/
theorem isHolder (hpool : pool ∈ pools) : IsHolder pools pool where
  mem := hpool
  highest := by
    intro other hother hname
    rw [h.eq_of_nameOf_eq hother hpool hname]
    exact Int64.le_refl _

end IsConverged

theorem isEmpty_planFor_of_isConverged (hsound : IsSound pools) (hdecl : IsDeclarable shapes)
    (h : IsConverged shapes pools) : (planFor shapes pools).isEmpty = true := by
  have hcreate : (planFor shapes pools).create.entries = [] := by
    apply List.eq_nil_iff_forall_not_mem.mpr
    rintro ⟨name, record⟩ hmem
    obtain ⟨shape, hshape, _, hnone⟩ := mem_create_entries.mp hmem
    obtain ⟨pool, hpool, hname, _⟩ := h.exists_pool hshape
    have hsome := (get?_observed_of_isPlain hsound (hdecl name shape hshape).2).mpr
      ⟨pool, h.isHolder hpool, hname, rfl⟩
    rw [hnone] at hsome
    cases hsome
  have hupdate : (planFor shapes pools).update.entries = [] := by
    apply List.eq_nil_iff_forall_not_mem.mpr
    rintro ⟨name, record⟩ hmem
    obtain ⟨shape, pool, hshape, hholder, rfl, hne, _⟩ :=
      (mem_ofDiffering_entries hsound hdecl).mp hmem
    rw [h.get?_eq hholder.mem] at hshape
    exact hne (Option.some.inj hshape)
  have hdelete : (planFor shapes pools).delete.entries = [] := by
    apply List.eq_nil_iff_forall_not_mem.mpr
    rintro ⟨name, record⟩ hmem
    obtain ⟨hnone, pool, hpool, rfl, _⟩ := (mem_delete_entries hsound).mp hmem
    rw [keyOf_of_isHolder (h.isHolder hpool), h.get?_eq hpool] at hnone
    cases hnone
  rw [PoolPlan.isEmpty, KeyMap.isEmpty, KeyMap.isEmpty, KeyMap.isEmpty, hcreate, hupdate, hdelete]
  rfl

/-- An empty plan has no requests: what is replaced is what is changed. -/
theorem actions_eq_nil (hsound : IsSound pools) (hdecl : IsDeclarable shapes)
    (h : (planFor shapes pools).isEmpty = true) : (planFor shapes pools).actions = [] := by
  rw [PoolPlan.isEmpty, Bool.and_eq_true, Bool.and_eq_true] at h
  obtain ⟨⟨hcreate, hupdate⟩, hdelete⟩ := h
  have hcreate := List.isEmpty_iff.mp hcreate
  have hupdate := List.isEmpty_iff.mp hupdate
  have hdelete := List.isEmpty_iff.mp hdelete
  have hreplace : (planFor shapes pools).replace.entries = [] := by
    apply List.eq_nil_iff_forall_not_mem.mpr
    rintro ⟨name, id⟩ hmem
    obtain ⟨shape, pool, hshape, hholder, hname, hne, _⟩ :=
      (mem_ofDiffering_entries hsound hdecl).mp hmem
    have hchange := (mem_ofDiffering_entries hsound hdecl
      (f := fun want current => some (PoolPlan.changed want current))).mpr
      ⟨shape, pool, hshape, hholder, hname, hne, rfl⟩
    have hchange : _ ∈ (planFor shapes pools).update.entries := hchange
    rw [hupdate] at hchange
    exact List.not_mem_nil hchange
  rw [PoolPlan.actions, hcreate, hupdate, hdelete, hreplace]
  rfl

/-- There is nothing to do about the pools exactly if they are as declared. -/
theorem isEmpty_planFor_iff (hsound : IsSound pools) (hdecl : IsDeclarable shapes) :
    (planFor shapes pools).isEmpty = true ↔ IsConverged shapes pools := by
  constructor
  · intro h
    have hnone := actions_eq_nil hsound hdecl h
    have hrest := outstanding_planFor hsound hdecl
    have hall := exhaustive_planFor hsound hdecl
    rw [hnone] at hrest hall
    exact isConverged_of_exhaustive hrest hall
  · exact isEmpty_planFor_of_isConverged hsound hdecl

/-- Pools made for the requests of a declaration have its names and shapes. -/
theorem map_nameOf_shapeOf_of_meets {entries : List (String × PoolShape)}
    (hnames : ∀ entry ∈ entries, entry.1 ≠ "")
    (h : List.Forall₂ Meets pools (entries.map fun entry => creation entry.1 entry.2)) :
    pools.map (fun pool => (nameOf pool, shapeOf pool)) = entries := by
  induction entries generalizing pools with
  | nil =>
      cases h
      rfl
  | cons entry rest ih =>
      cases h with
      | cons hmeets hrest =>
          have hrest := ih (fun other hother => hnames other (List.mem_cons_of_mem _ hother)) hrest
          have hname := hmeets.nameOf_eq (hnames entry List.mem_cons_self)
          rw [List.map_cons, hrest, hname, hmeets.shapeOf_eq]

section New

variable (hdecl : IsDeclarable shapes) (h : List.Forall₂ Meets pools (creations shapes))
include hdecl h

theorem isConverged_of_meets : IsConverged shapes pools := by
  have hnames : ∀ entry ∈ shapes.entries, entry.1 ≠ "" := fun entry hentry =>
    (hdecl entry.1 entry.2 (KeyMap.get?_eq_some_iff.mpr hentry)).1
  rw [IsConverged, map_nameOf_shapeOf_of_meets hnames h]

theorem isSound_of_meets (hdistinct : (pools.map RemotePool.id).Nodup) : IsSound pools where
  distinct := hdistinct
  plain := by
    intro pool hpool name hname
    have hshape := (isConverged_of_meets hdecl h).get?_eq hpool
    rw [nameOf_of_given hname] at hshape
    exact (hdecl name _ hshape).2

end New

/-- The pool without its nodes. -/
def bare (pool : RemotePool) : RemotePool := { pool with nodes := [] }

/-- The listing reports the pools, in any order, and their nodes as ready. -/
structure Shows (pools listing : List RemotePool) : Prop where
  perm : (listing.map bare).Perm (pools.map bare)
  ready : ∀ pool ∈ listing, ∀ node ∈ pool.nodes, node.status = readyStatus

theorem keeps_bare (pool : RemotePool) : Keeps bare pool := ⟨rfl, rfl, rfl⟩

theorem observed_map_bare (pools : List RemotePool) :
    observed (pools.map bare) = observed pools := by
  have hkey : ∀ pool, keyOf (pools.map bare) (bare pool) = keyOf pools pool := by
    intro pool
    have howner : owner? (pools.map bare) (nameOf pool) = owner? pools (nameOf pool) := by
      rw [owner?, owner?, List.filter_map, List.map_map]
      rfl
    change (if owner? (pools.map bare) (nameOf pool) = some pool.id then _ else _) = _
    rw [howner]
    rfl
  rw [observed, observed, List.map_map]
  refine congrArg KeyMap.ofList (List.map_congr_left fun pool _ => ?_)
  change (keyOf (pools.map bare) (bare pool), PoolRecord.created pool.id (shapeOf pool)) = _
  rw [hkey]

/-- What is observed of a listing is what is observed of the pools. -/
theorem Shows.observed_eq (h : Shows pools listing) (hsound : IsSound pools) :
    observed listing = observed pools := by
  have hbare : IsSound (pools.map bare) :=
    IsSound.map (fun pool _ => keeps_bare pool) hsound hsound.plain
  rw [← observed_map_bare listing, observed_perm hbare h.perm, observed_map_bare]

end ClusterKeeper.Pools
