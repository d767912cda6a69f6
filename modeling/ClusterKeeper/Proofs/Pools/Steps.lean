import ClusterKeeper.Proofs.Pools.Work
/-!
What requests about node pools do, and what is left to do after each.

While the requests of a plan are carried out one by one, those that are left are always the ones
that the pools still call for. So a plan that was carried out leaves one pool for each declared
name, of the declared shape, and a plan that was given up leaves work that the next plan finds.
-/

namespace ClusterKeeper.Pools

variable {shapes : KeyMap PoolShape} {pools : List RemotePool} {pool other : RemotePool}
  {name : String} {shape : PoolShape} {id : PoolId} {rest : List PoolAction}

/-- The pool is as it was asked for, whatever nodes it has. -/
structure Meets (pool : RemotePool) (request : PoolCreation) : Prop where
  count : pool.count = request.count
  instanceType : pool.instanceType = request.instanceType
  tags : pool.tags = request.tags
  scaling : pool.scaling = request.scaling.getD RemoteScaling.off

/-- The pool after a change of what the request names. -/
def changedBy (request : PoolUpdate) (nodes : List RemoteNode) (pool : RemotePool) : RemotePool :=
  { pool with
    count := request.count
    tags := request.tags.getD pool.tags
    scaling := request.scaling.getD pool.scaling
    nodes }

/-- The pools after a change of one of them. -/
def withChange (id : PoolId) (request : PoolUpdate) (nodes : List RemoteNode)
    (pools : List RemotePool) : List RemotePool :=
  pools.map fun pool => if pool.id = id then changedBy request nodes pool else pool

/-- The pools without one of them. -/
def without (id : PoolId) (pools : List RemotePool) : List RemotePool :=
  pools.filter fun pool => pool.id != id

theorem mem_without : pool ∈ without id pools ↔ pool ∈ pools ∧ pool.id ≠ id := by
  simp [without]

namespace Meets

theorem givenName?_eq (h : Meets pool (creation name shape)) (hname : name ≠ "") :
    givenName? pool = some name :=
  givenName?_of_tags h.tags hname

theorem nameOf_eq (h : Meets pool (creation name shape)) (hname : name ≠ "") :
    nameOf pool = name :=
  nameOf_of_given (h.givenName?_eq hname)

theorem shapeOf_eq (h : Meets pool (creation name shape)) : shapeOf pool = shape := by
  have hscaling := h.scaling
  obtain ⟨count, instanceType, scaling⟩ := shape
  rw [shapeOf, h.count, h.instanceType, hscaling]
  cases scaling with
  | none => rfl
  | some bounds => rfl

end Meets

theorem givenName?_changedBy {nodes : List RemoteNode} (hname : name ≠ "") :
    givenName? (changedBy (update name shape) nodes pool) = some name :=
  givenName?_of_tags rfl hname

theorem shapeOf_changedBy {nodes : List RemoteNode}
    (htype : pool.instanceType = shape.instanceType) :
    shapeOf (changedBy (update name shape) nodes pool) = shape := by
  obtain ⟨count, instanceType, scaling⟩ := shape
  obtain rfl : pool.instanceType = instanceType := htype
  cases scaling with
  | none => rfl
  | some bounds => rfl

section Append

theorem IsSound.append (h : IsSound pools) (hnew : ∀ other ∈ pools, other.id < pool.id)
    (hgiven : givenName? pool = some name) (hplain : IsPlain name) : IsSound (pools ++ [pool]) where
  distinct := by
    rw [List.map_append, List.nodup_append]
    refine ⟨h.distinct, List.nodup_singleton _, ?_⟩
    intro first hfirst second hsecond heq
    obtain ⟨other, hother, rfl⟩ := List.mem_map.mp hfirst
    rw [List.mem_singleton.mp hsecond] at heq
    have hlt := hnew other hother
    rw [heq] at hlt
    exact Int64.lt_irrefl hlt
  plain := by
    intro other hother given hother'
    rcases List.mem_append.mp hother with hother | hother
    · exact h.plain other hother given hother'
    · rw [List.mem_singleton.mp hother, hgiven] at hother'
      rw [← Option.some.inj hother']
      exact hplain

variable (hnew : ∀ other ∈ pools, other.id < pool.id) (hlacks : Lacks shapes pools (nameOf pool))
include hnew hlacks

/-- A new pool of a name that no pool serves serves it, and the others go on to serve theirs. -/
theorem serves_append_iff (hshape : shapes.get? (nameOf pool) = some shape)
    (htype : pool.instanceType = shape.instanceType) :
    Serves shapes (pools ++ [pool]) other ↔ Serves shapes pools other ∨ other = pool := by
  constructor
  · intro h
    rcases List.mem_append.mp h.holder.mem with hmem | hmem
    · refine Or.inl ⟨⟨hmem, fun third hthird => ?_⟩, h.fits⟩
      exact h.holder.highest third (List.mem_append_left _ hthird)
    · exact Or.inr (List.mem_singleton.mp hmem)
  · rintro (h | rfl)
    · refine ⟨⟨List.mem_append_left _ h.holder.mem, fun third hthird hname => ?_⟩, h.fits⟩
      rcases List.mem_append.mp hthird with hthird | hthird
      · exact h.holder.highest third hthird hname
      · rw [List.mem_singleton.mp hthird] at hname
        exact absurd hname.symm (hlacks.unserved other h)
    · refine ⟨⟨List.mem_append_right _ (List.mem_singleton_self _), fun third hthird _ => ?_⟩,
        shape, hshape, htype⟩
      rcases List.mem_append.mp hthird with hthird | hthird
      · exact Int64.le_of_lt (hnew third hthird)
      · rw [List.mem_singleton.mp hthird]
        exact Int64.le_refl _

theorem lacks_append_iff (hshape : shapes.get? (nameOf pool) = some shape)
    (htype : pool.instanceType = shape.instanceType) :
    Lacks shapes (pools ++ [pool]) name ↔ Lacks shapes pools name ∧ name ≠ nameOf pool := by
  have hserves : ∀ other, Serves shapes (pools ++ [pool]) other ↔
      Serves shapes pools other ∨ other = pool := by
    intro other
    exact serves_append_iff hnew hlacks hshape htype
  constructor
  · intro h
    refine ⟨⟨h.declared, fun third hthird => ?_⟩, ?_⟩
    · exact h.unserved third ((hserves third).mpr (Or.inl hthird))
    · intro hname
      exact h.unserved pool ((hserves pool).mpr (Or.inr rfl)) hname.symm
  · rintro ⟨h, hname⟩
    refine ⟨h.declared, fun third hthird => ?_⟩
    rcases (hserves third).mp hthird with hthird | rfl
    · exact h.unserved third hthird
    · exact Ne.symm hname

end Append

section Change

/-- The function leaves what decides which pools serve. -/
structure Keeps (f : RemotePool → RemotePool) (pool : RemotePool) : Prop where
  id : (f pool).id = pool.id
  name : nameOf (f pool) = nameOf pool
  instanceType : (f pool).instanceType = pool.instanceType

variable {f : RemotePool → RemotePool} (hf : ∀ pool ∈ pools, Keeps f pool)
include hf

theorem isHolder_map_iff :
    IsHolder (pools.map f) other ↔ ∃ pool, IsHolder pools pool ∧ other = f pool := by
  constructor
  · intro h
    obtain ⟨pool, hpool, rfl⟩ := List.mem_map.mp h.mem
    refine ⟨pool, ⟨hpool, fun third hthird hname => ?_⟩, rfl⟩
    have hle := h.highest (f third) (List.mem_map_of_mem hthird) (by
      rw [(hf third hthird).name, (hf pool hpool).name, hname])
    rw [(hf third hthird).id, (hf pool hpool).id] at hle
    exact hle
  · rintro ⟨pool, h, rfl⟩
    refine ⟨List.mem_map_of_mem h.mem, fun mapped hmapped hname => ?_⟩
    obtain ⟨third, hthird, rfl⟩ := List.mem_map.mp hmapped
    rw [(hf third hthird).name, (hf pool h.mem).name] at hname
    rw [(hf third hthird).id, (hf pool h.mem).id]
    exact h.highest third hthird hname

theorem serves_map_iff :
    Serves shapes (pools.map f) other ↔ ∃ pool, Serves shapes pools pool ∧ other = f pool := by
  constructor
  · intro h
    obtain ⟨pool, hholder, rfl⟩ := (isHolder_map_iff hf).mp h.holder
    have hkeeps := hf pool hholder.mem
    obtain ⟨shape, hshape, htype⟩ := h.fits
    rw [hkeeps.name] at hshape
    rw [hkeeps.instanceType] at htype
    exact ⟨pool, ⟨hholder, shape, hshape, htype⟩, rfl⟩
  · rintro ⟨pool, h, rfl⟩
    have hkeeps := hf pool h.holder.mem
    obtain ⟨shape, hshape, htype⟩ := h.fits
    refine ⟨(isHolder_map_iff hf).mpr ⟨pool, h.holder, rfl⟩, shape, ?_, ?_⟩
    · rw [hkeeps.name]
      exact hshape
    · rw [hkeeps.instanceType]
      exact htype

theorem lacks_map_iff : Lacks shapes (pools.map f) name ↔ Lacks shapes pools name := by
  constructor
  · intro h
    refine ⟨h.declared, fun pool hserves hname => ?_⟩
    apply h.unserved (f pool) ((serves_map_iff hf).mpr ⟨pool, hserves, rfl⟩)
    rw [(hf pool hserves.holder.mem).name, hname]
  · intro h
    refine ⟨h.declared, fun mapped hmapped hname => ?_⟩
    obtain ⟨pool, hserves, rfl⟩ := (serves_map_iff hf).mp hmapped
    rw [(hf pool hserves.holder.mem).name] at hname
    exact h.unserved pool hserves hname

theorem IsSound.map (h : IsSound pools)
    (hplain : ∀ pool ∈ pools, ∀ name, givenName? (f pool) = some name → IsPlain name) :
    IsSound (pools.map f) where
  distinct := by
    have hids : (pools.map f).map RemotePool.id = pools.map RemotePool.id := by
      rw [List.map_map]
      exact List.map_congr_left fun pool hpool => (hf pool hpool).id
    rw [hids]
    exact h.distinct
  plain := by
    intro other hother name hname
    obtain ⟨pool, hpool, rfl⟩ := List.mem_map.mp hother
    exact hplain pool hpool name hname

end Change

section Removal

theorem IsSound.without (h : IsSound pools) (id : PoolId) : IsSound (without id pools) where
  distinct := h.distinct.sublist (List.filter_sublist.map RemotePool.id)
  plain := fun pool hpool name hname => h.plain pool (mem_without.mp hpool).1 name hname

variable (hsound : IsSound pools) (hserved : ∀ name, ¬ Lacks shapes pools name)
  (hidle : ∀ pool ∈ pools, pool.id = id → ¬ Serves shapes pools pool)
include hsound hserved hidle

/-- Where every declared name is served, a pool that does not serve is not missed. -/
theorem serves_without_iff :
    Serves shapes (without id pools) other ↔ Serves shapes pools other := by
  have hkept : ∀ pool, Serves shapes pools pool → IsHolder (without id pools) pool := by
    intro pool h
    refine ⟨mem_without.mpr ⟨h.holder.mem, fun hid => hidle pool h.holder.mem hid h⟩, ?_⟩
    intro third hthird hname
    exact h.holder.highest third (mem_without.mp hthird).1 hname
  constructor
  · intro h
    obtain ⟨shape, hshape, _⟩ := h.fits
    by_contra hnot
    apply hserved (nameOf other)
    refine ⟨⟨shape, hshape⟩, fun pool hserves hname => hnot ?_⟩
    obtain rfl := (hsound.without id).holder_unique (hkept pool hserves) h.holder hname
    exact hserves
  · intro h
    exact ⟨hkept other h, h.fits⟩

theorem not_lacks_without : ¬ Lacks shapes (without id pools) name := by
  intro h
  apply hserved name
  refine ⟨h.declared, fun pool hserves => ?_⟩
  exact h.unserved pool ((serves_without_iff hsound hserved hidle).mpr hserves)

end Removal

/-! ### What is left to do -/

/-- All requests that are left are called for, and none is left out that creates a pool. -/
structure Outstanding (shapes : KeyMap PoolShape) (rest : List PoolAction)
    (pools : List RemotePool) : Prop where
  sound : IsSound pools
  nodup : rest.Nodup
  ordered : rest.Pairwise fun first second => IsDeletion first → IsDeletion second
  create : ∀ name shape, .create name shape ∈ rest ↔
    shapes.get? name = some shape ∧ Lacks shapes pools name
  update : ∀ name id shape, .update name id shape ∈ rest →
    shapes.get? name = some shape ∧ ∃ pool, Serves shapes pools pool ∧ nameOf pool = name ∧
      pool.id = id ∧ shapeOf pool ≠ shape
  delete : ∀ key id, .delete key id ∈ rest →
    ∃ pool ∈ pools, pool.id = id ∧ ¬ Serves shapes pools pool
  once : ∀ key key' id, .delete key id ∈ rest → .delete key' id ∈ rest → key = key'

/-- Nothing else is left out either. -/
structure Exhaustive (shapes : KeyMap PoolShape) (rest : List PoolAction)
    (pools : List RemotePool) : Prop where
  update : ∀ pool shape, Serves shapes pools pool → shapes.get? (nameOf pool) = some shape →
    shapeOf pool ≠ shape → .update (nameOf pool) pool.id shape ∈ rest
  delete : ∀ pool ∈ pools, ¬ Serves shapes pools pool → ∃ key, .delete key pool.id ∈ rest

section Plan

variable (hsound : IsSound pools) (hdecl : IsDeclarable shapes)
include hsound hdecl

theorem outstanding_planFor : Outstanding shapes (planFor shapes pools).actions pools where
  sound := hsound
  nodup := actions_nodup hsound hdecl
  ordered := actions_ordered _
  create := fun _ _ => create_mem_actions_iff hsound hdecl
  update := fun _ _ _ h => (update_mem_actions_iff hsound hdecl).mp h
  delete := by
    intro key id h
    obtain ⟨pool, hpool, hid, _, hserves⟩ := (delete_mem_actions_iff hsound hdecl).mp h
    exact ⟨pool, hpool, hid, hserves⟩
  once := by
    intro key key' id h h'
    obtain ⟨pool, hpool, hid, rfl, _⟩ := (delete_mem_actions_iff hsound hdecl).mp h
    obtain ⟨other, hother, hid', rfl, _⟩ := (delete_mem_actions_iff hsound hdecl).mp h'
    rw [hsound.eq_of_id_eq hpool hother (hid.trans hid'.symm)]

theorem exhaustive_planFor : Exhaustive shapes (planFor shapes pools).actions pools where
  update := fun pool _ hserves hshape hne =>
    (update_mem_actions_iff hsound hdecl).mpr ⟨hshape, pool, hserves, rfl, rfl, hne⟩
  delete := fun pool hpool hserves =>
    ⟨_, (delete_mem_actions_iff hsound hdecl).mpr ⟨pool, hpool, rfl, rfl, hserves⟩⟩

end Plan

namespace Outstanding

variable (h : Outstanding shapes (.create name shape :: rest) pools)
include h

theorem create_head : shapes.get? name = some shape ∧ Lacks shapes pools name :=
  (h.create name shape).mp List.mem_cons_self

variable (hname : name ≠ "") (hmeets : Meets pool (creation name shape))
  (hnew : ∀ other ∈ pools, other.id < pool.id)
include hname hmeets hnew

theorem serves_created_iff :
    Serves shapes (pools ++ [pool]) other ↔ Serves shapes pools other ∨ other = pool := by
  obtain ⟨hshape, hlacks⟩ := h.create_head
  have hnameOf := hmeets.nameOf_eq hname
  rw [← hnameOf] at hshape hlacks
  exact serves_append_iff hnew hlacks hshape hmeets.instanceType

theorem lacks_created_iff {key : String} :
    Lacks shapes (pools ++ [pool]) key ↔ Lacks shapes pools key ∧ key ≠ name := by
  obtain ⟨hshape, hlacks⟩ := h.create_head
  have hnameOf := hmeets.nameOf_eq hname
  rw [← hnameOf] at hshape hlacks ⊢
  exact lacks_append_iff hnew hlacks hshape hmeets.instanceType

theorem created (hplain : IsPlain name) : Outstanding shapes rest (pools ++ [pool]) where
  sound := h.sound.append hnew (hmeets.givenName?_eq hname) hplain
  nodup := (List.nodup_cons.mp h.nodup).2
  ordered := (List.pairwise_cons.mp h.ordered).2
  create := by
    intro key want
    rw [h.lacks_created_iff hname hmeets hnew]
    constructor
    · intro hmem
      obtain ⟨hwant, hlacks⟩ := (h.create key want).mp (List.mem_cons_of_mem _ hmem)
      refine ⟨hwant, hlacks, ?_⟩
      rintro rfl
      rw [h.create_head.1] at hwant
      obtain rfl := Option.some.inj hwant
      exact (List.nodup_cons.mp h.nodup).1 hmem
    · rintro ⟨hwant, hlacks, hne⟩
      rcases List.mem_cons.mp ((h.create key want).mpr ⟨hwant, hlacks⟩) with heq | hmem
      · cases heq
        exact absurd rfl hne
      · exact hmem
  update := by
    intro key id want hmem
    obtain ⟨hwant, served, hserves, hkey⟩ := h.update key id want (List.mem_cons_of_mem _ hmem)
    exact ⟨hwant, served, (h.serves_created_iff hname hmeets hnew).mpr (Or.inl hserves), hkey⟩
  delete := by
    intro key id hmem
    obtain ⟨spare, hspare, hid, hserves⟩ := h.delete key id (List.mem_cons_of_mem _ hmem)
    refine ⟨spare, List.mem_append_left _ hspare, hid, fun hserves' => ?_⟩
    rcases (h.serves_created_iff hname hmeets hnew).mp hserves' with hserves' | rfl
    · exact hserves hserves'
    · exact Int64.lt_irrefl (hnew spare hspare)
  once := fun key key' id hmem hmem' =>
    h.once key key' id (List.mem_cons_of_mem _ hmem) (List.mem_cons_of_mem _ hmem')

theorem exhaustive_created (hall : Exhaustive shapes (.create name shape :: rest) pools) :
    Exhaustive shapes rest (pools ++ [pool]) where
  update := by
    intro served want hserves hwant hne
    rcases (h.serves_created_iff hname hmeets hnew).mp hserves with hserves | rfl
    · rcases List.mem_cons.mp (hall.update served want hserves hwant hne) with heq | hmem
      · cases heq
      · exact hmem
    · rw [hmeets.nameOf_eq hname, h.create_head.1] at hwant
      exact absurd (hmeets.shapeOf_eq.trans (Option.some.inj hwant)) hne
  delete := by
    intro spare hspare hserves
    have hserves' := fun hold => hserves ((h.serves_created_iff hname hmeets hnew).mpr hold)
    rcases List.mem_append.mp hspare with hspare | hspare
    · obtain ⟨key, hmem⟩ := hall.delete spare hspare fun hold => hserves' (Or.inl hold)
      rcases List.mem_cons.mp hmem with heq | hmem
      · cases heq
      · exact ⟨key, hmem⟩
    · exact absurd (Or.inr (List.mem_singleton.mp hspare)) hserves'

end Outstanding

namespace Outstanding

variable (h : Outstanding shapes (.update name id shape :: rest) pools)
include h

theorem update_head : shapes.get? name = some shape ∧ ∃ pool, Serves shapes pools pool ∧
    nameOf pool = name ∧ pool.id = id ∧ shapeOf pool ≠ shape :=
  h.update name id shape List.mem_cons_self

/-- The pool of that identifier is the one that serves the name. -/
theorem target_eq (hpool : pool ∈ pools) (hid : pool.id = id) :
    Serves shapes pools pool ∧ nameOf pool = name := by
  obtain ⟨_, served, hserves, hserved, hserved', _⟩ := h.update_head
  obtain rfl := h.sound.eq_of_id_eq hpool hserves.holder.mem (hid.trans hserved'.symm)
  exact ⟨hserves, hserved⟩

variable (hname : name ≠ "") (nodes : List RemoteNode)
include hname

theorem change_keeps : ∀ pool ∈ pools, Keeps (fun pool =>
    if pool.id = id then changedBy (Pools.update name shape) nodes pool else pool) pool := by
  intro pool hpool
  by_cases hid : pool.id = id
  · constructor
    · rw [if_pos hid]
      rfl
    · rw [if_pos hid, nameOf_of_given (givenName?_changedBy hname), (h.target_eq hpool hid).2]
    · rw [if_pos hid]
      rfl
  · constructor <;> rw [if_neg hid]

theorem serves_changed_iff :
    Serves shapes (withChange id (Pools.update name shape) nodes pools) other ↔
      ∃ pool, Serves shapes pools pool ∧ other =
        if pool.id = id then changedBy (Pools.update name shape) nodes pool else pool :=
  serves_map_iff (h.change_keeps hname nodes)

theorem lacks_changed_iff {key : String} :
    Lacks shapes (withChange id (Pools.update name shape) nodes pools) key ↔
      Lacks shapes pools key :=
  lacks_map_iff (h.change_keeps hname nodes)

theorem changed (hplain : IsPlain name) :
    Outstanding shapes rest (withChange id (Pools.update name shape) nodes pools) where
  sound := by
    apply h.sound.map (h.change_keeps hname nodes)
    intro pool hpool given hgiven
    by_cases hid : pool.id = id
    · rw [if_pos hid, givenName?_changedBy hname] at hgiven
      rw [← Option.some.inj hgiven]
      exact hplain
    · rw [if_neg hid] at hgiven
      exact h.sound.plain pool hpool given hgiven
  nodup := (List.nodup_cons.mp h.nodup).2
  ordered := (List.pairwise_cons.mp h.ordered).2
  create := by
    intro key want
    rw [h.lacks_changed_iff hname nodes, ← h.create key want, List.mem_cons]
    constructor
    · exact Or.inr
    · rintro (heq | hmem)
      · cases heq
      · exact hmem
  update := by
    intro key id' want hmem
    obtain ⟨hwant, served, hserves, hkey, hid', hne⟩ :=
      h.update key id' want (List.mem_cons_of_mem _ hmem)
    refine ⟨hwant, served, (h.serves_changed_iff hname nodes).mpr ⟨served, hserves, ?_⟩, hkey, hid',
      hne⟩
    have hother : served.id ≠ id := by
      intro hid
      obtain ⟨_, hserved⟩ := h.target_eq hserves.holder.mem hid
      rw [← hkey, hserved, h.update_head.1] at hwant
      obtain rfl := Option.some.inj hwant
      rw [← hid', ← hkey, hserved, hid] at hmem
      exact (List.nodup_cons.mp h.nodup).1 hmem
    rw [if_neg hother]
  delete := by
    intro key id' hmem
    obtain ⟨spare, hspare, hid', hserves⟩ := h.delete key id' (List.mem_cons_of_mem _ hmem)
    have hother : spare.id ≠ id := fun hid => hserves (h.target_eq hspare hid).1
    refine ⟨spare, ?_, hid', fun hserves' => ?_⟩
    · refine List.mem_map.mpr ⟨spare, hspare, if_neg hother⟩
    · obtain ⟨pool, hpool, heq⟩ := (h.serves_changed_iff hname nodes).mp hserves'
      have hid : spare.id = pool.id := by
        rw [heq]
        exact (h.change_keeps hname nodes pool hpool.holder.mem).id
      rw [h.sound.eq_of_id_eq hspare hpool.holder.mem hid] at hserves
      exact hserves hpool
  once := fun key key' id hmem hmem' =>
    h.once key key' id (List.mem_cons_of_mem _ hmem) (List.mem_cons_of_mem _ hmem')

theorem exhaustive_changed (hall : Exhaustive shapes (.update name id shape :: rest) pools) :
    Exhaustive shapes rest (withChange id (Pools.update name shape) nodes pools) where
  update := by
    intro served want hserves hwant hne
    obtain ⟨pool, hpool, rfl⟩ := (h.serves_changed_iff hname nodes).mp hserves
    by_cases hid : pool.id = id
    · rw [if_pos hid] at hwant hne
      obtain ⟨_, hserved⟩ := h.target_eq hpool.holder.mem hid
      rw [nameOf_of_given (givenName?_changedBy hname), h.update_head.1] at hwant
      obtain rfl := Option.some.inj hwant
      refine absurd (shapeOf_changedBy (hpool.instanceType_eq ?_)) hne
      rw [hserved]
      exact h.update_head.1
    · rw [if_neg hid] at hwant hne ⊢
      rcases List.mem_cons.mp (hall.update pool want hpool hwant hne) with heq | hmem
      · cases heq
        exact absurd rfl hid
      · exact hmem
  delete := by
    intro changed hchanged hserves
    obtain ⟨spare, hspare, rfl⟩ := List.mem_map.mp hchanged
    rw [(h.change_keeps hname nodes spare hspare).id]
    have hserves' : ¬ Serves shapes pools spare := fun hold =>
      hserves ((h.serves_changed_iff hname nodes).mpr ⟨spare, hold, rfl⟩)
    obtain ⟨key, hmem⟩ := hall.delete spare hspare hserves'
    rcases List.mem_cons.mp hmem with heq | hmem
    · cases heq
    · exact ⟨key, hmem⟩

end Outstanding

namespace Outstanding

variable {key : String} (h : Outstanding shapes (.delete key id :: rest) pools)
include h

/-- Deletions come last, when every declared name is served. -/
theorem served_of_delete (name : String) : ¬ Lacks shapes pools name := by
  intro hlacks
  obtain ⟨shape, hshape⟩ := hlacks.declared
  rcases List.mem_cons.mp ((h.create name shape).mpr ⟨hshape, hlacks⟩) with heq | hmem
  · cases heq
  · exact (List.pairwise_cons.mp h.ordered).1 _ hmem trivial

theorem idle_of_delete : ∀ pool ∈ pools, pool.id = id → ¬ Serves shapes pools pool := by
  intro pool hpool hid
  obtain ⟨spare, hspare, hid', hserves⟩ := h.delete key id List.mem_cons_self
  rw [h.sound.eq_of_id_eq hpool hspare (hid.trans hid'.symm)]
  exact hserves

theorem serves_removed_iff :
    Serves shapes (without id pools) other ↔ Serves shapes pools other :=
  serves_without_iff h.sound h.served_of_delete h.idle_of_delete

/-- A deletion that was not made is not called for any less, but others are as before. -/
theorem skipped : Outstanding shapes rest pools where
  sound := h.sound
  nodup := (List.nodup_cons.mp h.nodup).2
  ordered := (List.pairwise_cons.mp h.ordered).2
  create := by
    intro name shape
    rw [← h.create name shape, List.mem_cons]
    constructor
    · exact Or.inr
    · rintro (heq | hmem)
      · cases heq
      · exact hmem
  update := fun name id shape hmem => h.update name id shape (List.mem_cons_of_mem _ hmem)
  delete := fun key id hmem => h.delete key id (List.mem_cons_of_mem _ hmem)
  once := fun key key' id hmem hmem' =>
    h.once key key' id (List.mem_cons_of_mem _ hmem) (List.mem_cons_of_mem _ hmem')

theorem removed : Outstanding shapes rest (without id pools) where
  sound := h.sound.without id
  nodup := h.skipped.nodup
  ordered := h.skipped.ordered
  create := by
    intro name shape
    rw [h.skipped.create name shape]
    have hnot : ¬ Lacks shapes (without id pools) name :=
      not_lacks_without h.sound h.served_of_delete h.idle_of_delete
    exact and_congr_right fun _ => iff_of_false (h.served_of_delete name) hnot
  update := by
    intro name id' shape hmem
    obtain ⟨hshape, served, hserves, hserved⟩ := h.skipped.update name id' shape hmem
    exact ⟨hshape, served, h.serves_removed_iff.mpr hserves, hserved⟩
  delete := by
    intro other id' hmem
    obtain ⟨spare, hspare, hid', hserves⟩ := h.skipped.delete other id' hmem
    refine ⟨spare, mem_without.mpr ⟨hspare, ?_⟩, hid', fun hold => hserves ?_⟩
    · intro hid
      rw [← hid', hid] at hmem
      rw [h.once other key id (List.mem_cons_of_mem _ hmem) List.mem_cons_self] at hmem
      exact (List.nodup_cons.mp h.nodup).1 hmem
    · exact h.serves_removed_iff.mp hold
  once := h.skipped.once

theorem exhaustive_removed (hall : Exhaustive shapes (.delete key id :: rest) pools) :
    Exhaustive shapes rest (without id pools) where
  update := by
    intro served want hserves hwant hne
    rcases List.mem_cons.mp
      (hall.update served want (h.serves_removed_iff.mp hserves) hwant hne) with heq | hmem
    · cases heq
    · exact hmem
  delete := by
    intro spare hspare hserves
    obtain ⟨hmem, hid⟩ := mem_without.mp hspare
    obtain ⟨other, hother⟩ := hall.delete spare hmem fun hold =>
      hserves (h.serves_removed_iff.mpr hold)
    rcases List.mem_cons.mp hother with heq | hother
    · cases heq
      exact absurd rfl hid
    · exact ⟨other, hother⟩

end Outstanding

/-- There is one pool for each declared name, of the declared shape, and no other. -/
def IsConverged (shapes : KeyMap PoolShape) (pools : List RemotePool) : Prop :=
  (pools.map fun pool => (nameOf pool, shapeOf pool)).Perm shapes.entries

theorem isConverged_of_exhaustive (h : Outstanding shapes [] pools)
    (hall : Exhaustive shapes [] pools) : IsConverged shapes pools := by
  have hserves : ∀ pool ∈ pools, Serves shapes pools pool := by
    intro pool hpool
    by_contra hnot
    obtain ⟨key, hmem⟩ := hall.delete pool hpool hnot
    exact List.not_mem_nil hmem
  have hshapes : ∀ pool ∈ pools, shapes.get? (nameOf pool) = some (shapeOf pool) := by
    intro pool hpool
    obtain ⟨shape, hshape, _⟩ := (hserves pool hpool).fits
    by_cases heq : shapeOf pool = shape
    · rw [hshape, heq]
    · exact absurd (hall.update pool shape (hserves pool hpool) hshape heq) List.not_mem_nil
  rw [IsConverged, List.perm_ext_iff_of_nodup]
  · rintro ⟨name, shape⟩
    rw [← KeyMap.get?_eq_some_iff, List.mem_map]
    constructor
    · rintro ⟨pool, hpool, heq⟩
      cases heq
      exact hshapes pool hpool
    · intro hshape
      have hlacks : ¬ Lacks shapes pools name := fun hlacks =>
        List.not_mem_nil ((h.create name shape).mpr ⟨hshape, hlacks⟩)
      by_contra hnone
      apply hlacks
      refine ⟨⟨shape, hshape⟩, fun pool hserves hname => hnone ⟨pool, hserves.holder.mem, ?_⟩⟩
      subst hname
      have heq := hshapes pool hserves.holder.mem
      rw [hshape] at heq
      rw [Option.some.inj heq]
  · apply List.Nodup.map_on _ h.sound.distinct.of_map
    intro pool hpool other hother heq
    exact h.sound.holder_unique (hserves pool hpool).holder (hserves other hother).holder
      (congrArg Prod.fst heq)
  · apply shapes.ascending.imp
    intro first second hlt heq
    rw [heq] at hlt
    exact String.lt_irrefl _ hlt

end ClusterKeeper.Pools
