import ClusterKeeper.Proofs.Pools.Converged
import ClusterKeeper.Proofs.Pools.Partition
import ClusterKeeper.Proofs.Settling.Choices
/-!
Pools that were made and are listed again.

A pool made for a declared one carries its name in a tag, and so does one that was changed to it.
Names of different pools differ, so each such pool has its name to itself, also where that looks
like the identifier of another. So the declaration is read back from a listing as it was written,
and there is nothing to do.
-/

namespace ClusterKeeper.Pools

variable {shapes : KeyMap PoolShape} {pools listing : List RemotePool} {pool : RemotePool}
  {name : String} {shape : PoolShape} {ids : String → PoolId}

/-- The provider keeps what the request asks for. A pool for which no scaling is asked for has none,
whatever its bounds. -/
structure IsStored (pool : RemotePool) (request : PoolCreation) : Prop where
  count : pool.count = request.count
  instanceType : pool.instanceType = request.instanceType
  tags : pool.tags = request.tags
  scaling : ∀ scaling, request.scaling = some scaling → pool.scaling = scaling
  unscaled : request.scaling = none → pool.scaling.enabled = false

/-- The pool was made for the declared one, or was changed to it in place, whatever else it was
before. -/
inductive IsMadeFor : RemotePool → String × PoolShape → Prop where
  | stored {pool : RemotePool} {name : String} {shape : PoolShape} :
      IsStored pool (creation name shape) → IsMadeFor pool (name, shape)
  | changed {old : RemotePool} {name : String} {shape : PoolShape} (nodes : List RemoteNode) :
      old.instanceType = shape.instanceType →
      IsMadeFor (changedBy (update name shape) nodes old) (name, shape)

/-- The pool carries the name and has the shape. -/
structure Carries (pool : RemotePool) (entry : String × PoolShape) : Prop where
  name : givenName? pool = some entry.1
  shape : shapeOf pool = entry.2

theorem IsStored.shapeOf_eq (h : IsStored pool (creation name shape)) : shapeOf pool = shape := by
  obtain ⟨count, instanceType, scaling⟩ := shape
  rw [shapeOf, h.count, h.instanceType]
  cases scaling with
  | none =>
      rw [h.unscaled rfl]
      rfl
  | some bounds =>
      rw [h.scaling _ rfl]
      rfl

/-- What is written to the provider is read back. -/
theorem IsMadeFor.carries {entry : String × PoolShape} (h : IsMadeFor pool entry)
    (hname : entry.1 ≠ "") : Carries pool entry := by
  cases h with
  | stored hstored => exact ⟨givenName?_of_tags hstored.tags hname, hstored.shapeOf_eq⟩
  | changed nodes htype => exact ⟨givenName?_changedBy hname, shapeOf_changedBy htype⟩

/-- The pools that the provider keeps for the requests of a declaration. -/
theorem forall₂_isMadeFor_of_creations (h : List.Forall₂ IsStored pools (creations shapes)) :
    List.Forall₂ IsMadeFor pools shapes.entries :=
  (List.forall₂_map_right_iff.mp h).imp fun _ _ => .stored

theorem map_nameOf_shapeOf_of_isMadeFor {entries : List (String × PoolShape)}
    (hnames : ∀ entry ∈ entries, entry.1 ≠ "") (h : List.Forall₂ IsMadeFor pools entries) :
    pools.map (fun pool => (nameOf pool, shapeOf pool)) = entries := by
  induction h with
  | nil => rfl
  | cons hmade _ ih =>
      have hcarries := hmade.carries (hnames _ List.mem_cons_self)
      have hrest := ih fun entry hentry => hnames entry (List.mem_cons_of_mem _ hentry)
      rw [List.map_cons, hrest, nameOf_of_given hcarries.name, hcarries.shape]

/-- Each of the pools has its name to itself, and nobody goes by the identifier of another. -/
theorem IsConverged.not_impersonates (h : IsConverged shapes pools) (pool other : RemotePool) :
    ¬ Impersonates pools pool other :=
  fun hdouble => hdouble.displaced (h.isHolder hdouble.mem)

/-- Pools that are as declared are observed as declared, each under its identifier. -/
theorem observed_of_isConverged (hdistinct : (pools.map RemotePool.id).Nodup)
    (h : IsConverged shapes pools) (hids : ∀ pool ∈ pools, pool.id = ids (nameOf pool)) :
    observed pools = shapes.mapWithKey fun name shape => .created (ids name) shape := by
  ext name record
  rw [get?_observed_of_forall hdistinct h.not_impersonates, KeyMap.get?_mapWithKey,
    Option.map_eq_some_iff]
  constructor
  · rintro ⟨pool, hpool, rfl, rfl⟩
    refine ⟨shapeOf pool, ?_, ?_⟩
    · rw [keyOf_of_isHolder (h.isHolder hpool)]
      exact h.get?_eq hpool
    · rw [keyOf_of_isHolder (h.isHolder hpool), hids pool hpool]
  · rintro ⟨shape, hshape, rfl⟩
    obtain ⟨pool, hpool, rfl, rfl⟩ := h.exists_pool hshape
    refine ⟨pool, hpool, keyOf_of_isHolder (h.isHolder hpool), ?_⟩
    rw [hids pool hpool]

/-- Where what is observed has the declared shapes there is nothing to do. -/
theorem isEmpty_planFor_of_observed
    (h : observed listing = shapes.mapWithKey fun name shape => .created (ids name) shape) :
    (planFor shapes listing).isEmpty = true := by
  rw [planFor, PoolPlan.isEmpty_between_iff, h]
  intro name
  rw [get?_desired, KeyMap.get?_mapWithKey]
  cases shapes.get? name <;> rfl

/-- An empty plan has no requests, whatever maps it was made from. -/
theorem actions_between_eq_nil {desired observed : KeyMap PoolRecord}
    (h : (PoolPlan.between desired observed).isEmpty = true) :
    (PoolPlan.between desired observed).actions = [] := by
  have hnone := PoolPlan.isEmpty_eq_true_iff.mp h
  apply List.eq_nil_iff_forall_not_mem.mpr
  intro action haction
  rcases mem_actions.mp haction with ⟨name, record, hentry, _⟩ | ⟨name, record, hentry, _⟩ |
    ⟨name, record, _, hentry, _⟩ | ⟨name, id, hentry, _⟩
  · have hcreate := KeyMap.get?_eq_some_iff.mpr hentry
    rw [(hnone name).1] at hcreate
    cases hcreate
  · have hupdate := KeyMap.get?_eq_some_iff.mpr hentry
    rw [(hnone name).2.1] at hupdate
    cases hupdate
  · have hdelete := KeyMap.get?_eq_some_iff.mpr hentry
    rw [(hnone name).2.2] at hdelete
    cases hdelete
  · obtain ⟨record, hupdate⟩ :=
      PoolPlan.exists_update_of_replace (KeyMap.get?_eq_some_iff.mpr hentry)
    rw [(hnone name).2.1] at hupdate
    cases hupdate

/-- A spec is read back from its pools. If it is accepted, and for each of its pools there is one
that was made for it or changed to it in place, under an identifier of its own, then in whatever
order they are listed, each declared pool is observed under its name with its shape and its
identifier, and nothing else is observed. So there is nothing to do, and nothing is asked for. -/
theorem spec_read_back {spec : ClusterSpec} (hvalid : spec.validate = .ok ())
    (hids : pools.map RemotePool.id = spec.nodePools.keys.map ids)
    (hdistinct : (pools.map RemotePool.id).Nodup)
    (hmade : List.Forall₂ IsMadeFor pools spec.nodePools.entries) (hperm : listing.Perm pools) :
    observed listing = (spec.nodePools.mapWithKey fun name shape => .created (ids name) shape) ∧
      (planFor spec.nodePools listing).isEmpty = true ∧
      (planFor spec.nodePools listing).actions = [] := by
  have hnames : ∀ entry ∈ spec.nodePools.entries, entry.1 ≠ "" := fun entry hentry =>
    spec.ne_empty_of_validate hvalid (KeyMap.get?_eq_some_iff.mpr hentry)
  have hentries := map_nameOf_shapeOf_of_isMadeFor hnames hmade
  have hconverged : IsConverged spec.nodePools listing := by
    rw [IsConverged, ← hentries]
    exact hperm.map _
  have hdistinct' : (listing.map RemotePool.id).Nodup :=
    (hperm.map RemotePool.id).nodup_iff.mpr hdistinct
  have hids' : ∀ pool ∈ listing, pool.id = ids (nameOf pool) := by
    rw [KeyMap.keys, ← hentries, List.map_map, List.map_map] at hids
    exact fun pool hpool => List.map_inj_left.mp hids pool (hperm.mem_iff.mp hpool)
  have hobserved := observed_of_isConverged hdistinct' hconverged hids'
  have hempty := isEmpty_planFor_of_observed hobserved
  exact ⟨hobserved, hempty, actions_between_eq_nil hempty⟩

/-- A spec with a name between blanks, one that looks like a tag, and one that looks like the
identifier of a pool. -/
def oddSpec : ClusterSpec where
  region := "us-east"
  tokenSecretRef := ⟨"default", "token"⟩
  highAvailability := none
  nodePools := KeyMap.ofList [(" x ", ⟨2, "g6-standard-1", none⟩),
    ("key=a", ⟨3, "g6-standard-1", some ⟨3, 5⟩⟩), ("unknown-7", ⟨1, "g6-standard-2", none⟩)]
  kubernetesVersion := none
  tags := none

/-- The identifiers of its pools. -/
def oddId (name : String) : PoolId :=
  if name = " x " then 7 else if name = "key=a" then 9 else 8

/-- The pools that the provider makes for it. -/
def oddPools : List RemotePool :=
  [⟨7, 2, "g6-standard-1", ["key= x "], ⟨false, 2, 2⟩, []⟩,
   ⟨9, 3, "g6-standard-1", ["key=key=a"], ⟨true, 3, 5⟩, []⟩,
   ⟨8, 1, "g6-standard-2", ["key=unknown-7"], .off, []⟩]

/-- Pools of the same types that have nothing else right, after they were changed to it. -/
def restoredPools : List RemotePool :=
  [changedBy (update " x " ⟨2, "g6-standard-1", none⟩) []
     ⟨7, 4, "g6-standard-1", ["key=key=a"], ⟨true, 1, 9⟩, []⟩,
   changedBy (update "key=a" ⟨3, "g6-standard-1", some ⟨3, 5⟩⟩) []
     ⟨9, 1, "g6-standard-1", [], .off, []⟩,
   changedBy (update "unknown-7" ⟨1, "g6-standard-2", none⟩) []
     ⟨8, 2, "g6-standard-2", ["blue"], ⟨true, 3, 3⟩, []⟩]

/-- The spec is read back from either, listed in the other direction. -/
theorem odd_spec_read_back :
    oddSpec.validate = .ok () ∧ List.Forall₂ IsStored oddPools (creations oddSpec.nodePools) ∧
      List.Forall₂ IsMadeFor restoredPools oddSpec.nodePools.entries ∧
      (observed oddPools.reverse =
          (oddSpec.nodePools.mapWithKey fun name shape => .created (oddId name) shape) ∧
        (planFor oddSpec.nodePools oddPools.reverse).isEmpty = true ∧
        (planFor oddSpec.nodePools oddPools.reverse).actions = []) ∧
      observed restoredPools.reverse =
          (oddSpec.nodePools.mapWithKey fun name shape => .created (oddId name) shape) ∧
        (planFor oddSpec.nodePools restoredPools.reverse).isEmpty = true ∧
        (planFor oddSpec.nodePools restoredPools.reverse).actions = [] := by
  have hvalid : oddSpec.validate = .ok () := by decide +kernel
  have hentries : oddSpec.nodePools.entries = [(" x ", ⟨2, "g6-standard-1", none⟩),
      ("key=a", ⟨3, "g6-standard-1", some ⟨3, 5⟩⟩), ("unknown-7", ⟨1, "g6-standard-2", none⟩)] := by
    decide +kernel
  have hstored : List.Forall₂ IsStored oddPools (creations oddSpec.nodePools) := by
    rw [creations, hentries]
    refine .cons ⟨rfl, rfl, rfl, ?_, ?_⟩ (.cons ⟨rfl, rfl, rfl, ?_, ?_⟩
      (.cons ⟨rfl, rfl, rfl, ?_, ?_⟩ .nil))
    all_goals simp [creation, RemoteScaling.off]
  have hrestored : List.Forall₂ IsMadeFor restoredPools oddSpec.nodePools.entries := by
    rw [hentries]
    exact .cons (.changed [] rfl) (.cons (.changed [] rfl) (.cons (.changed [] rfl) .nil))
  refine ⟨hvalid, hstored, hrestored, ?_, ?_⟩
  · exact spec_read_back hvalid (by decide +kernel) (by decide +kernel)
      (forall₂_isMadeFor_of_creations hstored) oddPools.reverse_perm
  · exact spec_read_back hvalid (by decide +kernel) (by decide +kernel) hrestored
      restoredPools.reverse_perm

end ClusterKeeper.Pools
