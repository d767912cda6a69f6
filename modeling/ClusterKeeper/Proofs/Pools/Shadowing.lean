import ClusterKeeper.Proofs.Pools.Holders
/-!
Pools that hide others.

What is observed of a listing has one entry for each name. A pool that has a name by a tag may have
the very name that another, which has not its own, is to be kept under: one of the two is hidden, and
then nothing is done about it. There is no other way to be hidden.
-/

namespace ClusterKeeper.Pools

variable {pools : List RemotePool}

/-- The map has one entry for each pool of the listing, and no more. -/
structure KeepsEvery (pools : List RemotePool) (records : KeyMap PoolRecord) : Prop where
  size : records.size = pools.length
  own : ∀ pool ∈ pools, ∃ name, records.get? name = some (.created pool.id (shapeOf pool)) ∧
    ∀ other record, records.get? other = some record → record.id = some pool.id → other = name

/-- Of a list without repeated names every entry is kept. -/
theorem size_ofList {α : Type} {entries : List (String × α)} (h : (entries.map (·.1)).Nodup) :
    (KeyMap.ofList entries).size = entries.length := by
  have hnodup : (KeyMap.ofList entries).entries.Nodup := (KeyMap.nodup_keys _).of_map
  apply List.Perm.length_eq
  apply (List.perm_ext_iff_of_nodup hnodup h.of_map).mpr
  intro entry
  rw [← KeyMap.get?_ofList h, KeyMap.get?_eq_some_iff]

/-- A pool is found at most under its key. -/
theorem eq_keyOf_of_get?_observed (hdistinct : (pools.map RemotePool.id).Nodup)
    {pool : RemotePool} (hpool : pool ∈ pools) {name : String} {record : PoolRecord}
    (h : (observed pools).get? name = some record) (hid : record.id = some pool.id) :
    name = keyOf pools pool := by
  obtain ⟨found, hfound, heq⟩ := List.mem_map.mp (KeyMap.mem_of_get?_ofList h)
  cases heq
  rw [eq_of_distinct hdistinct hfound hpool (Option.some.inj hid)]

theorem keepsEvery_of_forall (hdistinct : (pools.map RemotePool.id).Nodup)
    (hnone : ∀ pool other, ¬ Impersonates pools pool other) :
    KeepsEvery pools (observed pools) where
  size := by
    rw [observed, size_ofList (nodup_keyOf hdistinct hnone), List.length_map]
  own := by
    intro pool hpool
    have hget := (get?_observed_of_forall hdistinct hnone).mpr ⟨pool, hpool, rfl, rfl⟩
    exact ⟨keyOf pools pool, hget,
      fun other record hrecord => eq_keyOf_of_get?_observed hdistinct hpool hrecord⟩

/-- Of an impersonated pool and its double only one is there. -/
theorem KeepsEvery.not_impersonates (hdistinct : (pools.map RemotePool.id).Nodup)
    (h : KeepsEvery pools (observed pools)) (pool other : RemotePool) :
    ¬ Impersonates pools pool other := by
  intro hdouble
  have hne : pool ≠ other := by
    intro heq
    rw [← heq] at hdouble
    exact hdouble.displaced hdouble.holder
  have hkeys := (keyOf_eq_iff hdistinct hdouble.holder.mem hdouble.mem hne).mpr (Or.inl hdouble)
  obtain ⟨name, hname, _⟩ := h.own pool hdouble.holder.mem
  obtain ⟨name', hname', _⟩ := h.own other hdouble.mem
  have hname_eq := eq_keyOf_of_get?_observed hdistinct hdouble.holder.mem hname rfl
  have hname_eq' := eq_keyOf_of_get?_observed hdistinct hdouble.mem hname' rfl
  rw [hname_eq, hkeys, ← hname_eq', hname'] at hname
  have hids := congrArg PoolRecord.id (Option.some.inj hname)
  exact hne (eq_of_distinct hdistinct hdouble.holder.mem hdouble.mem (Option.some.inj hids).symm)

/-- No pool of a listing is hidden, exactly if none impersonates another. -/
theorem keepsEvery_observed_iff (hdistinct : (pools.map RemotePool.id).Nodup) :
    KeepsEvery pools (observed pools) ↔ ∀ pool other, ¬ Impersonates pools pool other :=
  ⟨fun h => h.not_impersonates hdistinct, keepsEvery_of_forall hdistinct⟩

/-- Two pools of one name, one that is named like the pool `4`, that pool, and one without a name. -/
def lookalikePools : List RemotePool :=
  [⟨1, 3, "g6-standard-1", [tag "workers"], .off, []⟩,
   ⟨2, 3, "g6-standard-1", [tag "workers"], .off, []⟩,
   ⟨3, 1, "g6-standard-1", [tag "unknown-4"], .off, []⟩,
   ⟨4, 2, "g6-standard-1", [tag "steady"], .off, []⟩,
   ⟨5, 1, "g6-standard-1", [], .off, []⟩]

/-- The pool `4` has its own name, so that nothing is hidden. -/
theorem lookalike_pools_kept :
    (lookalikePools.map RemotePool.id).Nodup ∧
      KeepsEvery lookalikePools (observed lookalikePools) := by
  have hdistinct : (lookalikePools.map RemotePool.id).Nodup := by decide +kernel
  refine ⟨hdistinct, (keepsEvery_observed_iff hdistinct).mpr ?_⟩
  intro pool other hdouble
  have hnamed : ∀ pool ∈ lookalikePools, ∀ other ∈ lookalikePools,
      givenName? pool = some (unknownName other.id) →
        ∀ rival ∈ lookalikePools, nameOf rival = nameOf other → rival.id ≤ other.id := by
    decide +kernel
  apply hdouble.displaced
  exact ⟨hdouble.mem, hnamed pool hdouble.holder.mem other hdouble.mem hdouble.given⟩

/-- A pool that is named like the pool `1`, and that pool, which has no name. -/
def maskedPools : List RemotePool :=
  [⟨2, 1, "g6-standard-1", [tag "unknown-1"], .off, []⟩,
   ⟨1, 3, "g6-standard-1", [], .off, []⟩]

/-- One of the two is hidden. -/
theorem masked_pool_hidden :
    (maskedPools.map RemotePool.id).Nodup ∧ ¬ KeepsEvery maskedPools (observed maskedPools) := by
  have hsize : (observed maskedPools).size = 1 := by decide +kernel
  refine ⟨by decide +kernel, fun h => ?_⟩
  have hlength := h.size
  rw [hsize] at hlength
  exact absurd hlength (by decide)

end ClusterKeeper.Pools
