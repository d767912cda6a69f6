import ClusterKeeper.Proofs.Pools.Work
/-!
Pools of one name by rank.

Of the pools of a name the one with the highest identifier is first. It is observed under the name,
and every other under its identifier, wherever they stand in the listing.
-/

namespace ClusterKeeper.Pools

variable {pools listing : List RemotePool} {pool : RemotePool}

/-- Every name that a pool of the listing has is kept for the first of that name, every other pool
is kept under its identifier, and nothing else is kept. -/
structure KeptByRank (pools : List RemotePool) (records : KeyMap PoolRecord) : Prop where
  first : ∀ pool ∈ pools, ∃ holder, IsHolder pools holder ∧ nameOf holder = nameOf pool ∧
    records.get? (nameOf pool) = some (.created holder.id (shapeOf holder))
  others : ∀ pool ∈ pools, ¬ IsHolder pools pool →
    records.get? (unknownName pool.id) = some (.created pool.id (shapeOf pool))
  only : ∀ name record, records.get? name = some record →
    ∃ pool ∈ pools, record = .created pool.id (shapeOf pool) ∧
      (IsHolder pools pool ∧ name = nameOf pool ∨
        ¬ IsHolder pools pool ∧ name = unknownName pool.id)

/-- Among the pools of a name there is one with the highest identifier. -/
theorem exists_holder (hpool : pool ∈ pools) :
    ∃ holder, IsHolder pools holder ∧ nameOf holder = nameOf pool := by
  have hmem : pool.id ∈ (pools.filter fun other => nameOf other == nameOf pool).map (·.id) :=
    List.mem_map_of_mem (List.mem_filter.mpr ⟨hpool, beq_self_eq_true _⟩)
  cases howner : owner? pools (nameOf pool) with
  | none =>
      rw [List.max?_eq_none_iff.mp howner] at hmem
      exact absurd hmem List.not_mem_nil
  | some id =>
      obtain ⟨holder, hholder, hname, _⟩ := owner?_eq_some_iff.mp howner
      exact ⟨holder, hholder, hname⟩

/-- The observed pools are kept by rank. -/
theorem keptByRank_observed (hsound : IsSound pools) : KeptByRank pools (observed pools) where
  first := by
    intro pool hpool
    obtain ⟨holder, hholder, hname⟩ := exists_holder hpool
    refine ⟨holder, hholder, hname, (get?_observed hsound).mpr ⟨holder, hholder.mem, ?_, rfl⟩⟩
    rw [keyOf_of_isHolder hholder, hname]
  others := fun pool hpool hnot => (get?_observed hsound).mpr
    ⟨pool, hpool, keyOf_of_not_isHolder hsound.distinct hpool hnot, rfl⟩
  only := by
    intro name record hrecord
    obtain ⟨pool, hpool, rfl, rfl⟩ := (get?_observed hsound).mp hrecord
    refine ⟨pool, hpool, rfl, ?_⟩
    by_cases hholder : IsHolder pools pool
    · exact Or.inl ⟨hholder, keyOf_of_isHolder hholder⟩
    · exact Or.inr ⟨hholder, keyOf_of_not_isHolder hsound.distinct hpool hholder⟩

/-- The plan is the same for every order of the listing. -/
theorem planFor_perm (hsound : IsSound pools) (hperm : listing.Perm pools)
    (shapes : KeyMap PoolShape) : planFor shapes listing = planFor shapes pools := by
  rw [planFor, planFor, observed_perm hsound hperm]

end ClusterKeeper.Pools
