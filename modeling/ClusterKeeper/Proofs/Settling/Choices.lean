import ClusterKeeper.Pass.VersionChoice
import ClusterKeeper.Proofs.Pools.Work
import ClusterKeeper.Proofs.Resource.Acceptance
/-!
What passes decide from: versions and names.

A list of versions has a latest one, and the names in a spec that is accepted are names that tags
can carry.
-/

namespace ClusterKeeper

namespace Version

/-- The provider offers versions, and all of them can be read. -/
structure IsOffer (offered : List RemoteVersion) : Prop where
  nonempty : offered ≠ []
  readable : ∀ entry ∈ offered, ∃ version, read entry.id = .ok version

theorem laterOf_eq_ok {entry : RemoteVersion} {version : Version} (h : read entry.id = .ok version)
    (best : Option (RemoteVersion × Version)) : ∃ next, laterOf best entry = .ok (some next) := by
  rw [laterOf, h]
  rcases best with _ | ⟨latest, greatest⟩
  · exact ⟨_, rfl⟩
  · by_cases hle : version.atMost greatest = true
    · exact ⟨_, if_pos hle⟩
    · exact ⟨_, if_neg hle⟩

theorem foldlM_laterOf_eq_ok {offered : List RemoteVersion}
    (h : ∀ entry ∈ offered, ∃ version, read entry.id = .ok version)
    (best : RemoteVersion × Version) :
    ∃ next, offered.foldlM laterOf (some best) = .ok (some next) := by
  induction offered generalizing best with
  | nil => exact ⟨best, rfl⟩
  | cons entry rest ih =>
      obtain ⟨version, hversion⟩ := h entry List.mem_cons_self
      obtain ⟨next, hnext⟩ := laterOf_eq_ok hversion (some best)
      rw [List.foldlM_cons, hnext]
      exact ih (fun other hother => h other (List.mem_cons_of_mem _ hother)) next

/-- An offer has a latest version. -/
theorem IsOffer.latestOf_eq_ok {offered : List RemoteVersion} (h : IsOffer offered) :
    ∃ latest, latestOf offered = .ok latest := by
  cases offered with
  | nil => exact absurd rfl h.nonempty
  | cons entry rest =>
      obtain ⟨version, hversion⟩ := h.readable entry List.mem_cons_self
      obtain ⟨first, hfirst⟩ := laterOf_eq_ok hversion none
      obtain ⟨⟨latest, _⟩, hlast⟩ := foldlM_laterOf_eq_ok
        (fun other hother => h.readable other (List.mem_cons_of_mem entry hother)) first
      refine ⟨latest, ?_⟩
      rw [latestOf, List.foldlM_cons, hfirst]
      change (rest.foldlM laterOf (some first) >>= _) = _
      rw [hlast]
      rfl

end Version

/-- The names in a spec that is accepted are not empty. -/
theorem ClusterSpec.ne_empty_of_validate {spec : ClusterSpec} (h : spec.validate = .ok ())
    {name : String} {shape : PoolShape} (hshape : spec.nodePools.get? name = some shape) :
    name ≠ "" := by
  have hacceptable : spec.IsAcceptable := flaw?_eq_none_iff.mp (validate_eq_ok_iff.mp h)
  rintro rfl
  exact (hacceptable.pools _ _ hshape).name (by decide)

/-- They can be carried by tags, where none looks like an identifier. -/
theorem ClusterSpec.isDeclarable {spec : ClusterSpec} (h : spec.validate = .ok ())
    (hplain : ∀ name shape, spec.nodePools.get? name = some shape → Pools.IsPlain name) :
    Pools.IsDeclarable spec.nodePools :=
  fun name shape hshape => ⟨spec.ne_empty_of_validate h hshape, hplain name shape hshape⟩

end ClusterKeeper
