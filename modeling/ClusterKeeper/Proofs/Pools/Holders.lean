import Mathlib.Data.List.Nodup
import ClusterKeeper.Pools.Observed
/-!
Which remote pool has a name.

The holder of a name is the pool of that name with the highest identifier; the others go by their
identifiers. If no given name looks like one of those, every pool of a listing is kept under a name
of its own, and what is observed does not depend on the order of the listing.
-/

namespace ClusterKeeper.Pools

/-- Identifiers are ordered, and the greater of two is the one that is not less. -/
theorem max_eq_ite (a b : PoolId) : max a b = if a ≤ b then b else a := rfl

instance instLawfulOrderMaxPoolId : Std.LawfulOrderMax PoolId := by
  apply Std.LawfulOrderMax.of_max_le_iff
  · intro a b c
    rw [max_eq_ite]
    split
    · next hle => exact ⟨fun h => ⟨Int64.le_trans hle h, h⟩, fun h => h.2⟩
    · next hnle =>
        have hle : b ≤ a := (Int64.le_total a b).resolve_left hnle
        exact ⟨fun h => ⟨h, Int64.le_trans hle h⟩, fun h => h.1⟩
  · intro a b
    rw [max_eq_ite]
    split
    · exact Or.inr rfl
    · exact Or.inl rfl

theorem repr_nat_injective {m n : Nat} (h : m.repr = n.repr) : m = n := by
  have hdigits : Nat.toDigits 10 m = Nat.toDigits 10 n := by
    rw [← Nat.toList_repr, ← Nat.toList_repr, h]
  rw [← Nat.ofDigitChars_ten_toDigits (n := m), hdigits, Nat.ofDigitChars_ten_toDigits]

theorem minus_append_ne_repr (text : String) (n : Nat) : "-" ++ text ≠ n.repr := by
  intro h
  have hmem : '-' ∈ Nat.toDigits 10 n := by
    rw [← Nat.toList_repr, ← h, String.toList_append]
    exact List.mem_append_left _ (by simp)
  have hdigit : '-'.isDigit = true := Nat.isDigit_of_mem_toDigits (by omega) (by omega) hmem
  exact absurd hdigit (by decide)

theorem repr_int_injective {a b : Int} (h : a.repr = b.repr) : a = b := by
  rw [Int.repr_eq_if, Int.repr_eq_if] at h
  by_cases ha : 0 ≤ a
  · by_cases hb : 0 ≤ b
    · rw [if_pos ha, if_pos hb] at h
      have := repr_nat_injective h
      omega
    · rw [if_pos ha, if_neg hb] at h
      exact absurd h.symm (minus_append_ne_repr _ _)
  · by_cases hb : 0 ≤ b
    · rw [if_neg ha, if_pos hb] at h
      exact absurd h (minus_append_ne_repr _ _)
    · rw [if_neg ha, if_neg hb] at h
      have := repr_nat_injective ((String.append_right_inj "-").mp h)
      omega

theorem unknownName_injective {a b : PoolId} (h : unknownName a = unknownName b) : a = b := by
  have htext := (String.append_right_inj unknownStem).mp h
  rw [Int.toString_eq_repr, Int.toString_eq_repr] at htext
  exact Int64.toInt_inj.mp (repr_int_injective htext)

/-- The name does not begin like those of pools that carry none. -/
def IsPlain (name : String) : Prop := ¬ unknownStem.toList <+: name.toList

instance : DecidablePred IsPlain := fun name =>
  inferInstanceAs (Decidable (¬ unknownStem.toList <+: name.toList))

theorem not_isPlain_unknownName (id : PoolId) : ¬ IsPlain (unknownName id) := by
  intro h
  apply h
  rw [unknownName, String.toList_append]
  exact List.prefix_append _ _

theorem nameOf_of_given {pool : RemotePool} {name : String} (h : givenName? pool = some name) :
    nameOf pool = name := by
  rw [nameOf, h, Option.getD_some]

theorem nameOf_of_none {pool : RemotePool} (h : givenName? pool = none) :
    nameOf pool = unknownName pool.id := by
  rw [nameOf, h, Option.getD_none]

theorem givenName?_of_tags {pool : RemotePool} {name : String} (htags : pool.tags = [tag name])
    (hname : name ≠ "") : givenName? pool = some name := by
  rw [givenName?, htags, List.findSome?_cons, carriedName?_tag]
  exact Option.filter_eq_some_iff.mpr ⟨rfl, by simpa using hname⟩

/-- The pools of a cluster: identifiers are distinct, and given names are plain. -/
structure IsSound (pools : List RemotePool) : Prop where
  distinct : (pools.map RemotePool.id).Nodup
  plain : ∀ pool ∈ pools, ∀ name, givenName? pool = some name → IsPlain name

/-- The pool has its name: no other of that name has a higher identifier. -/
structure IsHolder (pools : List RemotePool) (pool : RemotePool) : Prop where
  mem : pool ∈ pools
  highest : ∀ other ∈ pools, nameOf other = nameOf pool → other.id ≤ pool.id

variable {pools listing : List RemotePool} {pool other : RemotePool}

section Distinct

variable (hdistinct : (pools.map RemotePool.id).Nodup)
include hdistinct

theorem eq_of_distinct (hpool : pool ∈ pools) (hother : other ∈ pools) (hid : pool.id = other.id) :
    pool = other :=
  List.inj_on_of_nodup_map hdistinct hpool hother hid

theorem IsHolder.unique (hpool : IsHolder pools pool) (hother : IsHolder pools other)
    (hname : nameOf pool = nameOf other) : pool = other := by
  apply eq_of_distinct hdistinct hpool.mem hother.mem
  apply Int64.le_antisymm
  · exact hother.highest pool hpool.mem hname
  · exact hpool.highest other hother.mem hname.symm

end Distinct

namespace IsSound

theorem eq_of_id_eq (h : IsSound pools) (hpool : pool ∈ pools) (hother : other ∈ pools)
    (hid : pool.id = other.id) : pool = other :=
  eq_of_distinct h.distinct hpool hother hid

theorem perm (h : IsSound pools) (hperm : listing.Perm pools) : IsSound listing where
  distinct := (hperm.map RemotePool.id).nodup_iff.mpr h.distinct
  plain := fun pool hpool name hname => h.plain pool (hperm.mem_iff.mp hpool) name hname

theorem holder_unique (h : IsSound pools) (hpool : IsHolder pools pool)
    (hother : IsHolder pools other) (hname : nameOf pool = nameOf other) : pool = other :=
  hpool.unique h.distinct hother hname

end IsSound

theorem IsHolder.perm (h : IsHolder pools pool) (hperm : listing.Perm pools) :
    IsHolder listing pool where
  mem := hperm.mem_iff.mpr h.mem
  highest := fun other hother hname => h.highest other (hperm.mem_iff.mp hother) hname

theorem owner?_eq_some_iff {name : String} {id : PoolId} :
    owner? pools name = some id ↔
      ∃ pool, IsHolder pools pool ∧ nameOf pool = name ∧ pool.id = id := by
  rw [owner?, List.max?_eq_some_iff]
  constructor
  · rintro ⟨hmem, hle⟩
    obtain ⟨pool, hpool, rfl⟩ := List.mem_map.mp hmem
    obtain ⟨hlisted, hname⟩ := List.mem_filter.mp hpool
    obtain rfl : nameOf pool = name := by simpa using hname
    refine ⟨pool, ⟨hlisted, fun other hother hother' => ?_⟩, rfl, rfl⟩
    apply hle
    apply List.mem_map_of_mem
    exact List.mem_filter.mpr ⟨hother, by simpa using hother'⟩
  · rintro ⟨pool, hholder, rfl, rfl⟩
    constructor
    · apply List.mem_map_of_mem
      exact List.mem_filter.mpr ⟨hholder.mem, by simp⟩
    · intro id hid
      obtain ⟨other, hother, rfl⟩ := List.mem_map.mp hid
      obtain ⟨hother, hname⟩ := List.mem_filter.mp hother
      exact hholder.highest other hother (by simpa using hname)

theorem keyOf_of_isHolder (h : IsHolder pools pool) : keyOf pools pool = nameOf pool :=
  if_pos (owner?_eq_some_iff.mpr ⟨pool, h, rfl, rfl⟩)

theorem keyOf_of_not_isHolder (hdistinct : (pools.map RemotePool.id).Nodup) (hpool : pool ∈ pools)
    (h : ¬ IsHolder pools pool) : keyOf pools pool = unknownName pool.id := by
  apply if_neg
  intro howner
  obtain ⟨other, hholder, _, hid⟩ := owner?_eq_some_iff.mp howner
  rw [eq_of_distinct hdistinct hholder.mem hpool hid] at hholder
  exact h hholder

/-- A pool has a given name that is the identifier of another, and the other has not its own name.
-/
structure Impersonates (pools : List RemotePool) (pool other : RemotePool) : Prop where
  holder : IsHolder pools pool
  mem : other ∈ pools
  displaced : ¬ IsHolder pools other
  given : givenName? pool = some (unknownName other.id)

/-- Two pools are kept under one name only if one of them impersonates the other. -/
theorem keyOf_eq_iff (hdistinct : (pools.map RemotePool.id).Nodup) (hpool : pool ∈ pools)
    (hother : other ∈ pools) (hne : pool ≠ other) :
    keyOf pools pool = keyOf pools other ↔
      Impersonates pools pool other ∨ Impersonates pools other pool := by
  have hid : pool.id ≠ other.id := fun hid => hne (eq_of_distinct hdistinct hpool hother hid)
  have hnamed : ∀ {holder displaced : RemotePool}, holder.id ≠ displaced.id →
      (nameOf holder = unknownName displaced.id ↔
        givenName? holder = some (unknownName displaced.id)) := by
    intro holder displaced hids
    cases hgiven : givenName? holder with
    | none => simpa [nameOf_of_none hgiven] using fun heq => hids (unknownName_injective heq)
    | some name => simp [nameOf_of_given hgiven]
  by_cases hholder : IsHolder pools pool
  · by_cases hholder' : IsHolder pools other
    · have hnames : nameOf pool ≠ nameOf other := fun h => hne (hholder.unique hdistinct hholder' h)
      rw [keyOf_of_isHolder hholder, keyOf_of_isHolder hholder']
      exact ⟨fun h => absurd h hnames,
        fun h => h.elim (fun h => absurd hholder' h.displaced) fun h => absurd hholder h.displaced⟩
    · rw [keyOf_of_isHolder hholder, keyOf_of_not_isHolder hdistinct hother hholder', hnamed hid]
      exact ⟨fun hgiven => Or.inl ⟨hholder, hother, hholder', hgiven⟩,
        fun h => h.elim (·.given) fun h => absurd hholder h.displaced⟩
  · by_cases hholder' : IsHolder pools other
    · rw [keyOf_of_isHolder hholder', keyOf_of_not_isHolder hdistinct hpool hholder, eq_comm,
        hnamed (Ne.symm hid)]
      exact ⟨fun hgiven => Or.inr ⟨hholder', hpool, hholder, hgiven⟩,
        fun h => h.elim (fun h => absurd h.holder hholder) (·.given)⟩
    · rw [keyOf_of_not_isHolder hdistinct hpool hholder,
        keyOf_of_not_isHolder hdistinct hother hholder']
      exact ⟨fun h => absurd (unknownName_injective h) hid,
        fun h => h.elim (fun h => absurd h.holder hholder) fun h => absurd h.holder hholder'⟩

/-- Under a plain name there is the holder of that name. -/
theorem isHolder_of_keyOf_eq (hsound : IsSound pools) (hpool : pool ∈ pools) {name : String}
    (hplain : IsPlain name) (h : keyOf pools pool = name) :
    IsHolder pools pool ∧ nameOf pool = name := by
  by_cases hholder : IsHolder pools pool
  · rw [keyOf_of_isHolder hholder] at h
    exact ⟨hholder, h⟩
  · rw [keyOf_of_not_isHolder hsound.distinct hpool hholder] at h
    subst h
    exact absurd hplain (not_isPlain_unknownName pool.id)

/-- Where no pool impersonates another, each is kept under a name of its own. -/
theorem keyOf_injective_of_forall (hdistinct : (pools.map RemotePool.id).Nodup)
    (hnone : ∀ pool other, ¬ Impersonates pools pool other) (hpool : pool ∈ pools)
    (hother : other ∈ pools) (h : keyOf pools pool = keyOf pools other) : pool = other := by
  by_contra hne
  rcases (keyOf_eq_iff hdistinct hpool hother hne).mp h with h | h
  · exact hnone _ _ h
  · exact hnone _ _ h

theorem nodup_keyOf (hdistinct : (pools.map RemotePool.id).Nodup)
    (hnone : ∀ pool other, ¬ Impersonates pools pool other) :
    ((pools.map fun pool => (keyOf pools pool,
      PoolRecord.created pool.id (shapeOf pool))).map (·.1)).Nodup := by
  rw [List.map_map]
  apply List.Nodup.map_on _ hdistinct.of_map
  intro pool hpool other hother h
  exact keyOf_injective_of_forall hdistinct hnone hpool hother h

theorem get?_observed_of_forall (hdistinct : (pools.map RemotePool.id).Nodup)
    (hnone : ∀ pool other, ¬ Impersonates pools pool other) {name : String} {record : PoolRecord} :
    (observed pools).get? name = some record ↔
      ∃ pool ∈ pools, keyOf pools pool = name ∧ record = .created pool.id (shapeOf pool) := by
  rw [observed, KeyMap.get?_ofList (nodup_keyOf hdistinct hnone), List.mem_map]
  constructor
  · rintro ⟨pool, hpool, heq⟩
    cases heq
    exact ⟨pool, hpool, rfl, rfl⟩
  · rintro ⟨pool, hpool, rfl, rfl⟩
    exact ⟨pool, hpool, rfl⟩

/-- In a sound listing nobody impersonates another. -/
theorem IsSound.not_impersonates (hsound : IsSound pools) (pool other : RemotePool) :
    ¬ Impersonates pools pool other := by
  intro h
  exact absurd (hsound.plain pool h.holder.mem _ h.given) (not_isPlain_unknownName other.id)

theorem get?_observed (hsound : IsSound pools) {name : String} {record : PoolRecord} :
    (observed pools).get? name = some record ↔
      ∃ pool ∈ pools, keyOf pools pool = name ∧ record = .created pool.id (shapeOf pool) :=
  get?_observed_of_forall hsound.distinct hsound.not_impersonates

/-- What is observed does not depend on the order of the listing. -/
theorem observed_perm (hsound : IsSound pools) (hperm : listing.Perm pools) :
    observed listing = observed pools := by
  have hkey : ∀ pool, keyOf listing pool = keyOf pools pool := by
    intro pool
    have howner : owner? listing (nameOf pool) = owner? pools (nameOf pool) := by
      apply Option.ext
      intro id
      rw [owner?_eq_some_iff, owner?_eq_some_iff]
      constructor
      · rintro ⟨other, hholder, hname⟩
        exact ⟨other, hholder.perm hperm.symm, hname⟩
      · rintro ⟨other, hholder, hname⟩
        exact ⟨other, hholder.perm hperm, hname⟩
    rw [keyOf, keyOf, howner]
  ext name record
  rw [get?_observed (hsound.perm hperm), get?_observed hsound]
  constructor
  · rintro ⟨pool, hpool, hname, hrecord⟩
    exact ⟨pool, hperm.mem_iff.mp hpool, (hkey pool).symm.trans hname, hrecord⟩
  · rintro ⟨pool, hpool, hname, hrecord⟩
    exact ⟨pool, hperm.mem_iff.mpr hpool, (hkey pool).trans hname, hrecord⟩

end ClusterKeeper.Pools
