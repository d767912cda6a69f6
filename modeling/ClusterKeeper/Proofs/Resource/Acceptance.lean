import Mathlib.Algebra.Order.Ring.Rat
import Mathlib.Algebra.Field.Rat
import ClusterKeeper.Resource.Definition
import ClusterKeeper.Resource.Validation
/-!
Which specs are accepted, and what is reported of the others.

The ranges of scaling bounds are those in the definition of the resource, as it is installed at the
API server. `IsAcceptable` says without any order what a spec has to be like, and `FirstFlaw` says
which of its flaws comes first. A spec is accepted exactly if it is acceptable, and refused exactly
with the first flaw of it.
-/

namespace ClusterKeeper

namespace Value

/-- A step into a value. -/
inductive PathStep where
  | member (name : String)
  | item (index : Nat)

/-- What is at the end of a path. -/
def at? : List PathStep → Value → Option Value
  | [], value => some value
  | .member name :: rest, value => (value.member? name).bind (at? rest)
  | .item index :: rest, .list items => items[index]?.bind (at? rest)
  | .item _ :: _, _ => none

/-- The number that a value stands for. -/
def number? : Value → Option ℚ
  | int n => some n
  | decimal mantissa exponent => some (mantissa * 10 ^ exponent)
  | _ => none

end Value

namespace Definition

/-- The path in the definition to one of the scaling bounds of a pool. -/
def boundPath (bound : String) : List Value.PathStep :=
  [.member "spec", .member "versions", .item 0, .member "schema", .member "openAPIV3Schema",
   .member "properties", .member "spec", .member "properties", .member "nodePools",
   .member "additionalProperties", .member "properties", .member "autoscaler",
   .member "properties", .member bound]

/-- One end of the range that is published for a bound. -/
def rangeEnd? (bound which : String) : Option ℚ :=
  (document.at? (boundPath bound ++ [.member which])).bind Value.number?

/-- The number is in the range that is published for the bound. -/
structure Accepts (bound : String) (n : UInt32) : Prop where
  notBelow : ∃ least, rangeEnd? bound "minimum" = some least ∧ least ≤ n.toNat
  notAbove : ∃ greatest, rangeEnd? bound "maximum" = some greatest ∧ n.toNat ≤ greatest

theorem accepts_iff {bound : String} {least greatest : Nat}
    (hleast : rangeEnd? bound "minimum" = some (least : ℚ))
    (hgreatest : rangeEnd? bound "maximum" = some (greatest : ℚ)) (n : UInt32) :
    Accepts bound n ↔ least ≤ n.toNat ∧ n.toNat ≤ greatest := by
  constructor
  · rintro ⟨⟨low, hlow, hbelow⟩, high, hhigh, habove⟩
    cases hleast.symm.trans hlow
    cases hgreatest.symm.trans hhigh
    exact ⟨Nat.cast_le.mp hbelow, Nat.cast_le.mp habove⟩
  · rintro ⟨hbelow, habove⟩
    exact ⟨⟨_, hleast, Nat.cast_le.mpr hbelow⟩, _, hgreatest, Nat.cast_le.mpr habove⟩

theorem accepts_min_iff (n : UInt32) : Accepts "min" n ↔ 0 ≤ n.toNat ∧ n.toNat ≤ 100 :=
  accepts_iff (by decide +kernel) (by decide +kernel) n

theorem accepts_max_iff (n : UInt32) : Accepts "max" n ↔ 3 ≤ n.toNat ∧ n.toNat ≤ 100 :=
  accepts_iff (by decide +kernel) (by decide +kernel) n

end Definition

/-- The text is of white space alone. -/
def Text.Blank (text : String) : Prop := ∀ c ∈ text.toList, Text.isBlank c = true

theorem Text.isBlankText_iff {text : String} : Text.isBlankText text = true ↔ Text.Blank text :=
  List.all_eq_true

instance : DecidablePred Text.Blank := fun _ => decidable_of_iff _ Text.isBlankText_iff

/-- The bounds are in their ranges and in order. -/
structure ScalingBounds.IsAcceptable (s : ScalingBounds) : Prop where
  min : Definition.Accepts "min" s.min
  max : Definition.Accepts "max" s.max
  ordered : s.min ≤ s.max

/-- The pool is as it has to be, under this name. -/
structure PoolShape.IsAcceptable (pool : String) (shape : PoolShape) : Prop where
  name : ¬ Text.Blank pool
  instanceType : ¬ Text.Blank shape.instanceType
  scaling : ∀ s, shape.scaling = some s → s.IsAcceptable

/-- The spec is as it has to be. -/
structure ClusterSpec.IsAcceptable (spec : ClusterSpec) : Prop where
  region : ¬ Text.Blank spec.region
  pool : ∃ name shape, spec.nodePools.get? name = some shape
  pools : ∀ name shape, spec.nodePools.get? name = some shape → shape.IsAcceptable name

/-- The first flaw of scaling bounds: the lower one is looked at before the upper one, and each of
them before both. -/
inductive ScalingBounds.FirstFlaw (pool : String) (s : ScalingBounds) : SpecFlaw → Prop where
  | min (h : ¬ Definition.Accepts "min" s.min) : FirstFlaw pool s (.minimumTooLarge pool s.min)
  | max (hmin : Definition.Accepts "min" s.min) (h : ¬ Definition.Accepts "max" s.max) :
      FirstFlaw pool s (.maximumOutOfRange pool s.max)
  | order (hmin : Definition.Accepts "min" s.min) (hmax : Definition.Accepts "max" s.max)
      (h : s.max < s.min) : FirstFlaw pool s (.minimumAboveMaximum pool s.min s.max)

/-- The first flaw of a pool: the name is looked at before the instance type, and that before the
scaling bounds. -/
inductive PoolShape.FirstFlaw (pool : String) (shape : PoolShape) : SpecFlaw → Prop where
  | name (h : Text.Blank pool) : FirstFlaw pool shape .blankPoolName
  | instanceType (hname : ¬ Text.Blank pool) (h : Text.Blank shape.instanceType) :
      FirstFlaw pool shape (.blankInstanceType pool)
  | scaling {s : ScalingBounds} {flaw : SpecFlaw} (hname : ¬ Text.Blank pool)
      (htype : ¬ Text.Blank shape.instanceType) (hscaling : shape.scaling = some s)
      (h : s.FirstFlaw pool flaw) : FirstFlaw pool shape flaw

/-- The first flaw of a spec: the region is looked at before the pools, and these are looked at in
the order of their names. -/
inductive ClusterSpec.FirstFlaw (spec : ClusterSpec) : SpecFlaw → Prop where
  | region (h : Text.Blank spec.region) : FirstFlaw spec .blankRegion
  | noPools (hregion : ¬ Text.Blank spec.region) (h : ∀ name, spec.nodePools.get? name = none) :
      FirstFlaw spec .noPools
  | pool {name : String} {shape : PoolShape} {flaw : SpecFlaw}
      (hregion : ¬ Text.Blank spec.region) (hpool : spec.nodePools.get? name = some shape)
      (hbefore : ∀ other shape', other < name → spec.nodePools.get? other = some shape' →
        shape'.IsAcceptable other)
      (h : shape.FirstFlaw name flaw) : FirstFlaw spec flaw

namespace ScalingBounds

variable {pool : String} {s : ScalingBounds} {flaw : SpecFlaw}

theorem limit_lt_iff {n : UInt32} : limit < n ↔ ¬ Definition.Accepts "min" n := by
  have hlimit : limit.toNat = 100 := rfl
  rw [Definition.accepts_min_iff, UInt32.lt_iff_toNat_lt]
  omega

theorem out_of_range_iff {n : UInt32} :
    n < leastMaximum ∨ limit < n ↔ ¬ Definition.Accepts "max" n := by
  have hlimit : limit.toNat = 100 := rfl
  have hleast : leastMaximum.toNat = 3 := rfl
  rw [Definition.accepts_max_iff, UInt32.lt_iff_toNat_lt, UInt32.lt_iff_toNat_lt]
  omega

/-- Whatever is found first is the first flaw. -/
theorem flaw?_eq_some_iff : s.flaw? pool = some flaw ↔ s.FirstFlaw pool flaw := by
  constructor
  · intro h
    rw [flaw?] at h
    split at h
    · next hmin =>
        cases h
        exact .min (limit_lt_iff.mp hmin)
    · next hmin =>
        have hmin := not_not.mp (mt limit_lt_iff.mpr hmin)
        split at h
        · next hmax =>
            cases h
            exact .max hmin (out_of_range_iff.mp hmax)
        · next hmax =>
            have hmax := not_not.mp (mt out_of_range_iff.mpr hmax)
            split at h
            · next horder =>
                cases h
                exact .order hmin hmax horder
            · cases h
  · intro h
    cases h with
    | min h => exact if_pos (limit_lt_iff.mpr h)
    | max hmin h =>
        rw [flaw?, if_neg fun hlimit => limit_lt_iff.mp hlimit hmin,
          if_pos (out_of_range_iff.mpr h)]
    | order hmin hmax h =>
        rw [flaw?, if_neg fun hlimit => limit_lt_iff.mp hlimit hmin,
          if_neg fun hrange => out_of_range_iff.mp hrange hmax, if_pos h]

/-- A flaw of the bounds is reported with the name of the pool. -/
theorem FirstFlaw.exists_message_eq (h : s.FirstFlaw pool flaw) :
    ∃ rest, flaw.message = "node pool '" ++ pool ++ "'" ++ rest := by
  cases h with
  | min _ =>
      refine ⟨" autoscaler min (" ++ toString s.min.toNat ++ ") must be at most 100", ?_⟩
      change "node pool '" ++ pool ++ "' autoscaler min (" ++ toString s.min.toNat ++
        ") must be at most " ++ "100" = _
      simp only [String.append_assoc]
      rfl
  | max _ _ =>
      refine ⟨" autoscaler max (" ++ toString s.max.toNat ++ ") must be between 3 and 100", ?_⟩
      change "node pool '" ++ pool ++ "' autoscaler max (" ++ toString s.max.toNat ++
        ") must be between " ++ ("3" ++ " and " ++ "100") = _
      simp only [String.append_assoc]
      rfl
  | order _ _ _ =>
      refine ⟨" autoscaler min (" ++ toString s.min.toNat ++ ") exceeds max (" ++
        toString s.max.toNat ++ ")", ?_⟩
      change "node pool '" ++ pool ++ "' autoscaler min (" ++ toString s.min.toNat ++
        ") exceeds max (" ++ toString s.max.toNat ++ ")" = _
      simp only [String.append_assoc]
      rfl

theorem FirstFlaw.not_isAcceptable (h : s.FirstFlaw pool flaw) : ¬ s.IsAcceptable := by
  intro hacceptable
  cases h with
  | min h => exact h hacceptable.min
  | max _ h => exact h hacceptable.max
  | order _ _ h => exact absurd hacceptable.ordered (UInt32.not_le.mpr h)

theorem exists_firstFlaw (h : ¬ s.IsAcceptable) : ∃ flaw, s.FirstFlaw pool flaw := by
  by_cases hmin : Definition.Accepts "min" s.min
  · by_cases hmax : Definition.Accepts "max" s.max
    · refine ⟨_, .order hmin hmax (UInt32.not_le.mp fun hordered => ?_)⟩
      exact h ⟨hmin, hmax, hordered⟩
    · exact ⟨_, .max hmin hmax⟩
  · exact ⟨_, .min hmin⟩

end ScalingBounds

namespace PoolShape

variable {pool : String} {shape : PoolShape} {flaw : SpecFlaw}

theorem namedFlaw?_eq_some_iff :
    namedFlaw? (pool, shape) = some flaw ↔ shape.FirstFlaw pool flaw := by
  constructor
  · intro h
    rw [namedFlaw?] at h
    split at h
    · next hname =>
        cases h
        exact .name (Text.isBlankText_iff.mp hname)
    · next hname =>
        have hname := mt Text.isBlankText_iff.mpr hname
        rw [flaw?] at h
        split at h
        · next htype =>
            cases h
            exact .instanceType hname (Text.isBlankText_iff.mp htype)
        · next htype =>
            obtain ⟨s, hscaling, hflaw⟩ := Option.bind_eq_some_iff.mp h
            exact .scaling hname (mt Text.isBlankText_iff.mpr htype) hscaling
              (ScalingBounds.flaw?_eq_some_iff.mp hflaw)
  · intro h
    cases h with
    | name h => exact if_pos (Text.isBlankText_iff.mpr h)
    | instanceType hname h =>
        rw [namedFlaw?, if_neg (mt Text.isBlankText_iff.mp hname), flaw?,
          if_pos (Text.isBlankText_iff.mpr h)]
    | scaling hname htype hscaling h =>
        rw [namedFlaw?, if_neg (mt Text.isBlankText_iff.mp hname), flaw?,
          if_neg (mt Text.isBlankText_iff.mp htype), hscaling]
        exact ScalingBounds.flaw?_eq_some_iff.mpr h

/-- A flaw that is not one of the name is reported with the name of the pool. -/
theorem FirstFlaw.exists_message_eq (h : shape.FirstFlaw pool flaw) (hname : ¬ Text.Blank pool) :
    ∃ rest, flaw.message = "node pool '" ++ pool ++ "'" ++ rest := by
  cases h with
  | name h => exact absurd h hname
  | instanceType _ _ =>
      refine ⟨" must set linodeType", ?_⟩
      change "node pool '" ++ pool ++ "' must set linodeType" = _
      simp only [String.append_assoc]
      rfl
  | scaling _ _ _ h => exact h.exists_message_eq

theorem FirstFlaw.not_isAcceptable (h : shape.FirstFlaw pool flaw) :
    ¬ shape.IsAcceptable pool := by
  intro hacceptable
  cases h with
  | name h => exact hacceptable.name h
  | instanceType _ h => exact hacceptable.instanceType h
  | scaling _ _ hscaling h => exact h.not_isAcceptable (hacceptable.scaling _ hscaling)

theorem exists_firstFlaw (h : ¬ shape.IsAcceptable pool) : ∃ flaw, shape.FirstFlaw pool flaw := by
  by_cases hname : Text.Blank pool
  · exact ⟨_, .name hname⟩
  · by_cases htype : Text.Blank shape.instanceType
    · exact ⟨_, .instanceType hname htype⟩
    · obtain ⟨s, hscaling, hflawed⟩ : ∃ s, shape.scaling = some s ∧ ¬ s.IsAcceptable := by
        by_contra hnone
        push Not at hnone
        exact h ⟨hname, htype, hnone⟩
      obtain ⟨flaw, hflaw⟩ := ScalingBounds.exists_firstFlaw hflawed
      exact ⟨flaw, .scaling hname htype hscaling hflaw⟩

theorem namedFlaw?_eq_none_iff : namedFlaw? (pool, shape) = none ↔ shape.IsAcceptable pool := by
  constructor
  · intro hnone
    by_contra hflawed
    obtain ⟨flaw, hflaw⟩ := exists_firstFlaw hflawed
    cases hnone.symm.trans (namedFlaw?_eq_some_iff.mpr hflaw)
  · intro hacceptable
    refine Option.eq_none_iff_forall_ne_some.mpr fun flaw hflaw => ?_
    exact (namedFlaw?_eq_some_iff.mp hflaw).not_isAcceptable hacceptable

end PoolShape

namespace ClusterSpec

variable {spec : ClusterSpec} {flaw : SpecFlaw}

theorem flaw?_eq_some_iff : spec.flaw? = some flaw ↔ spec.FirstFlaw flaw := by
  constructor
  · intro h
    rw [flaw?] at h
    split at h
    · next hregion =>
        cases h
        exact .region (Text.isBlankText_iff.mp hregion)
    · next hregion =>
        have hregion := mt Text.isBlankText_iff.mpr hregion
        split at h
        · next hempty =>
            cases h
            exact .noPools hregion (KeyMap.isEmpty_iff.mp hempty)
        · obtain ⟨name, shape, hpool, hfound, hbefore⟩ :=
            KeyMap.findSome?_entries_eq_some_iff.mp h
          refine .pool hregion hpool (fun other shape' hlt hother => ?_)
            (PoolShape.namedFlaw?_eq_some_iff.mp hfound)
          exact PoolShape.namedFlaw?_eq_none_iff.mp (hbefore other shape' hlt hother)
  · intro h
    cases h with
    | region h => exact if_pos (Text.isBlankText_iff.mpr h)
    | noPools hregion h =>
        rw [flaw?, if_neg (mt Text.isBlankText_iff.mp hregion), if_pos (KeyMap.isEmpty_iff.mpr h)]
    | @pool name shape _ hregion hpool hbefore h =>
        have hpools : ¬ spec.nodePools.isEmpty = true := by
          intro hempty
          cases hpool.symm.trans (KeyMap.isEmpty_iff.mp hempty name)
        rw [flaw?, if_neg (mt Text.isBlankText_iff.mp hregion), if_neg hpools]
        refine KeyMap.findSome?_entries_eq_some_iff.mpr ⟨name, shape, hpool,
          PoolShape.namedFlaw?_eq_some_iff.mpr h, fun other shape' hlt hother => ?_⟩
        exact PoolShape.namedFlaw?_eq_none_iff.mpr (hbefore other shape' hlt hother)

theorem FirstFlaw.not_isAcceptable (h : spec.FirstFlaw flaw) : ¬ spec.IsAcceptable := by
  intro hacceptable
  cases h with
  | region h => exact hacceptable.region h
  | noPools _ h =>
      obtain ⟨name, shape, hpool⟩ := hacceptable.pool
      cases hpool.symm.trans (h name)
  | pool _ hpool _ h => exact h.not_isAcceptable (hacceptable.pools _ _ hpool)

theorem flaw?_eq_none_iff : spec.flaw? = none ↔ spec.IsAcceptable := by
  constructor
  · intro hnone
    rw [flaw?] at hnone
    split at hnone
    · cases hnone
    · next hregion =>
        split at hnone
        · cases hnone
        · next hempty =>
            refine ⟨mt Text.isBlankText_iff.mpr hregion, ?_, fun name shape hpool => ?_⟩
            · by_contra hpools
              push Not at hpools
              refine hempty (KeyMap.isEmpty_iff.mpr fun name => ?_)
              exact Option.eq_none_iff_forall_ne_some.mpr (hpools name)
            · apply PoolShape.namedFlaw?_eq_none_iff.mp
              exact List.findSome?_eq_none_iff.mp hnone _ (KeyMap.get?_eq_some_iff.mp hpool)
  · intro hacceptable
    refine Option.eq_none_iff_forall_ne_some.mpr fun flaw hflaw => ?_
    exact (flaw?_eq_some_iff.mp hflaw).not_isAcceptable hacceptable

theorem validate_eq_ok_iff : spec.validate = .ok () ↔ spec.flaw? = none := by
  rw [validate]
  split <;> simp [*]

theorem validate_eq_error_iff {fault : Fault} :
    spec.validate = .error fault ↔ ∃ flaw, spec.flaw? = some flaw ∧
      fault = .validation flaw.message := by
  rw [validate]
  split <;> simp [*, eq_comm]

end ClusterSpec

/-- A spec is accepted exactly if it is as it has to be, with scaling bounds in the ranges that the
definition of the resource publishes, and any other is refused with its first flaw. A flaw of a pool
that has a name is reported with that. -/
theorem specs_are_validated (spec : ClusterSpec) :
    (spec.validate = .ok () ↔ spec.IsAcceptable) ∧
      (∀ fault, spec.validate = .error fault ↔
        ∃ flaw, spec.FirstFlaw flaw ∧ fault = .validation flaw.message) ∧
      (∀ name shape flaw, ¬ Text.Blank name → PoolShape.FirstFlaw name shape flaw →
        ∃ rest, flaw.message = "node pool '" ++ name ++ "'" ++ rest) ∧
      ∀ n : UInt32, (Definition.Accepts "min" n ↔ 0 ≤ n.toNat ∧ n.toNat ≤ 100) ∧
        (Definition.Accepts "max" n ↔ 3 ≤ n.toNat ∧ n.toNat ≤ 100) := by
  refine ⟨?_, fun fault => ?_, ?_, ?_⟩
  · rw [ClusterSpec.validate_eq_ok_iff, ClusterSpec.flaw?_eq_none_iff]
  · simp only [ClusterSpec.validate_eq_error_iff, ClusterSpec.flaw?_eq_some_iff]
  · exact fun _ _ _ hname h => h.exists_message_eq hname
  · exact fun n => ⟨Definition.accepts_min_iff n, Definition.accepts_max_iff n⟩

/-- A spec with two flawed pools, the later one with the flaw that is looked for earlier. -/
def twiceFlawed : ClusterSpec where
  region := "us-east"
  tokenSecretRef := ⟨"default", "token"⟩
  highAvailability := none
  nodePools := KeyMap.ofList
    [("web", ⟨3, " ", none⟩), ("batch", ⟨3, "g6-standard-1", some ⟨50, 10⟩⟩)]
  kubernetesVersion := none
  tags := none

/-- The pool whose name comes first is reported. -/
theorem twiceFlawed_refused :
    ¬ Text.Blank "batch" ∧
      PoolShape.FirstFlaw "batch" ⟨3, "g6-standard-1", some ⟨50, 10⟩⟩
        (.minimumAboveMaximum "batch" 50 10) ∧
      twiceFlawed.validate = .error (.validation
        "node pool 'batch' autoscaler min (50) exceeds max (10)") ∧
      ∃ rest, (SpecFlaw.minimumAboveMaximum "batch" 50 10).message =
        "node pool '" ++ "batch" ++ "'" ++ rest := by
  have hname : ¬ Text.Blank "batch" := by decide
  have hflaw : PoolShape.FirstFlaw "batch" ⟨3, "g6-standard-1", some ⟨50, 10⟩⟩
      (.minimumAboveMaximum "batch" 50 10) :=
    .scaling hname (by decide) rfl (.order ((Definition.accepts_min_iff 50).mpr (by decide))
      ((Definition.accepts_max_iff 10).mpr (by decide)) (by decide))
  have hfirst : twiceFlawed.FirstFlaw (.minimumAboveMaximum "batch" 50 10) := by
    refine .pool (by decide) rfl (fun other shape hlt hother => ?_) hflaw
    have hentries : twiceFlawed.nodePools.entries =
        [("batch", ⟨3, "g6-standard-1", some ⟨50, 10⟩⟩), ("web", ⟨3, " ", none⟩)] := by decide
    have hother := KeyMap.get?_eq_some_iff.mp hother
    simp only [hentries, List.mem_cons, Prod.mk.injEq, List.not_mem_nil, or_false] at hother
    rcases hother with ⟨rfl, _⟩ | ⟨rfl, _⟩
    · exact absurd hlt (String.lt_irrefl _)
    · exact absurd hlt (by decide)
  obtain ⟨_, hrefused, hnames, _⟩ := specs_are_validated twiceFlawed
  exact ⟨hname, hflaw, (hrefused _).mpr ⟨_, hfirst, by decide⟩, hnames _ _ _ hname hflaw⟩

end ClusterKeeper
