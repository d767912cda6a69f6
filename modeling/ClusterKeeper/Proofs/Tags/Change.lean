import Mathlib.Data.List.Sort
import ClusterKeeper.Tags
/-!
What is to become of the tags of a cluster.

Tags are sets that are given as lists. In order and each once, two lists are the same list exactly
where they have the same tags (`sorted_eq_sorted_iff`), so a change of the tags depends on sets
alone. `Due` says what it has to be, for what the owner of the resource wants and what was reported.
-/

namespace ClusterKeeper.Tags

/-- The same tags, in whatever order and however often. -/
def Same (tags others : List String) : Prop := ∀ tag, tag ∈ tags ↔ tag ∈ others

theorem Same.symm {tags others : List String} (h : Same tags others) : Same others tags :=
  fun tag => (h tag).symm

theorem Same.trans {tags middle others : List String} (h : Same tags middle)
    (h' : Same middle others) : Same tags others :=
  fun tag => (h tag).trans (h' tag)

theorem sorted_ascending (tags : List String) : (sorted tags).Pairwise (· < ·) :=
  KeyMap.keys_ascending _

theorem same_sorted (tags : List String) : Same (sorted tags) tags := by
  intro tag
  rw [sorted, KeyMap.mem_keys_ofList, List.map_map]
  exact iff_of_eq (congrArg (tag ∈ ·) (List.map_id' tags))

/-- The tags in order are the one ascending list of the tags. -/
theorem sorted_eq_of_same {tags others : List String} (hascending : others.Pairwise (· < ·))
    (h : Same tags others) : sorted tags = others :=
  (sorted_ascending tags).eq_of_mem_iff hascending ((same_sorted tags).trans h)

theorem sorted_eq_sorted_iff {tags others : List String} :
    sorted tags = sorted others ↔ Same tags others := by
  constructor
  · intro heq
    exact ((same_sorted tags).symm.trans (heq ▸ same_sorted others) : Same tags others)
  · intro h
    exact sorted_eq_of_same (sorted_ascending others) (h.trans (same_sorted others).symm)

theorem change?_eq_none_iff {tags reported : List String} :
    change? (some tags) reported = none ↔ Same tags reported := by
  rw [change?, Option.bind_some, ← sorted_eq_sorted_iff]
  split <;> simp [*]

theorem change?_eq_some_iff {tags reported staged : List String} :
    change? (some tags) reported = some staged ↔
      ¬ Same tags reported ∧ sorted tags = staged := by
  rw [change?, Option.bind_some, ← sorted_eq_sorted_iff]
  split <;> simp [*]

/-- After a change of the tags there is none to be made. -/
theorem change?_getD (desired : Option (List String)) (remote : List String) :
    change? desired ((change? desired remote).getD remote) = none := by
  cases desired with
  | none => rfl
  | some tags =>
      cases hchange : change? (some tags) remote with
      | none => exact hchange
      | some staged =>
          obtain ⟨_, rfl⟩ := change?_eq_some_iff.mp hchange
          exact change?_eq_none_iff.mpr (same_sorted tags).symm

/-- What is staged are the wanted tags. -/
theorem same_of_change?_eq_some {desired : Option (List String)} {reported staged : List String}
    (h : change? desired reported = some staged) : Same staged (desired.getD []) := by
  cases desired with
  | none => cases h
  | some tags =>
      obtain ⟨_, rfl⟩ := change?_eq_some_iff.mp h
      exact same_sorted tags

/-- A change depends on no more than which tags are wanted and which were reported. -/
theorem change?_congr {desired other : Option (List String)} {reported reported' : List String}
    (hdesired : Option.Rel Same desired other) (hreported : Same reported reported') :
    change? desired reported = change? other reported' := by
  cases hdesired with
  | none => rfl
  | some htags =>
      rw [change?, change?, Option.bind_some, Option.bind_some, sorted_eq_sorted_iff.mpr htags,
        sorted_eq_sorted_iff.mpr hreported]

/-- Where the wanted tags were reported there is nothing to be changed. -/
theorem change?_eq_none {desired other : Option (List String)} {reported : List String}
    (hdesired : Option.Rel Same desired other) (hreported : Same reported (desired.getD [])) :
    change? other reported = none := by
  cases hdesired with
  | none => rfl
  | some htags => exact change?_eq_none_iff.mpr (htags.symm.trans hreported.symm)

/-- What the owner of a resource wants of its tags: the spec comes before the annotation, and where
there is neither the tags are not managed. -/
inductive Wanted (cluster : ClusterDeclaration) : Option (List String) → Prop where
  | declared {tags : List String} (hspec : cluster.spec.tags = some tags) :
      Wanted cluster (some tags)
  | annotated {notes : KeyMap String} {text : String} (hspec : cluster.spec.tags = none)
      (hnotes : cluster.metadata.annotations = some notes)
      (hnote : notes.get? annotation = some text) : Wanted cluster (some (ofText text))
  | unmanaged (hspec : cluster.spec.tags = none)
      (hnote : ∀ notes, cluster.metadata.annotations = some notes →
        notes.get? annotation = none) : Wanted cluster none

theorem wanted_iff {cluster : ClusterDeclaration} {wanted : Option (List String)} :
    Wanted cluster wanted ↔ desired? cluster = wanted := by
  constructor
  · intro hwanted
    cases hwanted with
    | declared hspec => simp [desired?, hspec]
    | annotated hspec hnotes hnote =>
        have hfound := Metadata.annotation?_eq_some_iff.mpr ⟨_, hnotes, hnote⟩
        simp [desired?, hspec, hfound]
    | unmanaged hspec hnote =>
        have hmissing := Metadata.annotation?_eq_none_iff.mpr hnote
        simp [desired?, hspec, hmissing]
  · rintro rfl
    cases hspec : cluster.spec.tags with
    | some tags =>
        have hdesired : desired? cluster = some tags := by simp [desired?, hspec]
        exact hdesired ▸ .declared hspec
    | none =>
        cases hnote : cluster.metadata.annotation? annotation with
        | some text =>
            have hdesired : desired? cluster = some (ofText text) := by
              simp [desired?, hspec, hnote]
            obtain ⟨notes, hnotes, htext⟩ := Metadata.annotation?_eq_some_iff.mp hnote
            exact hdesired ▸ .annotated hspec hnotes htext
        | none =>
            have hdesired : desired? cluster = none := by simp [desired?, hspec, hnote]
            exact hdesired ▸ .unmanaged hspec (Metadata.annotation?_eq_none_iff.mp hnote)

/-- The tags that were reported are those that the owner wants, if they are managed. -/
def InLine (cluster : ClusterDeclaration) (reported : List String) : Prop :=
  ∀ tags, Wanted cluster (some tags) → Same tags reported

theorem change?_desired?_eq_none_iff {cluster : ClusterDeclaration} {reported : List String} :
    change? (desired? cluster) reported = none ↔ InLine cluster reported := by
  cases hdesired : desired? cluster with
  | none =>
      refine iff_of_true rfl fun tags hwanted => ?_
      cases hdesired.symm.trans (wanted_iff.mp hwanted)
  | some wanted =>
      rw [change?_eq_none_iff]
      constructor
      · intro hsame tags hwanted
        obtain rfl := Option.some.inj (hdesired.symm.trans (wanted_iff.mp hwanted))
        exact hsame
      · intro hline
        exact hline wanted (wanted_iff.mpr hdesired)

/-- The owners of two resources want the same tags, or neither of them manages tags. -/
def SameWish (cluster other : ClusterDeclaration) : Prop :=
  ∃ wanted wanted', Wanted cluster wanted ∧ Wanted other wanted' ∧ Option.Rel Same wanted wanted'

theorem SameWish.rel {cluster other : ClusterDeclaration} (h : SameWish cluster other) :
    Option.Rel Same (desired? cluster) (desired? other) := by
  obtain ⟨wanted, wanted', hwanted, hwanted', hrel⟩ := h
  rwa [wanted_iff.mp hwanted, wanted_iff.mp hwanted']

/-- What is wanted depends on no more than the spec's tags and the annotation. -/
theorem sameWish_of_eq {cluster other : ClusterDeclaration}
    (hspec : other.spec.tags = cluster.spec.tags)
    (hnote : other.metadata.annotation? annotation =
      cluster.metadata.annotation? annotation) : SameWish cluster other := by
  have hdesired : desired? other = desired? cluster := by
    rw [desired?, hspec, hnote, desired?]
  refine ⟨desired? cluster, desired? cluster, wanted_iff.mpr rfl, wanted_iff.mpr hdesired, ?_⟩
  cases desired? cluster with
  | none => exact .none
  | some tags => exact .some fun _ => Iff.rfl

/-- What a request has to say of the tags, for what the owner wants and what was reported. -/
structure Due (cluster : ClusterDeclaration) (reported : List String)
    (staged : Option (List String)) : Prop where
  /-- They are left alone where they are not managed, and where they are as wanted. -/
  none_iff : staged = none ↔
    Wanted cluster none ∨ ∃ tags, Wanted cluster (some tags) ∧ Same tags reported
  /-- Else all that are wanted are given, and no others. -/
  same : ∀ tags, staged = some tags → ∃ wanted, Wanted cluster (some wanted) ∧ Same tags wanted
  ascending : ∀ tags, staged = some tags → tags.Pairwise (· < ·)
  /-- To want no tags is not to leave them alone. -/
  emptied : Wanted cluster (some []) → reported ≠ [] → staged = some []

theorem due_change? (cluster : ClusterDeclaration) (reported : List String) :
    Due cluster reported (change? (desired? cluster) reported) := by
  cases hdesired : desired? cluster with
  | none =>
      have hnone : Wanted cluster none := wanted_iff.mpr hdesired
      refine ⟨iff_of_true rfl (Or.inl hnone), nofun, nofun, fun hempty _ => ?_⟩
      cases hdesired.symm.trans (wanted_iff.mp hempty)
  | some wanted =>
      have hsome : Wanted cluster (some wanted) := wanted_iff.mpr hdesired
      refine ⟨?_, fun tags hstaged => ?_, fun tags hstaged => ?_, fun hempty hreported => ?_⟩
      · simp [change?_eq_none_iff, wanted_iff, hdesired]
      · exact ⟨wanted, hsome, same_of_change?_eq_some hstaged⟩
      · obtain ⟨_, rfl⟩ := change?_eq_some_iff.mp hstaged
        exact sorted_ascending wanted
      · obtain rfl : wanted = [] := Option.some.inj (hdesired.symm.trans (wanted_iff.mp hempty))
        refine change?_eq_some_iff.mpr ⟨fun hsame => hreported ?_, rfl⟩
        exact List.eq_nil_iff_forall_not_mem.mpr fun tag htag => nomatch (hsame tag).mpr htag

end ClusterKeeper.Tags
