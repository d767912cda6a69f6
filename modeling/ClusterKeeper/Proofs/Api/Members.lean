import Mathlib.Data.List.Induction
import Mathlib.Data.List.Nodup
import ClusterKeeper.Data.MergePatch
import ClusterKeeper.Resource.Cluster
/-!
Members of stored objects.

A merge patch of one member changes that member and no other. Of a declaration that can be read the
finalizers are found in the object that it was read from.
-/

namespace ClusterKeeper

variable {name other : String} {value object : Value} {members : List (String × Value)}

theorem bind_eq_ok_iff {ε α β : Type} {r : Except ε α} {f : α → Except ε β} {b : β} :
    (r >>= f) = .ok b ↔ ∃ a, r = .ok a ∧ f a = .ok b := by
  cases r <;> simp [bind, Except.bind]

namespace MergePatch

/-- The member in the place of one of that name. -/
def renewed (name : String) (value : Value) (m : String × Value) : String × Value :=
  if m.1 == name then (name, value) else m

theorem renewed_fst (m : String × Value) : (renewed name value m).1 = m.1 := by
  by_cases h : m.1 = name <;> simp [renewed, h]

theorem find?_map_renewed (members : List (String × Value)) :
    (members.map (renewed name value)).find? (fun m => m.1 == other) =
      (members.find? fun m => m.1 == other).map (renewed name value) := by
  rw [List.find?_map]
  congr 2
  funext m
  simp [renewed_fst]

theorem member?_set_self : (Value.object (set name value members)).member? name = some value := by
  by_cases hany : members.any (fun m => m.1 == name) = true
  · have hset : set name value members = members.map (renewed name value) := if_pos hany
    obtain ⟨m, hm, hname⟩ := List.any_eq_true.mp hany
    have hsome : (members.reverse.find? fun m => m.1 == name).isSome := by
      rw [List.find?_isSome]
      exact ⟨m, List.mem_reverse.mpr hm, hname⟩
    obtain ⟨found, hfound⟩ := Option.isSome_iff_exists.mp hsome
    have hfst := List.find?_some hfound
    rw [hset, Value.member?, ← List.map_reverse, find?_map_renewed, hfound]
    simp [renewed, hfst]
  · have hset : set name value members = members ++ [(name, value)] := if_neg hany
    simp [hset, Value.member?]

theorem memberOrNull_object_membersOf :
    (Value.object (membersOf object)).memberOrNull name = object.memberOrNull name := by
  cases object <;> rfl

theorem apply_single (h : value ≠ .null) :
    apply object (.object [(name, value)]) =
      .object (set name (apply (object.memberOrNull name) value) (membersOf object)) := by
  cases value <;> simp_all [apply, applyMembers, memberOrNull_object_membersOf]

theorem memberOrNull_apply_self (h : value ≠ .null) :
    (apply object (.object [(name, value)])).memberOrNull name =
      apply (object.memberOrNull name) value := by
  rw [apply_single h, Value.memberOrNull, member?_set_self, Option.getD_some]

end MergePatch

/-- The last member of a name is the one that counts. -/
theorem decode_memberOrNull_of_storedMember {α : Type} [Wire α] {a : Option α}
    (h : storedMember members name = .ok a) :
    decode ((Value.object members).memberOrNull name) = .ok a := by
  induction members using List.reverseRecOn with
  | nil => exact h
  | append_singleton rest m ih =>
      rw [storedMember, List.filter_append, List.foldlM_append] at h
      by_cases hname : m.1 = name
      · obtain ⟨_, _, h⟩ := bind_eq_ok_iff.mp h
        rw [Value.memberOrNull, Value.member?, List.reverse_append]
        simpa [hname, List.find?_cons, bind_pure] using h
      · have hrest : storedMember rest name = .ok a := by
          rw [storedMember]
          simpa [hname] using h
        have hlast : (Value.object (rest ++ [m])).memberOrNull name =
            (Value.object rest).memberOrNull name := by
          simp [Value.memberOrNull, Value.member?, hname]
        rw [hlast]
        exact ih hrest

/-- A member of a record is the only one of its name. -/
theorem member?_of_ofValue {names : List String} {record : Members} (hname : name ∈ names)
    (hrecord : Members.ofValue names (.object members) = .ok record)
    (hvalue : record.get? name = some value) :
    (Value.object members).member? name = some value := by
  simp only [Members.ofValue] at hrecord
  cases hrepeated : firstRepeated? ((members.filter fun m => names.contains m.1).map (·.1)) with
  | some repeated =>
      rw [hrepeated] at hrecord
      cases hrecord
  | none =>
      rw [hrepeated] at hrecord
      cases hrecord
      have hnodup := firstRepeated?_eq_none_iff.mp hrepeated
      obtain ⟨first, hfirst, rfl⟩ := Option.map_eq_some_iff.mp hvalue
      have hfirst_mem := List.mem_of_find?_eq_some hfirst
      have hfirst_name : first.1 = name := by simpa using List.find?_some hfirst
      have hsome : (members.reverse.find? fun m => m.1 == name).isSome := by
        rw [List.find?_isSome]
        exact ⟨first, List.mem_reverse.mpr (List.mem_filter.mp hfirst_mem).1, by simpa⟩
      obtain ⟨last, hlast⟩ := Option.isSome_iff_exists.mp hsome
      have hlast_name : last.1 = name := by simpa using List.find?_some hlast
      have hlast_mem : last ∈ members.filter fun m => names.contains m.1 := by
        apply List.mem_filter.mpr
        exact ⟨List.mem_reverse.mp (List.mem_of_find?_eq_some hlast), by simpa [hlast_name]⟩
      have heq : last = first := by
        apply List.inj_on_of_nodup_map hnodup hlast_mem hfirst_mem
        rw [hlast_name, hfirst_name]
      rw [Value.member?, hlast, heq, Option.map_some]

/-- What the metadata of a stored object have under a name, where it can be read. -/
def metadataMember? {α : Type} [Wire α] (name : String) (object : Value) : Option α :=
  match decode ((object.memberOrNull "metadata").memberOrNull name) with
  | .ok a => a
  | .error _ => none

/-- The finalizers of a stored object. -/
def finalizersOf (object : Value) : List String := (metadataMember? "finalizers" object).getD []

/-- The members of an object give the metadata: each is what is read under its own name. -/
structure Metadata.IsReadFrom (metadata : Metadata) (members : List (String × Value)) : Prop where
  name : storedMember members "name" = .ok metadata.name
  generateName : storedMember members "generateName" = .ok metadata.generateName
  inNamespace : storedMember members "namespace" = .ok metadata.inNamespace
  uid : storedMember members "uid" = .ok metadata.uid
  resourceVersion : storedMember members "resourceVersion" = .ok metadata.resourceVersion
  generation : storedMember members "generation" = .ok metadata.generation
  creationTimestamp : storedMember members "creationTimestamp" = .ok metadata.creationTimestamp
  deletionTimestamp : storedMember members "deletionTimestamp" = .ok metadata.deletionTimestamp
  deletionGracePeriodSeconds : storedMember members "deletionGracePeriodSeconds" =
    .ok metadata.deletionGracePeriodSeconds
  labels : storedMember members "labels" = .ok metadata.labels
  annotations : storedMember members "annotations" = .ok metadata.annotations
  finalizers : storedMember members "finalizers" = .ok metadata.finalizers
  ownerReferences : storedMember members "ownerReferences" = .ok metadata.ownerReferences
  managedFields : storedMember members "managedFields" = .ok metadata.managedFields
  selfLink : storedMember members "selfLink" = .ok metadata.selfLink

theorem decode_metadata_eq_ok_iff {metadata : Metadata} :
    decode value = .ok metadata ↔
      ∃ members, value = .object members ∧ metadata.IsReadFrom members := by
  constructor
  · intro h
    obtain ⟨members, hmembers, h⟩ := bind_eq_ok_iff.mp h
    have hvalue : value = .object members := by
      cases value <;> cases hmembers
      rfl
    simp only [bind_eq_ok_iff] at h
    obtain ⟨_, h₁, _, h₂, _, h₃, _, h₄, _, h₅, _, h₆, _, h₇, _, h₈, _, h₉, _, h₁₀, _, h₁₁, _, h₁₂,
      _, h₁₃, _, h₁₄, _, h₁₅, h⟩ := h
    cases h
    exact ⟨members, hvalue, h₁, h₂, h₃, h₄, h₅, h₆, h₇, h₈, h₉, h₁₀, h₁₁, h₁₂, h₁₃, h₁₄, h₁₅⟩
  · rintro ⟨members, rfl, h⟩
    refine bind_eq_ok_iff.mpr ⟨members, rfl, ?_⟩
    simp only [bind_eq_ok_iff]
    exact ⟨_, h.name, _, h.generateName, _, h.inNamespace, _, h.uid, _, h.resourceVersion, _,
      h.generation, _, h.creationTimestamp, _, h.deletionTimestamp, _,
      h.deletionGracePeriodSeconds, _, h.labels, _, h.annotations, _, h.finalizers, _,
      h.ownerReferences, _, h.managedFields, _, h.selfLink, rfl⟩

/-- What is read as the finalizers of a declaration is what its object has. -/
theorem finalizerList_of_decode {cluster : ClusterDeclaration}
    (h : decode (.object members) = .ok cluster) :
    cluster.metadata.finalizerList = finalizersOf (.object members) := by
  obtain ⟨record, hrecord, h⟩ := bind_eq_ok_iff.mp h
  obtain ⟨metadata, hmetadata, h⟩ := bind_eq_ok_iff.mp h
  simp only [bind_eq_ok_iff] at h
  obtain ⟨_, _, _, _, h⟩ := h
  cases h
  cases hget : record.get? "metadata" with
  | none => simp [Members.need, hget] at hmetadata
  | some value =>
      have hvalue := member?_of_ofValue (by decide +kernel) hrecord hget
      have hread : decode value = .ok metadata := by simpa [Members.need, hget] using hmetadata
      have hmember : (Value.object members).memberOrNull "metadata" = value := by
        rw [Value.memberOrNull, hvalue, Option.getD_some]
      obtain ⟨_, rfl, hmetadata⟩ := decode_metadata_eq_ok_iff.mp hread
      rw [finalizersOf, metadataMember?, hmember,
        decode_memberOrNull_of_storedMember hmetadata.finalizers, Metadata.finalizerList]

end ClusterKeeper
