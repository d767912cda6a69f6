import ClusterKeeper.Resource.FieldSet
/-!
Metadata of the objects that the API server stores.

Members may come in any order and more than once, the last one counting; a null member is an absent
one, and members that no metadata have are dropped.
-/

namespace ClusterKeeper

/-- What an object belongs to. -/
structure OwnerReference where
  apiVersion : String
  kind : String
  name : String
  uid : String
  controller : Option Bool
  blockOwnerDeletion : Option Bool
  deriving Repr, DecidableEq

/-- The metadata of a stored object, all that there are. -/
structure Metadata where
  name : Option String
  generateName : Option String
  inNamespace : Option String
  uid : Option String
  resourceVersion : Option String
  generation : Option Int64
  creationTimestamp : Option Timestamp
  deletionTimestamp : Option Timestamp
  deletionGracePeriodSeconds : Option Int64
  labels : Option (KeyMap String)
  annotations : Option (KeyMap String)
  finalizers : Option (List String)
  ownerReferences : Option (List OwnerReference)
  managedFields : Option (List ManagedFields)
  selfLink : Option String
  deriving Repr, DecidableEq

namespace Metadata

/-- Metadata that say nothing. -/
def blank : Metadata :=
  ⟨none, none, none, none, none, none, none, none, none, none, none, none, none, none, none⟩

/-- The name, or else the stem for generated names, or else the empty text. -/
def anyName (m : Metadata) : String := (m.name <|> m.generateName).getD ""

/-- The namespace, or the empty text. -/
def namespaceOrEmpty (m : Metadata) : String := m.inNamespace.getD ""

/-- The finalizers, none where the list is absent. -/
def finalizerList (m : Metadata) : List String := m.finalizers.getD []

/-- The value of an annotation. -/
def annotation? (m : Metadata) (key : String) : Option String :=
  m.annotations.bind fun annotations => annotations.get? key

theorem annotation?_eq_some_iff {m : Metadata} {key text : String} :
    m.annotation? key = some text ↔
      ∃ notes, m.annotations = some notes ∧ notes.get? key = some text :=
  Option.bind_eq_some_iff

theorem annotation?_eq_none_iff {m : Metadata} {key : String} :
    m.annotation? key = none ↔ ∀ notes, m.annotations = some notes → notes.get? key = none :=
  Option.bind_eq_none_iff

end Metadata

/-- The members of a stored object. -/
def storedMembers : Value → Except Mismatch (List (String × Value))
  | .object members => .ok members
  | _ => .error (.expected "an object")

/-- A member of a stored object. Each occurrence must be readable and the last one counts. -/
def storedMember {α : Type} [Wire α] (members : List (String × Value)) (name : String) :
    Except Mismatch (Option α) :=
  (members.filter fun m => m.1 == name).foldlM (fun _ m => decode m.2) none

def OwnerReference.fields : Fields :=
  [fieldOf "apiVersion" (Option String), fieldOf "kind" (Option String),
   fieldOf "name" (Option String), fieldOf "uid" (Option String),
   fieldOf "controller" (Option Bool), fieldOf "blockOwnerDeletion" (Option Bool)]

instance : Formed OwnerReference := ⟨.record OwnerReference.fields⟩

instance : Wire OwnerReference where
  encode r := .object <|
    field "apiVersion" r.apiVersion ++ fieldIfSome "blockOwnerDeletion" r.blockOwnerDeletion ++
    fieldIfSome "controller" r.controller ++ field "kind" r.kind ++ field "name" r.name ++
    field "uid" r.uid
  decode v := do
    let m ← storedMembers v
    let text (name : String) : Except Mismatch String := return (← storedMember m name).getD ""
    return {
      apiVersion := ← text "apiVersion"
      kind := ← text "kind"
      name := ← text "name"
      uid := ← text "uid"
      controller := ← storedMember m "controller"
      blockOwnerDeletion := ← storedMember m "blockOwnerDeletion" }

def ManagedFields.fields : Fields :=
  [fieldOf "apiVersion" (Option String), fieldOf "fieldsType" (Option String),
   fieldOf "fieldsV1" (Option FieldSet), fieldOf "manager" (Option String),
   fieldOf "operation" (Option String), fieldOf "subresource" (Option String),
   fieldOf "time" (Option Timestamp)]

instance : Formed ManagedFields := ⟨.record ManagedFields.fields⟩

instance : Wire ManagedFields where
  encode f := .object <|
    fieldIfSome "apiVersion" f.apiVersion ++ fieldIfSome "fieldsType" f.fieldsType ++
    fieldIfSome "fieldsV1" f.fieldsV1 ++ fieldIfSome "manager" f.manager ++
    fieldIfSome "operation" f.operation ++ fieldIfSome "subresource" f.subresource ++
    fieldIfSome "time" f.time
  decode v := do
    let m ← storedMembers v
    return {
      apiVersion := ← storedMember m "apiVersion"
      fieldsType := ← storedMember m "fieldsType"
      fieldsV1 := ← storedMember m "fieldsV1"
      manager := ← storedMember m "manager"
      operation := ← storedMember m "operation"
      subresource := ← storedMember m "subresource"
      time := ← storedMember m "time" }

def Metadata.fields : Fields :=
  [fieldOf "name" (Option String), fieldOf "generateName" (Option String),
   fieldOf "namespace" (Option String), fieldOf "uid" (Option String),
   fieldOf "resourceVersion" (Option String), fieldOf "generation" (Option Int64),
   fieldOf "creationTimestamp" (Option Timestamp), fieldOf "deletionTimestamp" (Option Timestamp),
   fieldOf "deletionGracePeriodSeconds" (Option Int64),
   fieldOf "labels" (Option (KeyMap String)), fieldOf "annotations" (Option (KeyMap String)),
   fieldOf "finalizers" (Option (List String)),
   fieldOf "ownerReferences" (Option (List OwnerReference)),
   fieldOf "managedFields" (Option (List ManagedFields)), fieldOf "selfLink" (Option String)]

instance : Formed Metadata := ⟨.record Metadata.fields⟩

instance : Wire Metadata where
  encode m := .object <|
    fieldIfSome "annotations" m.annotations ++
    fieldIfSome "creationTimestamp" m.creationTimestamp ++
    fieldIfSome "deletionGracePeriodSeconds" m.deletionGracePeriodSeconds ++
    fieldIfSome "deletionTimestamp" m.deletionTimestamp ++
    fieldIfSome "finalizers" m.finalizers ++ fieldIfSome "generateName" m.generateName ++
    fieldIfSome "generation" m.generation ++ fieldIfSome "labels" m.labels ++
    fieldIfSome "managedFields" m.managedFields ++
    fieldIfSome "name" m.name ++ fieldIfSome "namespace" m.inNamespace ++
    fieldIfSome "ownerReferences" m.ownerReferences ++
    fieldIfSome "resourceVersion" m.resourceVersion ++ fieldIfSome "selfLink" m.selfLink ++
    fieldIfSome "uid" m.uid
  decode v := do
    let m ← storedMembers v
    return {
      name := ← storedMember m "name"
      generateName := ← storedMember m "generateName"
      inNamespace := ← storedMember m "namespace"
      uid := ← storedMember m "uid"
      resourceVersion := ← storedMember m "resourceVersion"
      generation := ← storedMember m "generation"
      creationTimestamp := ← storedMember m "creationTimestamp"
      deletionTimestamp := ← storedMember m "deletionTimestamp"
      deletionGracePeriodSeconds := ← storedMember m "deletionGracePeriodSeconds"
      labels := ← storedMember m "labels"
      annotations := ← storedMember m "annotations"
      finalizers := ← storedMember m "finalizers"
      ownerReferences := ← storedMember m "ownerReferences"
      managedFields := ← storedMember m "managedFields"
      selfLink := ← storedMember m "selfLink" }

end ClusterKeeper
