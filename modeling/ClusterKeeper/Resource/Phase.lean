import ClusterKeeper.Data.Wire
/-!
The phase of a cluster, as it is reported to the owner of the resource.
-/

namespace ClusterKeeper

/-- Where a cluster is in its life. Reported, never consulted. -/
inductive Phase where
  /-- Nothing has been created yet. -/
  | unknown
  /-- The cluster was created and is being provisioned. -/
  | provisioning
  /-- A change is being applied. -/
  | updating
  /-- The cluster is as declared, and ready. -/
  | active
  /-- The cluster is being deleted. -/
  | deleting
  deriving Repr, DecidableEq

namespace Phase

instance : Inhabited Phase := ⟨unknown⟩

/-- The phases in the order of a life. -/
def all : List Phase := [unknown, provisioning, updating, active, deleting]

def name : Phase → String
  | unknown => "Unknown"
  | provisioning => "Provisioning"
  | updating => "Updating"
  | active => "Active"
  | deleting => "Deleting"

def ofName? (name : String) : Option Phase := all.find? fun phase => phase.name == name

@[simp] theorem ofName?_name (phase : Phase) : ofName? phase.name = some phase := by
  cases phase <;> decide

end Phase

instance : Formed Phase := ⟨.choice⟩

/-- A phase is given by its name, or as the one member of an object, without a value. -/
instance : Wire Phase where
  encode phase := .text phase.name
  decode v :=
    let name? := match v with
      | .text name => some name
      | .object [(name, .null)] => some name
      | _ => none
    match name?.bind Phase.ofName? with
    | some phase => .ok phase
    | none => .error (.expected "a phase")

end ClusterKeeper
