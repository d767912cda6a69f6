import ClusterKeeper.Data.Value
/-!
Merge patches (RFC 7396): an object names the members to be set, and with null the ones to be taken
out; anything else takes the place of what is there.
-/

namespace ClusterKeeper.MergePatch

/-- Takes every member of that name out. -/
def remove (name : String) (members : List (String × Value)) : List (String × Value) :=
  members.filter fun m => m.1 != name

/-- Sets a member in its place, or behind the others if it is new. -/
def set (name : String) (value : Value) (members : List (String × Value)) : List (String × Value) :=
  if members.any fun m => m.1 == name then
    members.map fun m => if m.1 == name then (name, value) else m
  else members ++ [(name, value)]

/-- The members of an object; anything else has none. -/
def membersOf : Value → List (String × Value)
  | .object members => members
  | _ => []

mutual

/-- Applies a patch to a value. -/
def apply (target : Value) : Value → Value
  | .object changes => .object (applyMembers (membersOf target) changes)
  | other => other

/-- Applies changes to the members of an object, one by one. -/
def applyMembers (members : List (String × Value)) : List (String × Value) → List (String × Value)
  | [] => members
  | (name, .null) :: rest => applyMembers (remove name members) rest
  | (name, patch) :: rest =>
      applyMembers (set name (apply ((Value.object members).memberOrNull name) patch) members) rest

end

end ClusterKeeper.MergePatch
