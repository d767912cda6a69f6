import ClusterKeeper.Data.Wire
import ClusterKeeper.Time.Timestamp
/-!
Which fields of an object are whose.

The server keeps beside each object who has set which of its fields. The sets of fields are values
that are not looked into: they are read as they are and sent back as they are. What is not legible
at any depth makes a set unreadable.
-/

namespace ClusterKeeper

namespace Value

mutual

/-- How deep lists and objects are nested in a value. -/
def depth : Value → Nat
  | .list items => depthOfItems items + 1
  | .object members => depthOfMembers members + 1
  | _ => 0

/-- The depth of the deepest item. -/
def depthOfItems : List Value → Nat
  | [] => 0
  | v :: rest => max (depth v) (depthOfItems rest)

/-- The depth of the deepest member. -/
def depthOfMembers : List (String × Value) → Nat
  | [] => 0
  | (_, v) :: rest => max (depth v) (depthOfMembers rest)

end

mutual

/-- The value as it is kept: in each object the last member of a name, in the order of the names.
None where a part of it is not legible or a number is too large. -/
def kept? : Value → Option Value
  | .illegible => none
  | .decimal mantissa exponent =>
      let number := Value.decimal mantissa exponent
      if number.isFinite then some number else none
  | .list items => (keptItems? items).map .list
  | .object members =>
      (keptMembers? members).map fun members => .object (KeyMap.ofList members).entries
  | v => some v

/-- The items as they are kept. -/
def keptItems? : List Value → Option (List Value)
  | [] => some []
  | v :: rest => do return (← kept? v) :: (← keptItems? rest)

/-- The members as they are kept. -/
def keptMembers? : List (String × Value) → Option (List (String × Value))
  | [] => some []
  | (name, v) :: rest => do return (name, ← kept? v) :: (← keptMembers? rest)

end

example : kept? (.object [("f:type", .null), ("f:data", .object []), ("f:type", .bool true)]) =
    some (.object [("f:data", .object []), ("f:type", .bool true)]) := by
  decide +kernel

end Value

/-- A set of fields of an object, in the form that the server gives it. -/
structure FieldSet where
  value : Value
  deriving Repr, DecidableEq

namespace FieldSet

/-- How deep a set may be nested: a text may be nested 127 deep, and a set of fields stands inside
an entry of a list in the metadata of an object. -/
def deepest : Nat := 123

instance : Formed FieldSet := ⟨.any⟩

instance : Wire FieldSet where
  encode fields := fields.value
  decode v :=
    if deepest < v.depth then .error (.expected "a value of fewer levels")
    else match v.kept? with
      | some value => .ok ⟨value⟩
      | none => .error (.expected "a legible value")

end FieldSet

/-- The fields of an object that one manager has set. -/
structure ManagedFields where
  apiVersion : Option String
  fieldsType : Option String
  /-- The fields, in the first version of their form. -/
  fieldsV1 : Option FieldSet
  manager : Option String
  operation : Option String
  subresource : Option String
  time : Option Timestamp
  deriving Repr, DecidableEq

end ClusterKeeper
