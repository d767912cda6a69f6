import ClusterKeeper.Data.Yaml.Scalar
import ClusterKeeper.Data.Yaml.Tag
/-!
Documents as trees.

A node may carry a label, by which references in other places stand for it. Labels need not be
unique: of several nodes with one label, the one that begins last is meant.
-/

namespace ClusterKeeper.Yaml

/-- A node of a document. -/
inductive Node where
  | scalar (label : Option Nat) (tag : Option Tag) (scalar : Scalar)
  | sequence (label : Option Nat) (tag : Option Tag) (items : List Node)
  /-- Keys and values in the order in which they are written. -/
  | mapping (label : Option Nat) (tag : Option Tag) (members : List (Node × Node))
  /-- A node elsewhere. -/
  | reference (label : Nat)

/-- A document. It may be empty. -/
structure Document where
  root : Option Node

namespace Node

mutual

/-- The nodes with labels, in the order in which they begin. -/
def labelled : Node → List (Nat × Node)
  | scalar label tag s => (label.map (·, scalar label tag s)).toList
  | sequence label tag items =>
      (label.map (·, sequence label tag items)).toList ++ labelledItems items
  | mapping label tag members =>
      (label.map (·, mapping label tag members)).toList ++ labelledMembers members
  | reference _ => []

/-- The nodes with labels in a sequence. -/
def labelledItems : List Node → List (Nat × Node)
  | [] => []
  | item :: items => labelled item ++ labelledItems items

/-- The nodes with labels in a mapping. -/
def labelledMembers : List (Node × Node) → List (Nat × Node)
  | [] => []
  | (key, value) :: members => labelled key ++ (labelled value ++ labelledMembers members)

end

mutual

/-- The size of a node: a collection counts twice, since it has a beginning and an end. -/
def size : Node → Nat
  | scalar .. => 1
  | sequence _ _ items => 2 + sizeOfItems items
  | mapping _ _ members => 2 + sizeOfMembers members
  | reference _ => 1

/-- The size of the items of a sequence. -/
def sizeOfItems : List Node → Nat
  | [] => 0
  | item :: items => size item + sizeOfItems items

/-- The size of the members of a mapping. -/
def sizeOfMembers : List (Node × Node) → Nat
  | [] => 0
  | (key, value) :: members => size key + size value + sizeOfMembers members

end

end Node

namespace Document

/-- The nodes with labels, the last one first. -/
def targets (document : Document) : List (Nat × Node) :=
  (document.root.elim [] Node.labelled).reverse

/-- The size of a document. An empty one counts as well. -/
def size (document : Document) : Nat := document.root.elim 1 Node.size

end Document

end ClusterKeeper.Yaml
