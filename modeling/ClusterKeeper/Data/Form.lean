import ClusterKeeper.Data.KeyMap
/-!
Forms: of what kinds of values data of a type are made.

A reader of texts in which a word has no type of its own is told the form of what it is to read.
-/

namespace ClusterKeeper

/-- The form of data of a type. -/
inductive Form where
  | bool
  | integer (signed : Bool)
  | text
  /-- One of some names. -/
  | choice
  | optional (form : Form)
  | list (items : Form)
  /-- Values by names that are free. -/
  | map (values : Form)
  /-- Values by names that are fixed. -/
  | record (fields : List (String × Form))
  /-- Whatever is there. -/
  | any
  deriving Repr, Inhabited

/-- The names and forms of the fields of a record. -/
abbrev Fields : Type := List (String × Form)

def Fields.names (fields : Fields) : List String := fields.map (·.1)

/-- Types whose data have a form. -/
class Formed (α : Type) where
  form : Form

instance : Formed Bool := ⟨.bool⟩
instance : Formed String := ⟨.text⟩
instance : Formed UInt16 := ⟨.integer false⟩
instance : Formed UInt32 := ⟨.integer false⟩
instance : Formed UInt64 := ⟨.integer false⟩
instance : Formed Int64 := ⟨.integer true⟩

instance {α : Type} [Formed α] : Formed (Option α) := ⟨.optional (Formed.form α)⟩
instance {α : Type} [Formed α] : Formed (List α) := ⟨.list (Formed.form α)⟩
instance {α : Type} [Formed α] : Formed (KeyMap α) := ⟨.map (Formed.form α)⟩

def fieldOf (name : String) (α : Type) [Formed α] : String × Form := (name, Formed.form α)

end ClusterKeeper
