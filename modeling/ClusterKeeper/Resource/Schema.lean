import ClusterKeeper.Data.Wire
/-!
Schemas: what values of a resource look like, as published to the API server.

A schema is written as an object whose members are in alphabetical order; members that say nothing
are left out.
-/

namespace ClusterKeeper

/-- What a schema says besides the kind of value. -/
structure SchemaNotes where
  description : String
  title : Option String
  default : Option Value
  nullable : Bool
  deriving Repr

namespace SchemaNotes

/-- A description and nothing else. -/
def of (description : String) : SchemaNotes := ⟨description, none, none, false⟩

end SchemaNotes

/-- The form of values. -/
inductive Schema where
  /-- A text; where values are listed, one of them. -/
  | text (notes : SchemaNotes) (values : List String)
  | flag (notes : SchemaNotes)
  | integer (notes : SchemaNotes) (format : String) (minimum maximum : Option Nat)
  | list (notes : SchemaNotes) (items : Schema)
  | map (notes : SchemaNotes) (values : Schema)
  | record (notes : SchemaNotes) (fields : List (String × Schema)) (required : List String)

namespace Schema

/-- A text without notes. -/
def bareText : Schema := text (SchemaNotes.of "") []

/-- A bound of a number, written with a decimal place. -/
def bound (n : Nat) : Value := .decimal (n * 10) (-1)

/-- The members that notes begin with. -/
def opening (notes : SchemaNotes) : List (String × Value) :=
  fieldIfSome "default" notes.default ++
  (if notes.description.isEmpty then [] else field "description" notes.description)

/-- The member that says whether a value may be null. -/
def nullability (notes : SchemaNotes) : List (String × Value) :=
  if notes.nullable then field "nullable" true else []

/-- The members that notes end with, and the type of the value. -/
def closing (notes : SchemaNotes) (type : String) : List (String × Value) :=
  fieldIfSome "title" notes.title ++ field "type" type

mutual

/-- The written form of a schema. -/
def toValue : Schema → Value
  | text notes values => .object <|
      opening notes ++ fieldUnlessEmpty "enum" values ++ nullability notes ++ closing notes "string"
  | flag notes => .object (opening notes ++ nullability notes ++ closing notes "boolean")
  | integer notes format minimum maximum => .object <|
      opening notes ++ field "format" format ++ fieldIfSome "maximum" (maximum.map bound) ++
      fieldIfSome "minimum" (minimum.map bound) ++ nullability notes ++ closing notes "integer"
  | list notes items => .object <|
      opening notes ++ field "items" (toValue items) ++ nullability notes ++ closing notes "array"
  | map notes values => .object <|
      field "additionalProperties" (toValue values) ++ opening notes ++ nullability notes ++
      closing notes "object"
  | record notes fields required => .object <|
      opening notes ++ nullability notes ++ field "properties" (Value.object (fieldValues fields)) ++
      fieldUnlessEmpty "required" required ++ closing notes "object"

/-- The written forms of the fields of a record. -/
def fieldValues : List (String × Schema) → List (String × Value)
  | [] => []
  | (name, schema) :: rest => (name, toValue schema) :: fieldValues rest

end

end Schema

end ClusterKeeper
