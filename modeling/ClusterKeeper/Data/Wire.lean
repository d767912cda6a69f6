import ClusterKeeper.Data.Form
import ClusterKeeper.Data.Value
/-!
Typed data as structured values.

`Wire` pairs the two directions. Records are read by `Members`: by name, where unknown members are
passed over and a repeated known one is refused, or from a list in order of declaration, where the
list may stop early but not run over.
-/

namespace ClusterKeeper

/-- Types with a written form as structured values. -/
class Wire (α : Type) where
  encode : α → Value
  decode : Value → Except Mismatch α

export Wire (encode)

/-- Reads a value of the type that is wanted. -/
abbrev decode {α : Type} [Wire α] (value : Value) : Except Mismatch α := Wire.decode value

/-! ### Scalars -/

instance : Wire Bool where
  encode b := .bool b
  decode
    | .bool b => .ok b
    | _ => .error (.expected "a boolean")

instance : Wire String where
  encode s := .text s
  decode
    | .text s => .ok s
    | _ => .error (.expected "a string")

/-- Reads an integer between two bounds. -/
def decodeInt (low high : Int) : Value → Except Mismatch Int
  | .int n => if low ≤ n ∧ n ≤ high then .ok n else .error (.expected "an integer in range")
  | _ => .error (.expected "an integer")

instance : Wire UInt16 where
  encode n := .int n.toNat
  decode v := (decodeInt 0 65535 v).map fun n => UInt16.ofNat n.toNat

instance : Wire UInt32 where
  encode n := .int n.toNat
  decode v := (decodeInt 0 4294967295 v).map fun n => UInt32.ofNat n.toNat

instance : Wire UInt64 where
  encode n := .int n.toNat
  decode v := (decodeInt 0 18446744073709551615 v).map fun n => UInt64.ofNat n.toNat

instance : Wire Int64 where
  encode n := .int n.toInt
  decode v := (decodeInt (-9223372036854775808) 9223372036854775807 v).map Int64.ofInt

/-! ### Lists, maps and optional values -/

instance {α : Type} [Wire α] : Wire (List α) where
  encode items := .list (items.map encode)
  decode
    | .list items => items.mapM decode
    | _ => .error (.expected "a sequence")

instance {α : Type} [Wire α] : Wire (KeyMap α) where
  encode map := .object (map.entries.map fun entry => (entry.1, encode entry.2))
  decode
    | .object members =>
        (members.mapM fun m => (decode m.2).map (m.1, ·)).map KeyMap.ofList
    | _ => .error (.expected "a map")

instance {α : Type} [Wire α] : Wire (Option α) where
  encode
    | some a => encode a
    | none => .null
  decode v := if v.isAbsent then .ok none else (decode v).map some

instance : Wire Value where
  encode v := v
  decode v := .ok v

/-! ### Records -/

/-- The known members of a record, as found in a document. -/
structure Members where
  found : List (String × Value)
  /-- The members were given in order, without names. -/
  positional : Bool

namespace Members

/-- The members of a value that have some names, by name or in order. -/
def ofValue (names : List String) : Value → Except Mismatch Members
  | .object members =>
      let known := members.filter fun m => names.contains m.1
      match firstRepeated? (known.map (·.1)) with
      | some name => .error (.repeated name)
      | none => .ok ⟨known, false⟩
  | .list items =>
      if items.length ≤ names.length then .ok ⟨names.zip items, true⟩
      else .error (.surplus names.length)
  | _ => .error (.expected "a record")

/-- The member of that name, if it was given. -/
def get? (members : Members) (name : String) : Option Value :=
  (members.found.find? fun m => m.1 == name).map (·.2)

/-- A member that must be given. -/
def need {α : Type} [Wire α] (members : Members) (name : String) : Except Mismatch α :=
  match members.get? name with
  | some value => decode value
  | none => .error (.missing name)

/-- A member that has a value of its own when it is not given. -/
def getD {α : Type} [Wire α] (members : Members) (name : String) (default : α) :
    Except Mismatch α :=
  match members.get? name with
  | some value => decode value
  | none => .ok default

/-- A member that may be absent. -/
def optional {α : Type} [Wire α] (members : Members) (name : String) :
    Except Mismatch (Option α) :=
  members.getD name none

/-- A member that may be absent among named ones, but not from a list. -/
def optionalNamed {α : Type} [Wire α] (members : Members) (name : String) :
    Except Mismatch (Option α) :=
  if members.positional then members.need name else members.optional name

end Members

/-- A member that is written in any case. -/
def field {α : Type} [Wire α] (name : String) (a : α) : List (String × Value) :=
  [(name, encode a)]

/-- A member that is written only where there is a value. -/
def fieldIfSome {α : Type} [Wire α] (name : String) : Option α → List (String × Value)
  | some a => field name a
  | none => []

/-- A member that is left out where its list is empty. -/
def fieldUnlessEmpty {α : Type} [Wire α] (name : String) : List α → List (String × Value)
  | [] => []
  | a :: rest => field name (a :: rest)

end ClusterKeeper
