import ClusterKeeper.Data.KeyMap
import ClusterKeeper.Time.Binary64
/-!
Structured values, as documents hold them and as typed data is written.

A literal of a document may be well formed without standing for any value. Values written by this
library are of the other kinds only.
-/

namespace ClusterKeeper

/-- A structured value. -/
inductive Value where
  | null
  | bool (b : Bool)
  | int (n : Int)
  /-- A number that is not written as an integer: `mantissa * 10 ^ exponent`. -/
  | decimal (mantissa exponent : Int)
  | text (s : String)
  /-- A well-formed literal that stands for no value, such as half a surrogate pair. -/
  | illegible
  | list (items : List Value)
  /-- Members in document order; names may repeat. -/
  | object (members : List (String × Value))
  deriving Repr, Inhabited

/-- Why a value is not of the type wanted. -/
inductive Mismatch where
  | expected (what : String)
  | missing (field : String)
  | repeated (field : String)
  | surplus (fields : Nat)
  | unreadable (format : String)
  deriving Repr, DecidableEq

/-- The wording of a mismatch. -/
def Mismatch.message : Mismatch → String
  | .expected what => s!"expected {what}"
  | .missing field => s!"missing field '{field}'"
  | .repeated field => s!"duplicate field '{field}'"
  | .surplus fields => s!"more than {fields} fields"
  | .unreadable format => s!"not a {format} document"

namespace Value

/-- Whether the value stands for an absent one. -/
def isAbsent : Value → Bool
  | .null => true
  | _ => false

/-- The last member of that name. -/
def member? (name : String) : Value → Option Value
  | .object members => (members.reverse.find? fun m => m.1 == name).map (·.2)
  | _ => none

def memberOrNull (name : String) (value : Value) : Value := (value.member? name).getD .null

/-- Whether a number is none that rounds to an infinity. -/
def isFinite : Value → Bool
  | .decimal mantissa exponent =>
      match Binary64.ofDecimal mantissa exponent with
      | .finite _ => true
      | _ => false
  | _ => true

mutual

/-- Whether two values are the same, members in the same order. -/
def same : Value → Value → Bool
  | .null, .null => true
  | .bool b, .bool c => b == c
  | .int n, .int m => n == m
  | .decimal mantissa exponent, .decimal mantissa' exponent' =>
      mantissa == mantissa' && exponent == exponent'
  | .text s, .text t => s == t
  | .illegible, .illegible => true
  | .list items, .list items' => sameItems items items'
  | .object members, .object members' => sameMembers members members'
  | _, _ => false

/-- Whether two lists hold the same values. -/
def sameItems : List Value → List Value → Bool
  | [], [] => true
  | v :: rest, v' :: rest' => same v v' && sameItems rest rest'
  | _, _ => false

/-- Whether two lists hold the same members. -/
def sameMembers : List (String × Value) → List (String × Value) → Bool
  | [], [] => true
  | (name, v) :: rest, (name', v') :: rest' =>
      name == name' && (same v v' && sameMembers rest rest')
  | _, _ => false

end

-- Equality of a type that occurs in lists of itself is not derived.
mutual

theorem same_iff (v w : Value) : same v w = true ↔ v = w := by
  cases v with
  | list items => cases w <;> simp [same, sameItems_iff items]
  | object members => cases w <;> simp [same, sameMembers_iff members]
  | _ => cases w <;> simp [same]

theorem sameItems_iff (items items' : List Value) :
    sameItems items items' = true ↔ items = items' := by
  cases items with
  | nil => cases items' <;> simp [sameItems]
  | cons v rest => cases items' <;> simp [sameItems, same_iff v, sameItems_iff rest]

theorem sameMembers_iff (members members' : List (String × Value)) :
    sameMembers members members' = true ↔ members = members' := by
  cases members with
  | nil => cases members' <;> simp [sameMembers]
  | cons m rest =>
      obtain ⟨name, v⟩ := m
      cases members' <;>
        simp [sameMembers, same_iff v, sameMembers_iff rest, Prod.ext_iff, and_assoc]

end

instance : DecidableEq Value := fun v w => decidable_of_iff _ (same_iff v w)

end Value

/-- Whether no name occurs twice; otherwise the first that does. -/
def firstRepeated? : List String → Option String
  | [] => none
  | name :: rest => if rest.contains name then some name else firstRepeated? rest

theorem firstRepeated?_eq_none_iff {names : List String} :
    firstRepeated? names = none ↔ names.Nodup := by
  induction names with
  | nil => simp [firstRepeated?]
  | cons name rest ih =>
      by_cases h : name ∈ rest <;> simp [firstRepeated?, h, ih]

end ClusterKeeper
