import ClusterKeeper.Data.Form
import ClusterKeeper.Data.Value
import ClusterKeeper.Data.Yaml.Document
import ClusterKeeper.Data.Yaml.Lexer
import ClusterKeeper.Data.Yaml.Word
/-!
Reading YAML texts as values of a form.

A scalar is what the form of its place makes of it: any scalar is a text, bare words are booleans
and integers, and for optional values some of them stand for none. Nothing at all is an empty
collection. Tags count for the typed literal blocks, for optional values and for choices, and where
anything may stand. What a record has besides its fields is not looked at. References may be
followed a limited number of times.
-/

namespace ClusterKeeper.Yaml

/-- What is read, and what references stand for. -/
structure Source where
  targets : List (Nat × Node)
  deriving Inhabited

/-- A reader of a node: how many references may still be followed is its state. -/
abbrev Interpretation (α : Type) : Type := ReaderT Source (StateT Nat (Except Mismatch)) α

namespace Interpretation

/-- Refuses a node. -/
def refuse {α : Type} (what : String) : Interpretation α :=
  fun _ _ => .error (.expected what)

/-- The node that a reference stands for. -/
def follow (label : Nat) : Interpretation Node := fun source left =>
  match left, source.targets.lookup label with
  | left + 1, some node => .ok (node, left)
  | _, _ => .error (.unreadable "YAML")

/-- A node, in the place of a reference to it. -/
def resolve (node : Node) : Interpretation Node :=
  match node with
  | .reference label => follow label
  | node => return node

end Interpretation

open Interpretation

/-- Whether a scalar is written without quotes, or as a literal block with the tag of a type. -/
def isTyped (type : String) (tag : Option Tag) (s : Scalar) : Bool :=
  s.style == .plain || (s.style == .literal && tag == some (Tag.common type))

/-- Whether a scalar is there at all. -/
def Scalar.isNothing (s : Scalar) : Bool := s == Scalar.nothing

/-- The text of a scalar. -/
def textOf : Node → Interpretation String
  | .scalar _ _ s => return s.text
  | _ => refuse "a string"

def boolOf : Node → Interpretation Value
  | .scalar _ tag s =>
      match if isTyped "bool" tag s then wordBool? s.text else none with
      | some b => return .bool b
      | none => refuse "a boolean"
  | _ => refuse "a boolean"

def integerOf (signed : Bool) : Node → Interpretation Value
  | .scalar _ tag s =>
      match if isTyped "int" tag s then wordInt? signed s.text else none with
      | some n => return .int n
      | none => refuse "an integer"
  | _ => refuse "an integer"

/-- One of some names: the text of a scalar, or a local tag of one that stands for nothing. -/
def choiceOf : Node → Interpretation Value
  | .scalar _ tag s =>
      match tag.bind Tag.localName? with
      | some name =>
          if s.style == .plain && (s.text.isEmpty || isNullWord s.text) then return .text name
          else refuse "a name without a value"
      | none => return .text s.text
  | _ => refuse "a name"

/-- Whether a node stands for no value. A word with the tag of none must be a word for none. -/
def isAbsent : Node → Interpretation Bool
  | .scalar _ tag s =>
      if s.style != .plain then return false
      else match tag with
        | none => return s.text.isEmpty || isNullWord s.text
        | some tag =>
            if tag != Tag.common "null" then return false
            else if isNullWord s.text then return true
            else refuse "null"
  | _ => return false

/-- The items of a sequence. -/
def itemsOf : Node → Interpretation (List Node)
  | .sequence _ _ items => return items
  | .scalar _ _ s => if s.isNothing then return [] else refuse "a sequence"
  | _ => refuse "a sequence"

/-- The members of a mapping. -/
def membersOf : Node → Interpretation (List (Node × Node))
  | .mapping _ _ members => return members
  | .scalar _ _ s => if s.isNothing then return [] else refuse "a mapping"
  | _ => refuse "a mapping"

/-- What a bare word stands for where anything may stand: what it spells, or else its text. -/
def wordOf (word : String) : Interpretation Value :=
  if word.isEmpty || isNullWord word then return .null
  else match wordBool? word, wordInt? true word with
    | some b, _ => return .bool b
    | none, some n =>
        if Json.isWide n then return .int n
        else if isHuge n then return (wordDecimal? word).getD (.text word)
        else refuse "an integer of 64 binary digits"
    | none, none =>
        if isZeroLed word then return .text word
        else return (wordDecimal? word).getD (.text word)

/-- What a scalar with a tag stands for where anything may stand. The tags of the common types say
what the scalar must spell; a local tag would name a choice, of which there is none. -/
def taggedOf (tag : Tag) (text : String) : Interpretation Value :=
  if tag.localName?.isSome then refuse "a value without a name"
  else if tag == Tag.common "bool" then
    match wordBool? text with
    | some b => return .bool b
    | none => refuse "a boolean"
  else if tag == Tag.common "int" then
    match (wordInt? true text).filter Json.isWide with
    | some n => return .int n
    | none => refuse "an integer"
  else if tag == Tag.common "float" then
    match wordDecimal? text with
    | some number => return number
    | none => refuse "a number"
  else if tag == Tag.common "null" then
    if isNullWord text then return .null else refuse "null"
  else return .text text

/-- The value that a scalar stands for where anything may stand. -/
def scalarOf (tag : Option Tag) (s : Scalar) : Interpretation Value :=
  match tag with
  | some tag => taggedOf tag s.text
  | none => if s.style == .plain then wordOf s.text else return .text s.text

/-- Refuses the tag of a choice. -/
def checkNameless (tag : Option Tag) : Interpretation Unit :=
  if (tag.bind Tag.localName?).isSome then refuse "a value without a name" else return ()

/-- The value that a node stands for where anything may stand. Collections may be nested `depth`
deep. -/
def valueOf (depth : Nat) (node : Node) : Interpretation Value := do
  match depth, ← resolve node with
  | _, .scalar _ tag s => scalarOf tag s
  | depth + 1, .sequence _ tag items => do
      checkNameless tag
      return .list (← items.mapM (valueOf depth))
  | depth + 1, .mapping _ tag members => do
      checkNameless tag
      return .object (← members.mapM fun (key, value) => do
        return (← textOf (← resolve key), ← valueOf depth value))
  | _, _ => refuse "a value of fewer levels"

/-- How deep collections may be nested in a document. -/
def deepest : Nat := 128

mutual

/-- The value of a form that a node stands for. -/
def interpret : Form → Node → Interpretation Value
  | .bool, node => do boolOf (← resolve node)
  | .integer signed, node => do integerOf signed (← resolve node)
  | .text, node => do return .text (← textOf (← resolve node))
  | .choice, node => do choiceOf (← resolve node)
  | .optional form, node => do
      let node ← resolve node
      if ← isAbsent node then return .null else interpret form node
  | .list items, node => do
      let nodes ← itemsOf (← resolve node)
      return .list (← nodes.mapM (interpret items))
  | .map values, node => do
      let members ← membersOf (← resolve node)
      return .object (← members.mapM fun (key, value) => do
        return (← textOf (← resolve key), ← interpret values value))
  | .record fields, node => do
      let members ← membersOf (← resolve node)
      return .object (← members.filterMapM fun (key, value) => do
        let name ← textOf (← resolve key)
        interpretField fields name value)
  | .any, node => valueOf deepest node

/-- The member of that name, if it is a field. -/
def interpretField : List (String × Form) → String → Node → Interpretation (Option (String × Value))
  | [], _, _ => return none
  | (field, form) :: fields, name, value =>
      if field == name then do return some (name, ← interpret form value)
      else interpretField fields name value

end

/-- What stands in an empty document: nothing, unless a scalar is wanted. -/
def nothingOf : Form → Except Mismatch Value
  | .optional _ => .ok .null
  | .list _ => .ok (.list [])
  | .map _ => .ok (.object [])
  | .record _ => .ok (.object [])
  | .any => .ok .null
  | _ => .error (.expected "a document that is not empty")

/-- How many references may be followed for each part of a document. -/
def referencesPerPart : Nat := 100

/-- The value of a form that a document stands for. -/
def Document.interpret (form : Form) (document : Document) : Except Mismatch Value :=
  match document.root with
  | none => nothingOf form
  | some root =>
      (((Yaml.interpret form root).run ⟨document.targets⟩).run
        (referencesPerPart * document.size)).map (·.1)

/-- The document that a text holds. -/
def document? (text : String) : Option Document := do
  Document.ofTokens? (← tokens? (← glyphs? text.toList))

/-- The value of a form that a text stands for. -/
def read (form : Form) (text : String) : Except Mismatch Value :=
  match document? text with
  | some document => document.interpret form
  | none => .error (.unreadable "YAML")

end ClusterKeeper.Yaml
