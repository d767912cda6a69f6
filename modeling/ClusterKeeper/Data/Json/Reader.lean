import ClusterKeeper.Data.Json.Token
/-!
Reading JSON texts.

The reader takes one token at a time and keeps the lists and objects that are still open on a
stack, so it is a fold over the tokens and no depth of nesting is too much for it. Members keep
their order and repeated names stay.
-/

namespace ClusterKeeper.Json

/-- A list or object that is still open. -/
inductive Frame where
  /-- The items so far, last first. -/
  | list (items : List Value)
  /-- The members so far, last first; not legible once a name stands for no text. -/
  | object (members : List (String × Value)) (legible : Bool)
  /-- An object whose last member has a name but no value yet. -/
  | member (members : List (String × Value)) (legible : Bool) (name : Option String)

/-- What may come next. -/
inductive Wanted where
  | value
  | itemOrClose
  | name
  | nameOrClose
  | colon
  | commaOrClose
  deriving DecidableEq

/-- Where the reader stands: inside open frames, or behind the whole value. -/
inductive Reading where
  | inside (frames : List Frame) (wanted : Wanted)
  | complete (v : Value)

/-- A finished value goes into the innermost open frame. -/
def place (v : Value) : List Frame → Option Reading
  | [] => some (.complete v)
  | .list items :: frames => some (.inside (.list (v :: items) :: frames) .commaOrClose)
  | .member members legible name :: frames =>
      match name with
      | some name =>
          some (.inside (.object ((name, v) :: members) legible :: frames) .commaOrClose)
      | none => some (.inside (.object members false :: frames) .commaOrClose)
  | .object _ _ :: _ => none

/-- Where a value may begin: the tokens that begin one. -/
def beginValue (frames : List Frame) : Token → Option Reading
  | .openList => some (.inside (.list [] :: frames) .itemOrClose)
  | .openObject => some (.inside (.object [] true :: frames) .nameOrClose)
  | .text (some s) => place (.text s) frames
  | .text none => place .illegible frames
  | .scalar v => place v frames
  | _ => none

/-- A name inside the innermost frame, which is an object. -/
def beginMember (name : Option String) : List Frame → Option Reading
  | .object members legible :: frames =>
      some (.inside (.member members legible name :: frames) .colon)
  | _ => none

/-- The end of the innermost frame, if the token closes its kind. -/
def close : Token → List Frame → Option Reading
  | .closeList, .list items :: frames => place (.list items.reverse) frames
  | .closeObject, .object members legible :: frames =>
      place (if legible then .object members.reverse else .illegible) frames
  | _, _ => none

/-- A comma inside the innermost frame. -/
def afterComma : List Frame → Option Reading
  | .list items :: frames => some (.inside (.list items :: frames) .value)
  | .object members legible :: frames => some (.inside (.object members legible :: frames) .name)
  | _ => none

/-- One token. -/
def advance : Reading → Token → Option Reading
  | .complete _, _ => none
  | .inside frames .value, token => beginValue frames token
  | .inside frames .itemOrClose, .closeList => close .closeList frames
  | .inside frames .itemOrClose, token => beginValue frames token
  | .inside frames .nameOrClose, .closeObject => close .closeObject frames
  | .inside frames .nameOrClose, .text name => beginMember name frames
  | .inside _ .nameOrClose, _ => none
  | .inside frames .name, .text name => beginMember name frames
  | .inside _ .name, _ => none
  | .inside frames .colon, .colon => some (.inside frames .value)
  | .inside _ .colon, _ => none
  | .inside frames .commaOrClose, .comma => afterComma frames
  | .inside frames .commaOrClose, token => close token frames

/-- The value of a JSON text. -/
def readChars? (text : List Char) : Option Value := do
  let tokens ← tokens? text
  match ← tokens.foldlM advance (.inside [] .value) with
  | .complete v => some v
  | .inside _ _ => none

/-- The value of a JSON text. -/
def read (text : String) : Except Mismatch Value :=
  match readChars? text.toList with
  | some v => .ok v
  | none => .error (.unreadable "JSON")

end ClusterKeeper.Json
