import ClusterKeeper.Data.KeyMap
import ClusterKeeper.Data.Yaml.Node
import ClusterKeeper.Data.Yaml.Token
/-!
From tokens to documents.

A node may be left out where the next token shows that there is none: it is an empty bare word then.
Names for nodes are made labels. A text has one document at most.
-/

namespace ClusterKeeper.Yaml

/-- Where a reader of nodes stands. -/
structure Reading where
  tokens : List Token
  /-- The labels of names, each as last given. -/
  names : KeyMap Nat
  handles : Handles

/-- A reader of a part of a document. -/
abbrev Reader (α : Type) : Type := StateT Reading Option α

namespace Reader

/-- The next token. -/
def peek : Reader (Option Token) := return (← get).tokens.head?

/-- Goes on behind the next token. -/
def drop : Reader Unit := modify fun r => { r with tokens := r.tokens.drop 1 }

/-- Takes a token. -/
def take (token : Token) : Reader Unit := do
  if (← peek) == some token then drop else failure

/-- Whether the next token is one of some. -/
def atOneOf (tokens : List Token) : Reader Bool := return (← peek).any tokens.contains

/-- Takes a token, if it is the next. -/
def takeIf (token : Token) : Reader Bool := do
  if (← peek) == some token then drop; return true else return false

/-- The label of a name for the node that begins here: the number of names so far. -/
def newLabel (name : String) : Reader Nat := do
  let label := (← get).names.entries.length
  modify fun r => { r with names := r.names.insert name label }
  return label

/-- The label of a name that has been given. -/
def labelOf (name : String) : Reader Nat := do
  match (← get).names.get? name with
  | some label => return label
  | none => failure

def tagOf (name : TagName) : Reader Tag := do
  match name.resolve? (← get).handles with
  | some tag => return tag
  | none => failure

/-- The name of a node, if it is given one. -/
def anchor? : Reader (Option Nat) := do
  match ← peek with
  | some (.anchor name) => do
      drop
      return some (← newLabel name)
  | _ => return none

/-- The tag of a node, if it is given one. -/
def tag? : Reader (Option Tag) := do
  match ← peek with
  | some (.tag name) => do
      drop
      return some (← tagOf name)
  | _ => return none

/-- What stands before a node: its name and its tag, in either order. -/
def properties : Reader (Option Nat × Option Tag) := do
  match ← anchor? with
  | some label => return (some label, ← tag?)
  | none => do
      let tag ← tag?
      return (← if tag.isSome then anchor? else pure none, tag)

end Reader

open Reader

/-- A node that is not there. -/
def Node.nothing : Node := .scalar none none Scalar.nothing

/-- The kinds of nodes that may stand in a place. -/
inductive Place where
  /-- Inside brackets. -/
  | flow
  | block
  /-- The items of a sequence may be as deep as what it belongs to. -/
  | member
  deriving Repr, DecidableEq

mutual

/-- The node that begins here. -/
def Reader.node (place : Place) : Nat → Reader Node
  | 0 => failure
  | fuel + 1 => do
      if let some (.reference name) ← peek then
        drop
        return .reference (← labelOf name)
      let (label, tag) ← properties
      match ← peek with
      | some (.scalar scalar) => do
          drop
          return .scalar label tag scalar
      | some .openSequence => do
          drop
          return .sequence label tag (← flowItems true fuel)
      | some .openMapping => do
          drop
          return .mapping label tag (← flowMembers true fuel)
      | next =>
          if next == some .dash && place == .member then
            return .sequence label tag (← dashedItems fuel)
          else if next == some .blockSequence && place != .flow then do
            drop
            return .sequence label tag (← blockItems fuel)
          else if next == some .blockMapping && place != .flow then do
            drop
            return .mapping label tag (← blockMembers fuel)
          else if label.isSome || tag.isSome then return .scalar label tag Scalar.nothing
          else failure

/-- The node that begins here, or none before some tokens. -/
def Reader.nodeUnless (ends : List Token) (place : Place) : Nat → Reader Node
  | 0 => failure
  | fuel + 1 => do if ← atOneOf ends then return Node.nothing else node place fuel

/-- The items of a sequence of its own depth. -/
def Reader.blockItems : Nat → Reader (List Node)
  | 0 => failure
  | fuel + 1 => do
      if ← takeIf .dash then
        let item ← nodeUnless [.dash, .blockEnd] .block fuel
        return item :: (← blockItems fuel)
      else
        take .blockEnd
        return []

/-- The items of a sequence that is as deep as what it belongs to. -/
def Reader.dashedItems : Nat → Reader (List Node)
  | 0 => failure
  | fuel + 1 => do
      if ← takeIf .dash then
        let item ← nodeUnless [.dash, .key, .value, .blockEnd] .block fuel
        return item :: (← dashedItems fuel)
      else return []

/-- The members of a mapping outside brackets. -/
def Reader.blockMembers : Nat → Reader (List (Node × Node))
  | 0 => failure
  | fuel + 1 => do
      let part : Reader Node := nodeUnless [.key, .value, .blockEnd] .member fuel
      if ← takeIf .blockEnd then return []
      take .key
      let key ← part
      let value ← if ← takeIf .value then part else pure Node.nothing
      return (key, value) :: (← blockMembers fuel)

/-- The items of a sequence in brackets. One of them may be a key with its value, a mapping of one
member. -/
def Reader.flowItems (first : Bool) : Nat → Reader (List Node)
  | 0 => failure
  | fuel + 1 => do
      if ← takeIf .closeSequence then return []
      if !first then take .comma
      if ← takeIf .closeSequence then return []
      let ends : List Token := [.value, .comma, .closeSequence]
      let item ← if ← takeIf .key then do
          let key ← if ← atOneOf ends then do drop; pure Node.nothing else node .flow fuel
          let value ← if ← takeIf .value then nodeUnless [.comma, .closeSequence] .flow fuel
            else pure Node.nothing
          pure (.mapping none none [(key, value)])
        else node .flow fuel
      return item :: (← flowItems false fuel)

/-- The members of a mapping in brackets. -/
def Reader.flowMembers (first : Bool) : Nat → Reader (List (Node × Node))
  | 0 => failure
  | fuel + 1 => do
      if ← takeIf .closeMapping then return []
      if !first then take .comma
      if ← takeIf .closeMapping then return []
      let member ← if ← takeIf .key then do
          let key ← nodeUnless [.value, .comma, .closeMapping] .flow fuel
          let value ← if ← takeIf .value then nodeUnless [.comma, .closeMapping] .flow fuel
            else pure Node.nothing
          pure (key, value)
        else do pure (← node .flow fuel, Node.nothing)
      return member :: (← flowMembers false fuel)

end

/-- The versions of the language that are understood. -/
def isKnownVersion (major minor : Nat) : Bool := major == 1 && (minor == 1 || minor == 2)

/-- What the directives before a document say of handles, and the tokens behind them. The version is
given once at most, and so is each handle. -/
def directives? (versionGiven : Bool) (handles : Handles) :
    List Token → Option (Handles × List Token)
  | .directive (.version major minor) :: tokens =>
      if versionGiven || !isKnownVersion major minor then none
      else directives? true handles tokens
  | .directive (.handle name stem) :: tokens =>
      if (handles.lookup name).isSome then none
      else directives? versionGiven ((name, stem) :: handles) tokens
  | tokens => some (handles, tokens)

/-- Whether no node begins behind the mark that begins a document. -/
def isBlankDocument : List Token → Bool
  | [] => true
  | .directive _ :: _ => true
  | .documentStart :: _ => true
  | .documentEnd :: _ => true
  | _ => false

/-- The root of a document that begins with directives or with a mark. -/
def markedRoot (fuel : Nat) : Reader Node := do
  match directives? false [] (← get).tokens with
  | some (handles, .documentStart :: tokens) => do
      modify fun r => { r with tokens, handles := handles ++ Handles.standard }
      if isBlankDocument tokens then return Node.nothing else node .block fuel
  | _ => failure

/-- The root of a document that begins with some token. -/
def documentRoot (fuel : Nat) : Reader Node := do
  match ← peek with
  | some (.directive _) => markedRoot fuel
  | some .documentStart => markedRoot fuel
  | _ => node .block fuel

/-- A number of steps in which some tokens are read. -/
def stepsFor (tokens : List Token) : Nat := 2 * tokens.length + 2

/-- The one document of a text, which marks may end. -/
def Document.ofTokens? (tokens : List Token) : Option Document :=
  if tokens.isEmpty then some ⟨none⟩
  else do
    let (root, r) ← (documentRoot (stepsFor tokens)).run ⟨tokens, KeyMap.empty, Handles.standard⟩
    if r.tokens.all (· == .documentEnd) then return ⟨some root⟩ else failure

end ClusterKeeper.Yaml
