import ClusterKeeper.Resource.Metadata
import ClusterKeeper.Text.Base64
/-!
Secrets, as the API server stores them. Their data are octets, written in base64.
-/

namespace ClusterKeeper

/-- A sequence of octets. -/
structure Octets where
  toList : List UInt8
  deriving Repr, DecidableEq

instance : Formed Octets := ⟨.optional .text⟩

/-- Octets are written in base64; an absent value stands for none. -/
instance : Wire Octets where
  encode o := .text (Text.Base64.encode o.toList)
  decode v :=
    if v.isAbsent then .ok ⟨[]⟩
    else do
      let text : String ← decode v
      match Text.Base64.decode text with
      | .ok octets => .ok ⟨octets⟩
      | .error _ => .error (.expected "base64")

structure Secret where
  metadata : Metadata
  data : Option (KeyMap Octets)
  /-- Entries that are given as texts. They are for writing only: the server does not show them. -/
  stringData : Option (KeyMap String)
  type : Option String
  immutable : Option Bool
  deriving Repr, DecidableEq

namespace Secret

def apiVersion : String := "v1"

def kind : String := "Secret"

/-- The octets beside a key. -/
def entry? (secret : Secret) (key : String) : Option Octets :=
  secret.data.bind fun data => data.get? key

/-- Puts octets beside a key and leaves all else as it is. -/
def withEntry (secret : Secret) (key : String) (octets : Octets) : Secret :=
  { secret with data := some ((secret.data.getD KeyMap.empty).insert key octets) }

end Secret

/-- Whether each occurrence of a member, if there is any, is the given text. -/
def requireStoredText (members : List (String × Value)) (name wanted : String) :
    Except Mismatch Unit :=
  (members.filter fun m => m.1 == name).forM fun m => do
    let found : String ← decode m.2
    if found = wanted then .ok () else .error (.expected wanted)

def Secret.fields : Fields :=
  [fieldOf "apiVersion" String, fieldOf "kind" String, fieldOf "metadata" (Option Metadata),
   fieldOf "data" (Option (KeyMap Octets)), fieldOf "stringData" (Option (KeyMap String)),
   fieldOf "type" (Option String), fieldOf "immutable" (Option Bool)]

instance : Formed Secret := ⟨.record Secret.fields⟩

instance : Wire Secret where
  encode s := .object <|
    field "apiVersion" Secret.apiVersion ++ field "kind" Secret.kind ++
    fieldIfSome "data" s.data ++ fieldIfSome "immutable" s.immutable ++
    field "metadata" s.metadata ++ fieldIfSome "stringData" s.stringData ++
    fieldIfSome "type" s.type
  decode v := do
    let m ← storedMembers v
    requireStoredText m "apiVersion" Secret.apiVersion
    requireStoredText m "kind" Secret.kind
    return {
      metadata := (← storedMember m "metadata").getD Metadata.blank
      data := ← storedMember m "data"
      stringData := ← storedMember m "stringData"
      type := ← storedMember m "type"
      immutable := ← storedMember m "immutable" }

end ClusterKeeper
