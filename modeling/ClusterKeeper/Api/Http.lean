import ClusterKeeper.Data.Json.Printer
import ClusterKeeper.Data.Json.Reader
import ClusterKeeper.Data.Wire
import ClusterKeeper.Dialogue
import ClusterKeeper.Fault
import ClusterKeeper.Text.Quoted
/-!
Requests to the API server and its responses.

A response with a status from 400 to 599 is a refusal, described by its body if that has the form,
and by itself otherwise. The body of any other response must be of the kind that was asked for. A
request may also be left without a response.
-/

namespace ClusterKeeper.Api

/-- What a request does with its target. -/
inductive Method where
  | get
  | post
  | put
  | patch
  deriving Repr, DecidableEq

/-- The name of a method in requests. -/
def Method.name : Method → String
  | get => "GET"
  | post => "POST"
  | put => "PUT"
  | patch => "PATCH"

/-- The forms of a body. -/
inductive ContentType where
  | json
  /-- All fields that the sender manages. -/
  | applyPatch
  /-- The fields that change. -/
  | mergePatch
  deriving Repr, DecidableEq

/-- The name of a form in requests. -/
def ContentType.name : ContentType → String
  | json => "application/json"
  | applyPatch => "application/apply-patch+yaml"
  | mergePatch => "application/merge-patch+json"

structure Request where
  method : Method
  /-- The path with its query. -/
  target : String
  content : Option (ContentType × Value)
  deriving Repr

structure Response where
  status : UInt16
  body : String
  deriving Repr, DecidableEq

/-- What comes of a request that is sent. -/
inductive Delivery where
  | answered (response : Response)
  /-- No response came, whether the request was carried out or not. -/
  | lost (reason : String)
  deriving Repr, DecidableEq

/-- Requests that may end in a fault. -/
abbrev Client (α : Type) : Type := ExceptT Fault (Dialogue Request fun _ => Delivery) α

/-! ### Targets -/

/-- Whether a character may stand in a path. -/
def isPathChar (c : Char) : Bool :=
  let n := c.toNat
  n == 0x21 || n == 0x22 || (0x24 ≤ n && n ≤ 0x3B) || n == 0x3D || (0x40 ≤ n && n ≤ 0x5F) || 0x61 ≤ n

/-- Whether a character may stand in a query. -/
def isQueryChar (c : Char) : Bool :=
  let n := c.toNat
  n == 0x21 || (0x24 ≤ n && n ≤ 0x3B) || n == 0x3D || 0x3F ≤ n

/-- The query up to the mark of a fragment. -/
def queryChars? : List Char → Option (List Char)
  | [] => some []
  | c :: rest =>
      if c == '#' then some []
      else if isQueryChar c then (queryChars? rest).map (c :: ·)
      else none

/-- The path and query up to the mark of a fragment. -/
def targetChars? : List Char → Option (List Char)
  | [] => some []
  | c :: rest =>
      if c == '#' then some []
      else if c == '?' then (queryChars? rest).map (c :: ·)
      else if isPathChar c then (targetChars? rest).map (c :: ·)
      else none

/-- The greatest length of a target, in octets. -/
def longestTarget : Nat := 65534

/-- What is sent as the target, if a text is one. -/
def target? (text : String) : Option String :=
  if longestTarget < text.utf8ByteSize then none
  else (targetChars? text.toList).map String.ofList

/-! ### Refusals -/

/-- The standard phrases of statuses from 400 to 599. -/
def phrases : List (Nat × String) :=
  [(400, "Bad Request"), (401, "Unauthorized"), (402, "Payment Required"), (403, "Forbidden"),
   (404, "Not Found"), (405, "Method Not Allowed"), (406, "Not Acceptable"),
   (407, "Proxy Authentication Required"), (408, "Request Timeout"), (409, "Conflict"),
   (410, "Gone"), (411, "Length Required"), (412, "Precondition Failed"),
   (413, "Payload Too Large"), (414, "URI Too Long"), (415, "Unsupported Media Type"),
   (416, "Range Not Satisfiable"), (417, "Expectation Failed"), (418, "I'm a teapot"),
   (421, "Misdirected Request"), (422, "Unprocessable Entity"), (423, "Locked"),
   (424, "Failed Dependency"), (425, "Too Early"), (426, "Upgrade Required"),
   (428, "Precondition Required"), (429, "Too Many Requests"),
   (431, "Request Header Fields Too Large"), (451, "Unavailable For Legal Reasons"),
   (500, "Internal Server Error"), (501, "Not Implemented"), (502, "Bad Gateway"),
   (503, "Service Unavailable"), (504, "Gateway Timeout"), (505, "HTTP Version Not Supported"),
   (506, "Variant Also Negotiates"), (507, "Insufficient Storage"), (508, "Loop Detected"),
   (510, "Not Extended"), (511, "Network Authentication Required")]

def phrase (status : UInt16) : String :=
  (phrases.lookup status.toNat).getD "<unknown status code>"

def statusText (status : UInt16) : String := s!"{status.toNat} {phrase status}"

instance : Wire Refusal where
  encode r := .object <|
    field "status" r.status ++ field "message" r.message ++ field "reason" r.reason ++
    field "code" r.code
  decode v := do
    let m ← Members.ofValue ["status", "message", "reason", "code"] v
    return {
      status := ← m.need "status"
      message := ← m.getD "message" ""
      reason := ← m.getD "reason" ""
      code := ← m.need "code" }

namespace Response

/-- Whether the server did not carry the request out. -/
def isRefusal (r : Response) : Bool := 400 ≤ r.status.toNat && r.status.toNat < 600

/-- The refusal of a response whose body does not describe one. -/
def plainRefusal (r : Response) : Refusal where
  status := statusText r.status
  message := Text.quoted r.body
  reason := "Failed to parse error data"
  code := r.status

/-- The refusal that a response describes. -/
def refusal (r : Response) : Refusal :=
  match (Json.read r.body).bind decode with
  | .ok refusal => refusal
  | .error _ => r.plainRefusal

/-- What a response answers to a request for a value. -/
def answer {α : Type} [Wire α] (r : Response) : Except ApiFault α :=
  if r.isRefusal then .error (.refused r.refusal)
  else ((Json.read r.body).bind decode).mapError fun mismatch => .unreadable mismatch.message

end Response

/-- What is learnt from a request for a value. -/
def Delivery.answer {α : Type} [Wire α] : Delivery → Except ApiFault α
  | .answered response => response.answer
  | .lost reason => .error (.transport reason)

/-! ### Requests -/

/-- Sends a request and reads the answer. -/
def send {α : Type} [Wire α] (request : Request) : Client α :=
  match target? request.target with
  | none => throw (.api (.unbuildable "invalid target"))
  | some target => do
      let delivery : Delivery ← ExceptT.lift (.question { request with target })
      liftExcept (delivery.answer.mapError Fault.api)

/-- Goes on with a request for a named thing; a name must not be empty. -/
def named {α : Type} (name : String) (request : Client α) : Client α :=
  if name.isEmpty then throw (.api (.unbuildable "empty name")) else request

/-- What is there, if it is there: nothing where the server says that there is no such thing. -/
def orAbsent {α : Type} (request : Client α) : Client (Option α) :=
  ExceptT.mk do
    match ← request.run with
    | .ok a => return .ok (some a)
    | .error (.api (.refused r)) =>
        if r.isNotFound then return .ok none else return .error (.api (.refused r))
    | .error fault => return .error fault

end ClusterKeeper.Api
