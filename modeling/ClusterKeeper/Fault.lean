import ClusterKeeper.Text.Quoted
/-!
What can go wrong: failed calls of the provider, refusals of the API server, and faults of a pass.

Faults are told apart by cause; each has one wording.
-/

namespace ClusterKeeper

/-- A failed call of the provider. -/
inductive ProviderFault where
  /-- The provider has no such thing. -/
  | notFound
  /-- The thing exists but is not available yet. -/
  | notAvailable
  /-- The provider refused the request. -/
  | refused (status : UInt16) (message : String)
  /-- The request did not reach the provider. -/
  | transport (reason : String)
  deriving Repr, DecidableEq

namespace ProviderFault

/-- The fault behind an unsuccessful response of the provider. -/
def ofStatus (status : UInt16) (message : String) : ProviderFault :=
  if status = 404 then .notFound
  else if status = 503 then .notAvailable
  else .refused status message

/-- The wording of a failed call. -/
def message : ProviderFault → String
  | .notFound => "resource not found"
  | .notAvailable => "resource not available yet"
  | .refused status message => s!"API error ({status.toNat}): {message}"
  | .transport reason => s!"transport error: {reason}"

end ProviderFault

/-- How the API server describes a request that it did not carry out. -/
structure Refusal where
  status : String
  message : String
  reason : String
  code : UInt16
  deriving Repr, DecidableEq

namespace Refusal

/-- The reason given for a thing that does not exist. -/
def notFoundReason : String := "NotFound"

/-- Whether the server says that there is no such thing. -/
def isNotFound (r : Refusal) : Bool := r.reason == notFoundReason

/-- The refusal with all its parts. -/
def describe (r : Refusal) : String :=
  s!"ApiError: {r.message}: {r.reason} (ErrorResponse \x7b status: {Text.quoted r.status}, " ++
  s!"message: {Text.quoted r.message}, reason: {Text.quoted r.reason}, code: {r.code.toNat} \x7d)"

end Refusal

/-- A request to the API server that failed. -/
inductive ApiFault where
  /-- The server answered and did not carry the request out. -/
  | refused (r : Refusal)
  /-- The request could not be built. -/
  | unbuildable (reason : String)
  /-- The server's answer is not of the kind that was asked for. -/
  | unreadable (reason : String)
  /-- No answer came. The request may have been carried out all the same. -/
  | transport (reason : String)
  deriving Repr, DecidableEq

namespace ApiFault

/-- The wording of a failed request. -/
def message : ApiFault → String
  | .refused r => r.describe
  | .unbuildable reason => s!"Error building request: {reason}"
  | .unreadable reason => s!"Error deserializing response: {reason}"
  | .transport reason => s!"ServiceError: {reason}"

end ApiFault

/-- What ends a pass before it is through. -/
inductive Fault where
  | api (cause : ApiFault)
  /-- A call of the provider failed during an operation. -/
  | provider (operation : String) (cause : ProviderFault)
  | invalidVersion (version reason : String)
  /-- A cluster is to be deleted that was never recorded. -/
  | noClusterId (name : String)
  | validation (reason : String)
  | serialization (reason : String)
  /-- The pass was told to stop. -/
  | cancelled
  deriving Repr, DecidableEq

namespace Fault

/-- The wording of a fault. -/
def message : Fault → String
  | .api cause => s!"kubernetes error: {cause.message}"
  | .provider operation cause => s!"gateway error during {operation}: {cause.message}"
  | .invalidVersion version reason => s!"invalid LKE version {Text.quoted version}: {reason}"
  | .noClusterId name => s!"no cluster ID recorded for {name}"
  | .validation reason => s!"validation error: {reason}"
  | .serialization reason => s!"serialization error: {reason}"
  | .cancelled => "reconciliation cancelled"

end Fault

end ClusterKeeper
