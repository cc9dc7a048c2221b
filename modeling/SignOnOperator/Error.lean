import SignOnOperator.Text.Quoted
import SignOnOperator.Time.Duration
/-!
# Errors

Why something the operator attempted did not work, what it says to a person, and which of these are worth another
attempt.
-/
namespace SignOnOperator

/-- What the cluster answers to a request that it refuses. -/
structure Refusal where
  status : String
  message : String
  reason : String
  code : Nat
  deriving DecidableEq, Repr

namespace Refusal

/-- All parts of the answer. -/
def describe (r : Refusal) : String :=
  s!"{r.message}: {r.reason} (ErrorResponse \x7b status: {Text.quoted r.status}, message: {Text.quoted r.message}, " ++
    s!"reason: {Text.quoted r.reason}, code: {r.code} \x7d)"

/-- The reasons the cluster gives for conditions that clear up on their own. -/
def transientReasons : List String := ["Timeout", "ServerTimeout", "TooManyRequests", "InternalError"]

/-- Whether the condition clears up on its own. -/
def isTransient (r : Refusal) : Bool :=
  r.code = 429 || r.code = 500 || r.code = 504 || transientReasons.contains r.reason

end Refusal

/-- A call of the cluster that did not work: it was refused, its answer could not be read, or no request could be made
of it. -/
inductive ClusterError where
  | refused (refusal : Refusal)
  | unreadable (message : String)
  | unsendable (message : String)
  deriving DecidableEq, Repr

def ClusterError.message : ClusterError → String
  | refused refusal => "ApiError: " ++ refusal.describe
  | unreadable message => "Error deserializing response: " ++ message
  | unsendable message => "Failed to build request: " ++ message

/-- The status codes of gRPC. -/
inductive GrpcCode where
  | ok | cancelled | unknown | invalidArgument | deadlineExceeded | notFound | alreadyExists | permissionDenied
  | resourceExhausted | failedPrecondition | aborted | outOfRange | unimplemented | internal | unavailable | dataLoss
  | unauthenticated
  deriving DecidableEq, Repr

namespace GrpcCode

/-- The codes in the order of their numbers. -/
def all : List GrpcCode :=
  [ok, cancelled, unknown, invalidArgument, deadlineExceeded, notFound, alreadyExists, permissionDenied,
    resourceExhausted, failedPrecondition, aborted, outOfRange, unimplemented, internal, unavailable, dataLoss,
    unauthenticated]

/-- The code of a number; `unknown` for a number that has none. -/
def ofNumber (n : Nat) : GrpcCode := all.getD n unknown

def describe : GrpcCode → String
  | ok => "Ok"
  | cancelled => "Cancelled"
  | unknown => "Unknown"
  | invalidArgument => "InvalidArgument"
  | deadlineExceeded => "DeadlineExceeded"
  | notFound => "NotFound"
  | alreadyExists => "AlreadyExists"
  | permissionDenied => "PermissionDenied"
  | resourceExhausted => "ResourceExhausted"
  | failedPrecondition => "FailedPrecondition"
  | aborted => "Aborted"
  | outOfRange => "OutOfRange"
  | unimplemented => "Unimplemented"
  | internal => "Internal"
  | unavailable => "Unavailable"
  | dataLoss => "DataLoss"
  | unauthenticated => "Unauthenticated"

end GrpcCode

/-- The status that ends a call of the identity provider, with the headers that came along. -/
structure GrpcStatus where
  code : GrpcCode
  message : String
  headers : List (String × String) := []
  deriving DecidableEq, Repr

def GrpcStatus.describe (s : GrpcStatus) : String :=
  let headers := ", ".intercalate (s.headers.map fun h => s!"{Text.quoted h.1}: {Text.quoted h.2}")
  s!"status: {s.code.describe}, message: {Text.quoted s.message}, details: [], " ++
    s!"metadata: MetadataMap \x7b headers: \x7b{headers}\x7d \x7d"

/-- Why something did not work. -/
inductive Error where
  | cluster (cause : ClusterError)
  | serialization (message : String)
  | yaml (message : String)
  | template (message : String)
  | dex (status : GrpcStatus)
  | dexTransport (message : String)
  | io (message : String)
  | clientAlreadyExists (id : String)
  | clientNotFound (id : String)
  | serviceNotFound (namespaceName name : String)
  | ingressNotFound (namespaceName name : String)
  | noIngressHosts (namespaceName name : String)
  | clusterRoleBindingNotFound (clusterRole : String)
  | proxyConfig (message : String)
  | timeout (what : String) (limit : Duration)
  | waitFailed (what reason : String)
  | operatorSecret (message : String)
  | config (message : String)
  | missingNamespace (resource : String)
  | pipeline (step namespaceName name : String) (source : Error)
  deriving DecidableEq, Repr, Inhabited

namespace Error

def message : Error → String
  | cluster cause => s!"Kubernetes API error: {cause.message}"
  | serialization message => s!"Serialization error: {message}"
  | yaml message => s!"YAML serialization error: {message}"
  | template message => s!"Template error: invalid operation: {message}"
  | dex status => s!"Dex gRPC error: {status.describe}"
  | dexTransport message => s!"Dex transport error: {message}"
  | io message => s!"IO error: {message}"
  | clientAlreadyExists id => s!"OIDC client already exists: {id}"
  | clientNotFound id => s!"OIDC client not found: {id}"
  | serviceNotFound ns name => s!"Service not found: {ns}/{name}"
  | ingressNotFound ns name => s!"Ingress not found: {ns}/{name}"
  | noIngressHosts ns name => s!"No ingress hosts found for {ns}/{name}"
  | clusterRoleBindingNotFound role =>
    s!"No cluster role binding found for cluster role '{role}', make sure one exists when deploying the operator"
  | proxyConfig message => s!"Invalid proxy configuration: {message}"
  | timeout what limit => s!"Timed out after {limit.describe} waiting for {what}"
  | waitFailed what reason => s!"{what} failed: {reason}"
  | operatorSecret message => s!"Operator secret error: {message}"
  | config message => s!"Invalid configuration: {message}"
  | missingNamespace resource => s!"Resource {resource} has no namespace"
  | pipeline step ns name source => s!"Failed {step} for SSO {ns}/{name}: {source.message}"

/-- Whether another attempt soon is worth while. -/
def isRetryable : Error → Bool
  | pipeline _ _ _ source => source.isRetryable
  | cluster _ | dex _ | dexTransport _ | timeout _ _ | serviceNotFound _ _ | ingressNotFound _ _
  | noIngressHosts _ _ => true
  | _ => false

/-- Whether a look-up failed for a reason that clears up on its own. -/
def isTransient : Error → Bool
  | cluster (.refused refusal) => refusal.isTransient
  | _ => false

def isNotFound : Error → Bool
  | cluster (.refused refusal) => refusal.code = 404
  | _ => false

def isConflict : Error → Bool
  | cluster (.refused refusal) => refusal.code = 409
  | _ => false

end Error

/-- When the next attempt takes place: at the next change, or after a while. -/
inductive Followup where
  | awaitChange
  | requeue (delay : Duration)
  deriving DecidableEq, Repr

/-- An error that is worth another attempt gets one soon, any other late. -/
def Error.followup (e : Error) : Followup :=
  .requeue (if e.isRetryable then .ofSeconds 10 else .ofSeconds 300)

end SignOnOperator
