import SignOnOperator.Error
import SignOnOperator.Kubernetes.Metadata
/-!
# The SSO resource

An `Sso` asks for one upstream service to be put behind a proxy that signs users on.  Its status says whether that was
done and under which client of the identity provider.
-/
namespace SignOnOperator

open Kubernetes (ObjectMeta)

/-- Amounts of computing resources. -/
structure ResourceSpec where
  cpu : Option String := none
  memory : Option String := none
  deriving DecidableEq, Repr

/-- What the proxy may use at most, and what it is to get. -/
structure ProxyResources where
  limits : Option ResourceSpec := none
  requests : Option ResourceSpec := none
  deriving DecidableEq, Repr

/-- The session cookie of the proxy. -/
structure CookieSpec where
  name : String := ""
  expire : String := ""
  refresh : String := ""
  secure : Bool := false
  httpOnly : Bool := false
  deriving DecidableEq, Repr

structure SsoSpec where
  oidcIssuerUrl : String
  upstreamService : String
  domain : String := ""
  certIssuerName : String := ""
  proxyImage : String
  proxyImageTag : String
  proxyResources : ProxyResources := {}
  forwardToken : Bool := false
  cookieSpec : CookieSpec := {}
  skipExposeService : Bool := false
  urlTemplate : Option String := none
  deriving DecidableEq, Repr

structure SsoStatus where
  clientId : Option String := none
  initialized : Bool := false
  deriving DecidableEq, Repr

structure Sso where
  metadata : ObjectMeta
  spec : SsoSpec
  status : Option SsoStatus := none

namespace Sso

def apiVersion : String := "jenkins.io/v1"

def kind : String := "SSO"

def name (sso : Sso) : String := sso.metadata.nameAny

/-- Whether provisioning has come to its end. -/
def isInitialized (sso : Sso) : Bool := sso.status.any (·.initialized)

/-- The client of the identity provider that belongs to the resource. -/
def clientId? (sso : Sso) : Option String := sso.status.bind (·.clientId)

/-- The namespace, which a stored resource always has. -/
def requireNamespace (sso : Sso) : Except Error String :=
  match sso.metadata.namespaceName with
  | some ns => .ok ns
  | none => .error (.missingNamespace sso.name)

/-- The reference by which objects name the resource as their owner; it needs a name and an identity. -/
def ownerReference? (sso : Sso) : Option Kubernetes.OwnerReference := do
  let name ← sso.metadata.name
  let uid ← sso.metadata.uid
  return { apiVersion, controller := some true, kind, name, uid }

end Sso

/-- The identity of an SSO: where it is and what it is called. -/
structure SsoKey where
  namespaceName : String
  name : String
  deriving DecidableEq, Repr

namespace SsoKey

def describe (key : SsoKey) : String := s!"{key.namespaceName}/{key.name}"

/-- The key of a resource that has a namespace. -/
def ofSso (sso : Sso) : Except Error SsoKey := sso.requireNamespace.map fun ns => ⟨ns, sso.name⟩

end SsoKey
end SignOnOperator
