import SignOnOperator.Error
import SignOnOperator.Kubernetes.Service
import SignOnOperator.Labels
import SignOnOperator.Text.Basic
/-!
# Addresses of a proxy

Where the proxy is reached, where it sends requests on to, and under which application name it is exposed.
-/
namespace SignOnOperator.Proxy

open Kubernetes (Service)

/-- The address to which the identity provider sends users back, for a proxy reachable at `base`. -/
def redirectUrl (base : String) : String :=
  String.ofList (Text.trimEnd '/' base.toList) ++ "/oauth2/callback"

/-- The address to send users back to while the real hosts are not known. -/
def placeholderRedirectUrl : String := redirectUrl "https://fake-oauth2-proxy"

/-- The addresses to send users back to, one for each host. -/
def hostRedirectUrls (hosts : List String) : List String := hosts.map fun host => redirectUrl ("https://" ++ host)

/-- A label that is there and not empty. -/
def givenLabel? (service : Service) (key : String) : Option String :=
  (service.metadata.label? key).filter fun value => value ≠ ""

/-- The name of the application behind a service: its `app` label, or else the service's name, from which the first
occurrence of its release and a dash is taken out. -/
def appName (service : Service) : String :=
  let name := service.metadata.nameAny
  match givenLabel? service Labels.app with
  | some app => app
  | none =>
    match givenLabel? service Labels.release with
    | some release => String.ofList (Text.removeFirst (release ++ "-").toList name.toList)
    | none => name

/-- The address of the first port of a service within the cluster. -/
def upstreamUrl (service : Service) : Except Error String :=
  let name := service.metadata.nameAny
  match service.firstPort? with
  | some port => .ok s!"http://{name}:{port.port}"
  | none => .error (.proxyConfig s!"upstream service {name} exposes no ports")

end SignOnOperator.Proxy
