import SignOnOperator.Kubernetes.Metadata
import SignOnOperator.Kubernetes.Shapes.Network
/-!
# Services and ingresses

A service gives a name and ports to the pods with certain labels; an ingress leads hosts to services.  Only what the
operator reads or writes is kept.
-/
namespace SignOnOperator.Kubernetes

structure ServicePort where
  name : Option String := none
  port : Int
  protocol : Option String := none
  targetPort : Option Int := none

structure ServiceSpec where
  ports : Option (List ServicePort) := none
  selector : Option (KeyMap String) := none

structure Service where
  metadata : ObjectMeta := {}
  spec : Option ServiceSpec := none

namespace ServicePort

def ofJson (j : Json) : ServicePort where
  name := (j.get "name").str?
  port := (j.get "port").int?.getD 0
  protocol := (j.get "protocol").str?
  targetPort := (j.get "targetPort").int?

def toJson (p : ServicePort) : Json :=
  .objectOf
    [("name", p.name.map .str), ("port", some (.int p.port)), ("protocol", p.protocol.map .str),
      ("targetPort", p.targetPort.map .int)]

end ServicePort

namespace ServiceSpec

def ofJson (j : Json) : ServiceSpec where
  ports := (j.get? "ports").map fun l => l.items.map ServicePort.ofJson
  selector := ObjectMeta.textMap? "selector" j

def toJson (s : ServiceSpec) : Json :=
  .objectOf
    [("ports", s.ports.map fun l => .arr (l.map ServicePort.toJson)), ("selector", s.selector.map .textMap)]

end ServiceSpec

namespace Service

def ofJson (j : Json) : Service where
  metadata := .ofJson (j.get "metadata")
  spec := (j.get? "spec").map ServiceSpec.ofJson

def toJson (s : Service) : Json :=
  .objectOf (header "v1" "Service" s.metadata ++ [("spec", s.spec.map ServiceSpec.toJson)])

/-- The first port of the service. -/
def firstPort? (s : Service) : Option ServicePort := do
  let spec ← s.spec
  let ports ← spec.ports
  ports.head?

end Service

/-- The hosts of an ingress, one for each rule, nothing for a rule without one. -/
structure Ingress where
  ruleHosts : List (Option String)

namespace Ingress

def ofJson (j : Json) : Ingress where
  ruleHosts := ((j.get "spec").get "rules").items.map fun rule => (rule.get "host").str?

/-- The hosts that are not empty, in the order of the rules. -/
def hosts (i : Ingress) : List String := (i.ruleHosts.filterMap id).filter fun host => host ≠ ""

end Ingress
end SignOnOperator.Kubernetes
