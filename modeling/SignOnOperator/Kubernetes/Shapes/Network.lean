import SignOnOperator.Kubernetes.Shapes.Metadata
import SignOnOperator.Kubernetes.Shapes.Volume
/-!
# Shapes of network objects

Services and ingresses.
-/
namespace SignOnOperator.Kubernetes.Shapes

def servicePort : Shape :=
  .lenient "ServicePort"
    [optional "appProtocol" .text, optional "name" .text, optional "nodePort" .int32, required "port" .int32,
      optional "protocol" .text, optional "targetPort" intOrString]

def clientIPConfig : Shape :=
  .lenient "ClientIPConfig"
    [optional "timeoutSeconds" .int32]

def sessionAffinityConfig : Shape :=
  .lenient "SessionAffinityConfig"
    [optional "clientIP" clientIPConfig]

def serviceSpec : Shape :=
  .lenient "ServiceSpec"
    [optional "allocateLoadBalancerNodePorts" .boolean, optional "clusterIP" .text,
      optional "clusterIPs" (.list .text), optional "externalIPs" (.list .text), optional "externalName" .text,
      optional "externalTrafficPolicy" .text, optional "healthCheckNodePort" .int32,
      optional "internalTrafficPolicy" .text, optional "ipFamilies" (.list .text), optional "ipFamilyPolicy" .text,
      optional "loadBalancerClass" .text, optional "loadBalancerIP" .text,
      optional "loadBalancerSourceRanges" (.list .text), optional "ports" (.list servicePort),
      optional "publishNotReadyAddresses" .boolean, optional "selector" (.map .text),
      optional "sessionAffinity" .text, optional "sessionAffinityConfig" sessionAffinityConfig,
      optional "trafficDistribution" .text, optional "type" .text]

def portStatus : Shape :=
  .lenient "PortStatus"
    [optional "error" .text, required "port" .int32, required "protocol" .text]

def loadBalancerIngress : Shape :=
  .lenient "LoadBalancerIngress"
    [optional "hostname" .text, optional "ip" .text, optional "ipMode" .text, optional "ports" (.list portStatus)]

def loadBalancerStatus : Shape :=
  .lenient "LoadBalancerStatus"
    [optional "ingress" (.list loadBalancerIngress)]

def serviceStatus : Shape :=
  .lenient "ServiceStatus"
    [optional "conditions" (.list condition), optional "loadBalancer" loadBalancerStatus]

def service : Shape :=
  .marked "Service" [⟨"apiVersion", "v1"⟩, ⟨"kind", "Service"⟩]
    [required "metadata" objectMeta, optional "spec" serviceSpec, optional "status" serviceStatus]

def serviceBackendPort : Shape :=
  .lenient "ServiceBackendPort"
    [optional "name" .text, optional "number" .int32]

def ingressServiceBackend : Shape :=
  .lenient "IngressServiceBackend"
    [required "name" .text, optional "port" serviceBackendPort]

def ingressBackend : Shape :=
  .lenient "IngressBackend"
    [optional "resource" typedLocalObjectReference, optional "service" ingressServiceBackend]

def httpIngressPath : Shape :=
  .lenient "HTTPIngressPath"
    [required "backend" ingressBackend, optional "path" .text, required "pathType" .text]

def httpIngressRuleValue : Shape :=
  .lenient "HTTPIngressRuleValue"
    [required "paths" (.list httpIngressPath)]

def ingressRule : Shape :=
  .lenient "IngressRule"
    [optional "host" .text, optional "http" httpIngressRuleValue]

def ingressTLS : Shape :=
  .lenient "IngressTLS"
    [optional "hosts" (.list .text), optional "secretName" .text]

def ingressSpec : Shape :=
  .lenient "IngressSpec"
    [optional "defaultBackend" ingressBackend, optional "ingressClassName" .text,
      optional "rules" (.list ingressRule), optional "tls" (.list ingressTLS)]

def ingressPortStatus : Shape :=
  .lenient "IngressPortStatus"
    [optional "error" .text, required "port" .int32, required "protocol" .text]

def ingressLoadBalancerIngress : Shape :=
  .lenient "IngressLoadBalancerIngress"
    [optional "hostname" .text, optional "ip" .text, optional "ports" (.list ingressPortStatus)]

def ingressLoadBalancerStatus : Shape :=
  .lenient "IngressLoadBalancerStatus"
    [optional "ingress" (.list ingressLoadBalancerIngress)]

def ingressStatus : Shape :=
  .lenient "IngressStatus"
    [optional "loadBalancer" ingressLoadBalancerStatus]

def ingress : Shape :=
  .marked "Ingress" [⟨"apiVersion", "networking.k8s.io/v1"⟩, ⟨"kind", "Ingress"⟩]
    [required "metadata" objectMeta, optional "spec" ingressSpec, optional "status" ingressStatus]

end SignOnOperator.Kubernetes.Shapes
