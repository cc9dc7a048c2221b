import SignOnOperator.Kubernetes.Secret
import SignOnOperator.Kubernetes.Service
import SignOnOperator.Kubernetes.Workload
import SignOnOperator.Labels
import SignOnOperator.Naming
import SignOnOperator.Proxy.Config
/-!
# The objects of a proxy

A secret with the configuration, a deployment that runs the proxy on it, and a service in front.  The deployment
carries the fingerprint of the configuration in an environment variable, so that a change rolls the pods.
-/
namespace SignOnOperator.Proxy

open Kubernetes

/-- The variable that carries the fingerprint of the configuration. -/
def fingerprintVariable : String := "SECRET_VERSION"

/-- The port on which the proxy listens. -/
def port : Int := 4180

/-- The port under which the service offers the proxy. -/
def publicPort : Int := 80

def portName : String := "proxy-port"

/-- Where the configuration is found in the proxy's file system. -/
def mountPath : String := "/config"

def volumeName : String := "proxy-config"

/-- The objects of one proxy, with the application name and the upstream address they were made for. -/
structure Bundle where
  appName : String
  upstreamUrl : String
  secret : Secret
  deployment : Deployment
  service : Service

def secretName (sso : Sso) : String := Naming.buildName sso.name "proxy-config"

def deploymentName (sso : Sso) (namespaceName : String) : String := Naming.buildName sso.name namespaceName

/-- The metadata of an object of the proxy, which the SSO owns. -/
def objectMeta (sso : Sso) (name namespaceName appName : String) : ObjectMeta where
  name := some name
  namespaceName := some namespaceName
  labels := some (Labels.proxy sso.name appName)
  ownerReferences := sso.ownerReference?.map fun owner => [owner]

/-- Amounts of processor time and memory, if any is given. -/
def quantities (spec : Option ResourceSpec) : Option (KeyMap String) := do
  let spec ← spec
  let given := [("cpu", spec.cpu), ("memory", spec.memory)].filterMap fun q => q.2.map fun value => (q.1, value)
  if given.isEmpty then none else some (.ofList given)

def resourceRequirements (resources : ProxyResources) : ResourceRequirements where
  limits := quantities resources.limits
  requests := quantities resources.requests

/-- A check that asks the proxy whether it is alive. -/
def probe (initialDelay timeout period failureThreshold : Int) : HttpProbe where
  path := "/ping"
  port := port
  scheme := "HTTP"
  initialDelaySeconds := initialDelay
  timeoutSeconds := timeout
  periodSeconds := period
  failureThreshold := failureThreshold

def buildSecret (sso : Sso) (namespaceName appName : String) (data : KeyMap String) : Secret where
  metadata := objectMeta sso (secretName sso) namespaceName appName
  data := some (data.map Bytes.ofString)

def buildContainer (sso : Sso) (fingerprint : String) : Container where
  name := sso.name
  image := some s!"{sso.spec.proxyImage}:{sso.spec.proxyImageTag}"
  imagePullPolicy := some "IfNotPresent"
  args := some [s!"--config={mountPath}/{configFile}"]
  ports := some [{ name := some portName, containerPort := port, protocol := some "TCP" }]
  env := some [{ name := fingerprintVariable, value := some fingerprint }]
  resources := some (resourceRequirements sso.spec.proxyResources)
  volumeMounts := some [{ name := volumeName, mountPath := mountPath, readOnly := some true }]
  livenessProbe := some (probe 60 10 60 3)
  readinessProbe := some (probe 30 10 10 3)

def buildDeployment (sso : Sso) (namespaceName appName fingerprint : String) : Deployment where
  metadata := objectMeta sso (deploymentName sso namespaceName) namespaceName appName
  spec := some {
    replicas := some 1
    matchLabels := some (Labels.proxySelector sso.name appName)
    rollingUpdate := some { maxSurge := 1, maxUnavailable := 1 }
    template := {
      metadata := some { labels := some (Labels.proxy sso.name appName) }
      spec := some {
        containers := [buildContainer sso fingerprint]
        volumes := some [{ name := volumeName, source := .secret (secretName sso) }] } } }

/-- What the exposure and the certificate manager read off the service. -/
def serviceAnnotations (sso : Sso) (appName : String) : KeyMap String :=
  .ofList
    [("fabric8.io/expose", "true"), ("fabric8.io/ingress.name", appName),
      ("fabric8.io/ingress.annotations",
        s!"kubernetes.io/ingress.class: nginx\ncertmanager.k8s.io/issuer: {sso.spec.certIssuerName}")]

def buildService (sso : Sso) (namespaceName appName : String) : Service where
  metadata := { objectMeta sso sso.name namespaceName appName with
    annotations := some (serviceAnnotations sso appName) }
  spec := some {
    selector := some (Labels.proxySelector sso.name appName)
    ports := some [{ name := some portName, port := publicPort, protocol := some "TCP", targetPort := some port }] }

/-- All objects of the proxy of an SSO, on the given data. -/
def buildBundle (sso : Sso) (appName upstreamUrl : String) (data : KeyMap String) : Except Error Bundle := do
  let ns ← sso.requireNamespace
  return {
    appName, upstreamUrl
    secret := buildSecret sso ns appName data
    deployment := buildDeployment sso ns appName (fingerprint data)
    service := buildService sso ns appName }

/-- The fingerprint that a deployment was made with. -/
def deployedFingerprint? (deployment : Deployment) : Option String :=
  deployment.podSpec?.bind fun spec => spec.envValue? fingerprintVariable

/-- The fingerprint of the configuration that a pod was started with. -/
def podFingerprint? (pod : Pod) : Option String := pod.spec.bind fun spec => spec.envValue? fingerprintVariable

end SignOnOperator.Proxy
