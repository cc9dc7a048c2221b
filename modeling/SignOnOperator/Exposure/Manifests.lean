import SignOnOperator.Kubernetes.Secret
import SignOnOperator.Kubernetes.Workload
import SignOnOperator.Labels
import SignOnOperator.Naming
import SignOnOperator.Sso.Basic
import SignOnOperator.Yaml.Block
/-!
# The objects of an exposure

A proxy's service is published, and withdrawn again, by a job of the exposing controller, which finds what to do in a
configuration map.
-/
namespace SignOnOperator.Exposure

open Kubernetes

/-- What the job is to do with the service. -/
inductive Mode where
  | expose | cleanup
  deriving DecidableEq, Repr

def Mode.name : Mode → String
  | expose => "expose"
  | cleanup => "cleanup"

/-- Where the job finds its configuration. -/
def configDir : String := "/etc/exposecontroller"

def configFile : String := "config.yml"

def volumeName : String := "expose-config"

/-- The arguments of the job. -/
def Mode.args (mode : Mode) (service : String) : List String :=
  let config := s!"--config={configDir}/{configFile}"
  match mode with
  | expose => [config, "--v", "4"]
  | cleanup => [config, "--cleanup", s!"--filter={service}"]

/-- What the exposing controller is told; an empty domain, no services and an absent template are left out. -/
structure Instructions where
  domain : String
  exposer : String
  pathMode : String
  http : Bool
  tlsAcme : Bool
  services : List String
  urlTemplate : Option String
  deriving DecidableEq, Repr

namespace Instructions

/-- The configuration that publishes one service. -/
def forService (sso : Sso) (service : String) : Instructions where
  domain := sso.spec.domain
  exposer := "Ingress"
  pathMode := ""
  http := false
  tlsAcme := true
  services := [service]
  urlTemplate := sso.spec.urlTemplate

def toYaml (c : Instructions) : Yaml :=
  .map <|
    (if c.domain = "" then [] else [("domain", .str c.domain)]) ++
    [("exposer", .str c.exposer), ("path-mode", .str c.pathMode), ("http", .bool c.http),
      ("tls-acme", .bool c.tlsAcme)] ++
    (if c.services.isEmpty then [] else [("services", .seq (c.services.map .str))]) ++
    (match c.urlTemplate with
      | some template => [("urltemplate", .str template)]
      | none => [])

end Instructions

def configMapName (sso : Sso) : String := Naming.buildName sso.name "expose-config"

def jobName (sso : Sso) (namespaceName : String) (mode : Mode) : String :=
  Naming.buildName (Naming.buildName sso.name namespaceName) mode.name

/-- The metadata of an object of the exposure, which the SSO owns. -/
def objectMeta (sso : Sso) (name namespaceName : String) : ObjectMeta where
  name := some name
  namespaceName := some namespaceName
  labels := some Labels.common
  ownerReferences := sso.ownerReference?.map fun owner => [owner]

def buildConfigMap (sso : Sso) (namespaceName service : String) : ConfigMap where
  metadata := objectMeta sso (configMapName sso) namespaceName
  data := some (.ofList [(configFile, (Instructions.forService sso service).toYaml.render)])

def buildContainer (sso : Sso) (namespaceName service : String) (mode : Mode) : Container where
  name := Naming.buildName sso.name mode.name
  image := some "jenkinsxio/exposecontroller:latest"
  imagePullPolicy := some "IfNotPresent"
  command := some ["/exposecontroller"]
  args := some (mode.args service)
  env := some [{ name := "KUBERNETES_NAMESPACE", value := some namespaceName }]
  volumeMounts := some [{ name := volumeName, mountPath := configDir, readOnly := some true }]

def buildJob (sso : Sso) (namespaceName service serviceAccount : String) (mode : Mode) : Job where
  metadata := objectMeta sso (jobName sso namespaceName mode) namespaceName
  template := some {
    metadata := some { labels := some Labels.common }
    spec := some {
      containers := [buildContainer sso namespaceName service mode]
      restartPolicy := some "Never"
      serviceAccountName := some serviceAccount
      volumes := some [{ name := volumeName, source := .configMap (configMapName sso) }] } }

end SignOnOperator.Exposure
