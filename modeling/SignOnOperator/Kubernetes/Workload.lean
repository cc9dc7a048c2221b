import SignOnOperator.Kubernetes.Metadata
import SignOnOperator.Kubernetes.Shapes.Workload
/-!
# Workloads

Pods, the deployments and jobs that make them from a template, and what the cluster reports of their state.  Only what
the operator reads or writes is kept.
-/
namespace SignOnOperator.Kubernetes

structure EnvVar where
  name : String
  value : Option String := none
  deriving DecidableEq

structure ContainerPort where
  name : Option String := none
  containerPort : Int
  protocol : Option String := none

structure VolumeMount where
  name : String
  mountPath : String
  readOnly : Option Bool := none

/-- A check that asks a container over HTTP. -/
structure HttpProbe where
  path : String
  port : Int
  scheme : String
  initialDelaySeconds : Int
  timeoutSeconds : Int
  periodSeconds : Int
  failureThreshold : Int

/-- The amounts of computing resources that a container may use and is to get. -/
structure ResourceRequirements where
  limits : Option (KeyMap String) := none
  requests : Option (KeyMap String) := none

structure Container where
  name : String
  image : Option String := none
  imagePullPolicy : Option String := none
  command : Option (List String) := none
  args : Option (List String) := none
  env : Option (List EnvVar) := none
  ports : Option (List ContainerPort) := none
  resources : Option ResourceRequirements := none
  volumeMounts : Option (List VolumeMount) := none
  livenessProbe : Option HttpProbe := none
  readinessProbe : Option HttpProbe := none

/-- Where the files of a volume come from. -/
inductive VolumeSource where
  | secret (name : String)
  | configMap (name : String)
  deriving DecidableEq

structure Volume where
  name : String
  source : VolumeSource

structure PodSpec where
  containers : List Container := []
  restartPolicy : Option String := none
  serviceAccountName : Option String := none
  volumes : Option (List Volume) := none

structure PodTemplate where
  metadata : Option ObjectMeta := none
  spec : Option PodSpec := none

namespace EnvVar

def ofJson (j : Json) : EnvVar where
  name := (j.get "name").text
  value := (j.get "value").str?

def toJson (e : EnvVar) : Json := .objectOf [("name", some (.str e.name)), ("value", e.value.map .str)]

end EnvVar

def ContainerPort.toJson (p : ContainerPort) : Json :=
  .objectOf
    [("containerPort", some (.int p.containerPort)), ("name", p.name.map .str), ("protocol", p.protocol.map .str)]

def VolumeMount.toJson (m : VolumeMount) : Json :=
  .objectOf
    [("mountPath", some (.str m.mountPath)), ("name", some (.str m.name)), ("readOnly", m.readOnly.map .bool)]

def HttpProbe.toJson (p : HttpProbe) : Json :=
  .object
    [("failureThreshold", .int p.failureThreshold),
      ("httpGet", .object [("path", .str p.path), ("port", .int p.port), ("scheme", .str p.scheme)]),
      ("initialDelaySeconds", .int p.initialDelaySeconds), ("periodSeconds", .int p.periodSeconds),
      ("timeoutSeconds", .int p.timeoutSeconds)]

def ResourceRequirements.toJson (r : ResourceRequirements) : Json :=
  .objectOf [("limits", r.limits.map .textMap), ("requests", r.requests.map .textMap)]

namespace Container

/-- Reads the name and the environment. -/
def ofJson (j : Json) : Container where
  name := (j.get "name").text
  env := (j.get? "env").map fun l => l.items.map EnvVar.ofJson

def toJson (c : Container) : Json :=
  .objectOf
    [("args", c.args.map .strings), ("command", c.command.map .strings),
      ("env", c.env.map fun l => .arr (l.map EnvVar.toJson)), ("image", c.image.map .str),
      ("imagePullPolicy", c.imagePullPolicy.map .str), ("livenessProbe", c.livenessProbe.map HttpProbe.toJson),
      ("name", some (.str c.name)), ("ports", c.ports.map fun l => .arr (l.map ContainerPort.toJson)),
      ("readinessProbe", c.readinessProbe.map HttpProbe.toJson),
      ("resources", c.resources.map ResourceRequirements.toJson),
      ("volumeMounts", c.volumeMounts.map fun l => .arr (l.map VolumeMount.toJson))]

end Container

def Volume.toJson (v : Volume) : Json :=
  .object
    [("name", .str v.name),
      match v.source with
      | .secret name => ("secret", .object [("secretName", .str name)])
      | .configMap name => ("configMap", .object [("name", .str name)])]

namespace PodSpec

/-- Reads the containers. -/
def ofJson (j : Json) : PodSpec where
  containers := (j.get "containers").items.map Container.ofJson

def toJson (s : PodSpec) : Json :=
  .objectOf
    [("containers", some (.arr (s.containers.map Container.toJson))), ("restartPolicy", s.restartPolicy.map .str),
      ("serviceAccountName", s.serviceAccountName.map .str),
      ("volumes", s.volumes.map fun l => .arr (l.map Volume.toJson))]

/-- The value of the first variable of a name, in the order of the containers. -/
def envValue? (s : PodSpec) (name : String) : Option String :=
  ((s.containers.flatMap fun c => c.env.getD []).find? fun e => e.name = name).bind (·.value)

end PodSpec

namespace PodTemplate

def ofJson (j : Json) : PodTemplate where
  spec := (j.get? "spec").map PodSpec.ofJson

def toJson (t : PodTemplate) : Json :=
  .objectOf [("metadata", t.metadata.map ObjectMeta.toJson), ("spec", t.spec.map PodSpec.toJson)]

end PodTemplate

/-! ## Pods -/

structure Pod where
  metadata : ObjectMeta := {}
  spec : Option PodSpec := none
  phase? : Option String := none

namespace Pod

def ofJson (j : Json) : Pod where
  metadata := .ofJson (j.get "metadata")
  spec := (j.get? "spec").map PodSpec.ofJson
  phase? := ((j.get "status").get "phase").str?

/-- The phase of the pod's life. -/
def phase (p : Pod) : String := p.phase?.getD "Unknown"

end Pod

/-! ## Deployments -/

/-- How many pods may be added and how many may be missing while a deployment replaces its pods. -/
structure RollingUpdate where
  maxSurge : Int
  maxUnavailable : Int

structure DeploymentSpec where
  replicas : Option Int := none
  matchLabels : Option (KeyMap String) := none
  rollingUpdate : Option RollingUpdate := none
  template : PodTemplate := {}

structure DeploymentStatus where
  observedGeneration : Option Int := none
  replicas : Option Int := none

structure Deployment where
  metadata : ObjectMeta := {}
  spec : Option DeploymentSpec := none
  status : Option DeploymentStatus := none

def RollingUpdate.toJson (r : RollingUpdate) : Json :=
  .object
    [("rollingUpdate", .object [("maxSurge", .int r.maxSurge), ("maxUnavailable", .int r.maxUnavailable)]),
      ("type", .str "RollingUpdate")]

namespace DeploymentSpec

/-- Reads the number of pods and the template. -/
def ofJson (j : Json) : DeploymentSpec where
  replicas := (j.get "replicas").int?
  template := .ofJson (j.get "template")

def toJson (s : DeploymentSpec) : Json :=
  .objectOf
    [("replicas", s.replicas.map .int),
      ("selector", some (.objectOf [("matchLabels", s.matchLabels.map .textMap)])),
      ("strategy", s.rollingUpdate.map RollingUpdate.toJson), ("template", some s.template.toJson)]

end DeploymentSpec

namespace DeploymentStatus

def ofJson (j : Json) : DeploymentStatus where
  observedGeneration := (j.get "observedGeneration").int?
  replicas := (j.get "replicas").int?

def toJson (s : DeploymentStatus) : Json :=
  .objectOf [("observedGeneration", s.observedGeneration.map .int), ("replicas", s.replicas.map .int)]

end DeploymentStatus

namespace Deployment

def ofJson (j : Json) : Deployment where
  metadata := .ofJson (j.get "metadata")
  spec := (j.get? "spec").map DeploymentSpec.ofJson
  status := (j.get? "status").map DeploymentStatus.ofJson

def toJson (d : Deployment) : Json :=
  .objectOf (header "apps/v1" "Deployment" d.metadata ++
    [("spec", d.spec.map DeploymentSpec.toJson), ("status", d.status.map DeploymentStatus.toJson)])

/-- The specification of the pods that the deployment makes. -/
def podSpec? (d : Deployment) : Option PodSpec := d.spec.bind fun s => s.template.spec

end Deployment

/-! ## Jobs -/

structure JobCondition where
  type : String
  status : String
  message : Option String := none

structure Job where
  metadata : ObjectMeta := {}
  template : Option PodTemplate := none
  conditions : List JobCondition := []

namespace JobCondition

def ofJson (j : Json) : JobCondition where
  type := (j.get "type").text
  status := (j.get "status").text
  message := (j.get "message").str?

end JobCondition

namespace Job

/-- Reads the metadata and the conditions. -/
def ofJson (j : Json) : Job where
  metadata := .ofJson (j.get "metadata")
  conditions := ((j.get "status").get "conditions").items.map JobCondition.ofJson

def toJson (job : Job) : Json :=
  .objectOf (header "batch/v1" "Job" job.metadata ++
    [("spec", job.template.map fun t => .object [("template", t.toJson)])])

end Job
end SignOnOperator.Kubernetes
