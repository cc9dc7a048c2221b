import SignOnOperator.Kubernetes.Shapes.Volume
/-!
# Shapes of containers

What runs in a pod, with its environment, its checks and its privileges.
-/
namespace SignOnOperator.Kubernetes.Shapes

def configMapEnvSource : Shape :=
  .lenient "ConfigMapEnvSource"
    [required "name" .text, optional "optional" .boolean]

def secretEnvSource : Shape :=
  .lenient "SecretEnvSource"
    [required "name" .text, optional "optional" .boolean]

def envFromSource : Shape :=
  .lenient "EnvFromSource"
    [optional "configMapRef" configMapEnvSource, optional "prefix" .text, optional "secretRef" secretEnvSource]

def configMapKeySelector : Shape :=
  .lenient "ConfigMapKeySelector"
    [required "key" .text, required "name" .text, optional "optional" .boolean]

def secretKeySelector : Shape :=
  .lenient "SecretKeySelector"
    [required "key" .text, required "name" .text, optional "optional" .boolean]

def envVarSource : Shape :=
  .lenient "EnvVarSource"
    [optional "configMapKeyRef" configMapKeySelector, optional "fieldRef" objectFieldSelector,
      optional "resourceFieldRef" resourceFieldSelector, optional "secretKeyRef" secretKeySelector]

def envVar : Shape :=
  .lenient "EnvVar"
    [required "name" .text, optional "value" .text, optional "valueFrom" envVarSource]

def execAction : Shape :=
  .lenient "ExecAction"
    [optional "command" (.list .text)]

def httpHeader : Shape :=
  .lenient "HTTPHeader"
    [required "name" .text, required "value" .text]

def httpGetAction : Shape :=
  .lenient "HTTPGetAction"
    [optional "host" .text, optional "httpHeaders" (.list httpHeader), optional "path" .text,
      required "port" intOrString, optional "scheme" .text]

def sleepAction : Shape :=
  .lenient "SleepAction"
    [required "seconds" .int64]

def tcpSocketAction : Shape :=
  .lenient "TCPSocketAction"
    [optional "host" .text, required "port" intOrString]

def grpcAction : Shape :=
  .lenient "GRPCAction"
    [required "port" .int32, optional "service" .text]

def lifecycleHandler : Shape :=
  .lenient "LifecycleHandler"
    [optional "exec" execAction, optional "httpGet" httpGetAction, optional "sleep" sleepAction,
      optional "tcpSocket" tcpSocketAction]

def lifecycle : Shape :=
  .lenient "Lifecycle"
    [optional "postStart" lifecycleHandler, optional "preStop" lifecycleHandler, optional "stopSignal" .text]

def probe : Shape :=
  .lenient "Probe"
    [optional "exec" execAction, optional "failureThreshold" .int32, optional "grpc" grpcAction,
      optional "httpGet" httpGetAction, optional "initialDelaySeconds" .int32, optional "periodSeconds" .int32,
      optional "successThreshold" .int32, optional "tcpSocket" tcpSocketAction,
      optional "terminationGracePeriodSeconds" .int64, optional "timeoutSeconds" .int32]

def containerPort : Shape :=
  .lenient "ContainerPort"
    [required "containerPort" .int32, optional "hostIP" .text, optional "hostPort" .int32, optional "name" .text,
      optional "protocol" .text]

def containerResizePolicy : Shape :=
  .lenient "ContainerResizePolicy"
    [required "resourceName" .text, required "restartPolicy" .text]

def resourceClaim : Shape :=
  .lenient "ResourceClaim"
    [required "name" .text, optional "request" .text]

def resourceRequirements : Shape :=
  .lenient "ResourceRequirements"
    [optional "claims" (.list resourceClaim), optional "limits" (.map .text), optional "requests" (.map .text)]

def appArmorProfile : Shape :=
  .lenient "AppArmorProfile"
    [optional "localhostProfile" .text, required "type" .text]

def seLinuxOptions : Shape :=
  .lenient "SELinuxOptions"
    [optional "level" .text, optional "role" .text, optional "type" .text, optional "user" .text]

def seccompProfile : Shape :=
  .lenient "SeccompProfile"
    [optional "localhostProfile" .text, required "type" .text]

def windowsSecurityContextOptions : Shape :=
  .lenient "WindowsSecurityContextOptions"
    [optional "gmsaCredentialSpec" .text, optional "gmsaCredentialSpecName" .text, optional "hostProcess" .boolean,
      optional "runAsUserName" .text]

def capabilities : Shape :=
  .lenient "Capabilities"
    [optional "add" (.list .text), optional "drop" (.list .text)]

def securityContext : Shape :=
  .lenient "SecurityContext"
    [optional "allowPrivilegeEscalation" .boolean, optional "appArmorProfile" appArmorProfile,
      optional "capabilities" capabilities, optional "privileged" .boolean, optional "procMount" .text,
      optional "readOnlyRootFilesystem" .boolean, optional "runAsGroup" .int64, optional "runAsNonRoot" .boolean,
      optional "runAsUser" .int64, optional "seLinuxOptions" seLinuxOptions,
      optional "seccompProfile" seccompProfile, optional "windowsOptions" windowsSecurityContextOptions]

def volumeDevice : Shape :=
  .lenient "VolumeDevice"
    [required "devicePath" .text, required "name" .text]

def volumeMount : Shape :=
  .lenient "VolumeMount"
    [required "mountPath" .text, optional "mountPropagation" .text, required "name" .text,
      optional "readOnly" .boolean, optional "recursiveReadOnly" .text, optional "subPath" .text,
      optional "subPathExpr" .text]

def container : Shape :=
  .lenient "Container"
    [optional "args" (.list .text), optional "command" (.list .text), optional "env" (.list envVar),
      optional "envFrom" (.list envFromSource), optional "image" .text, optional "imagePullPolicy" .text,
      optional "lifecycle" lifecycle, optional "livenessProbe" probe, required "name" .text,
      optional "ports" (.list containerPort), optional "readinessProbe" probe,
      optional "resizePolicy" (.list containerResizePolicy), optional "resources" resourceRequirements,
      optional "restartPolicy" .text, optional "securityContext" securityContext, optional "startupProbe" probe,
      optional "stdin" .boolean, optional "stdinOnce" .boolean, optional "terminationMessagePath" .text,
      optional "terminationMessagePolicy" .text, optional "tty" .boolean,
      optional "volumeDevices" (.list volumeDevice), optional "volumeMounts" (.list volumeMount),
      optional "workingDir" .text]

def ephemeralContainer : Shape :=
  .lenient "EphemeralContainer"
    [optional "args" (.list .text), optional "command" (.list .text), optional "env" (.list envVar),
      optional "envFrom" (.list envFromSource), optional "image" .text, optional "imagePullPolicy" .text,
      optional "lifecycle" lifecycle, optional "livenessProbe" probe, required "name" .text,
      optional "ports" (.list containerPort), optional "readinessProbe" probe,
      optional "resizePolicy" (.list containerResizePolicy), optional "resources" resourceRequirements,
      optional "restartPolicy" .text, optional "securityContext" securityContext, optional "startupProbe" probe,
      optional "stdin" .boolean, optional "stdinOnce" .boolean, optional "targetContainerName" .text,
      optional "terminationMessagePath" .text, optional "terminationMessagePolicy" .text, optional "tty" .boolean,
      optional "volumeDevices" (.list volumeDevice), optional "volumeMounts" (.list volumeMount),
      optional "workingDir" .text]

end SignOnOperator.Kubernetes.Shapes
