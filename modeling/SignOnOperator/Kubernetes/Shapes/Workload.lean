import SignOnOperator.Kubernetes.Shapes.Pod
/-!
# Shapes of workloads

Deployments and jobs.
-/
namespace SignOnOperator.Kubernetes.Shapes

def rollingUpdateDeployment : Shape :=
  .lenient "RollingUpdateDeployment"
    [optional "maxSurge" intOrString, optional "maxUnavailable" intOrString]

def deploymentStrategy : Shape :=
  .lenient "DeploymentStrategy"
    [optional "rollingUpdate" rollingUpdateDeployment, optional "type" .text]

def deploymentSpec : Shape :=
  .lenient "DeploymentSpec"
    [optional "minReadySeconds" .int32, optional "paused" .boolean, optional "progressDeadlineSeconds" .int32,
      optional "replicas" .int32, optional "revisionHistoryLimit" .int32, required "selector" labelSelector,
      optional "strategy" deploymentStrategy, required "template" podTemplateSpec]

def deploymentCondition : Shape :=
  .lenient "DeploymentCondition"
    [optional "lastTransitionTime" timestamp, optional "lastUpdateTime" timestamp, optional "message" .text,
      optional "reason" .text, required "status" .text, required "type" .text]

def deploymentStatus : Shape :=
  .lenient "DeploymentStatus"
    [optional "availableReplicas" .int32, optional "collisionCount" .int32,
      optional "conditions" (.list deploymentCondition), optional "observedGeneration" .int64,
      optional "readyReplicas" .int32, optional "replicas" .int32, optional "terminatingReplicas" .int32,
      optional "unavailableReplicas" .int32, optional "updatedReplicas" .int32]

def deployment : Shape :=
  .marked "Deployment" [⟨"apiVersion", "apps/v1"⟩, ⟨"kind", "Deployment"⟩]
    [required "metadata" objectMeta, optional "spec" deploymentSpec, optional "status" deploymentStatus]

def podFailurePolicyOnExitCodesRequirement : Shape :=
  .lenient "PodFailurePolicyOnExitCodesRequirement"
    [optional "containerName" .text, required "operator" .text, required "values" (.list .int32)]

def podFailurePolicyOnPodConditionsPattern : Shape :=
  .lenient "PodFailurePolicyOnPodConditionsPattern"
    [required "status" .text, required "type" .text]

def podFailurePolicyRule : Shape :=
  .lenient "PodFailurePolicyRule"
    [required "action" .text, optional "onExitCodes" podFailurePolicyOnExitCodesRequirement,
      optional "onPodConditions" (.list podFailurePolicyOnPodConditionsPattern)]

def podFailurePolicy : Shape :=
  .lenient "PodFailurePolicy"
    [required "rules" (.list podFailurePolicyRule)]

def successPolicyRule : Shape :=
  .lenient "SuccessPolicyRule"
    [optional "succeededCount" .int32, optional "succeededIndexes" .text]

def successPolicy : Shape :=
  .lenient "SuccessPolicy"
    [required "rules" (.list successPolicyRule)]

def jobSpec : Shape :=
  .lenient "JobSpec"
    [optional "activeDeadlineSeconds" .int64, optional "backoffLimit" .int32,
      optional "backoffLimitPerIndex" .int32, optional "completionMode" .text, optional "completions" .int32,
      optional "managedBy" .text, optional "manualSelector" .boolean, optional "maxFailedIndexes" .int32,
      optional "parallelism" .int32, optional "podFailurePolicy" podFailurePolicy,
      optional "podReplacementPolicy" .text, optional "selector" labelSelector,
      optional "successPolicy" successPolicy, optional "suspend" .boolean, required "template" podTemplateSpec,
      optional "ttlSecondsAfterFinished" .int32]

def jobCondition : Shape :=
  .lenient "JobCondition"
    [optional "lastProbeTime" timestamp, optional "lastTransitionTime" timestamp, optional "message" .text,
      optional "reason" .text, required "status" .text, required "type" .text]

def uncountedTerminatedPods : Shape :=
  .lenient "UncountedTerminatedPods"
    [optional "failed" (.list .text), optional "succeeded" (.list .text)]

def jobStatus : Shape :=
  .lenient "JobStatus"
    [optional "active" .int32, optional "completedIndexes" .text, optional "completionTime" timestamp,
      optional "conditions" (.list jobCondition), optional "failed" .int32, optional "failedIndexes" .text,
      optional "ready" .int32, optional "startTime" timestamp, optional "succeeded" .int32,
      optional "terminating" .int32, optional "uncountedTerminatedPods" uncountedTerminatedPods]

def job : Shape :=
  .marked "Job" [⟨"apiVersion", "batch/v1"⟩, ⟨"kind", "Job"⟩]
    [required "metadata" objectMeta, optional "spec" jobSpec, optional "status" jobStatus]

end SignOnOperator.Kubernetes.Shapes
