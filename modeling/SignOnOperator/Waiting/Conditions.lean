import SignOnOperator.Cluster.Call
import SignOnOperator.Waiting.Polling
/-!
# What the operator waits for

A service to appear or to be gone, pods to run, a job to complete, a deployment to settle.
-/
namespace SignOnOperator

open Kubernetes

instance : Timed Operator where
  clock := Routine.clock
  pause := Routine.pause

namespace Waiting

/-- Asks for something of the cluster and judges the reply. -/
def ask (c : Call) (judge : c.Result → Verdict) : Routine Verdict := do
  return Verdict.ofReply judge (← (Routine.call c).attempt)

/-- Waits until a service is there, or until it is gone. -/
def forService (ns name : String) (present : Bool) (polling : Polling) : Routine Unit :=
  let state := if present then "exist" else "be deleted"
  wait s!"service {ns}/{name} to {state}" polling <|
    ask (.getService ns name) fun (service : Option Service) => .readyIf (service.isSome == present)

/-- Whether there are pods, and each is accepted and runs. -/
def podsRunning (accepts : Pod → Bool) (pods : List Pod) : Bool :=
  !pods.isEmpty && pods.all fun pod => accepts pod && pod.phase = "Running"

/-- Waits until there are pods under the labels, all of them accepted and running.  A pod that is not accepted has to
be gone. -/
def forCurrentPods (ns selector : String) (accepts : Pod → Bool) (polling : Polling) : Routine Unit :=
  wait s!"pods {selector} in {ns} to be running" polling <|
    ask (.listPods ns selector) fun (pods : List Pod) => .readyIf (podsRunning accepts pods)

/-- Waits until there are pods under the labels and all of them run. -/
def forPods (ns selector : String) (polling : Polling) : Routine Unit :=
  forCurrentPods ns selector (fun _ => true) polling

/-- The first condition that holds and says how a job ended decides. -/
def jobVerdict (job : Job) : Verdict :=
  let ended := job.conditions.find? fun c => c.status = "True" && (c.type = "Complete" || c.type = "Failed")
  match ended with
  | none => .notReady
  | some c =>
    if c.type = "Complete" then .ready
    else .fatal (.waitFailed ("job " ++ job.metadata.name.getD "") (c.message.getD "job failed"))

/-- Waits until a job has completed; a job that is not there may still come. -/
def forJob (ns name : String) (polling : Polling) : Routine Unit :=
  wait s!"job {ns}/{name} to complete" polling <|
    ask (.getJob ns name) fun (job : Option Job) =>
      match job with
      | some job => jobVerdict job
      | none => .notReady

/-- Whether the cluster has taken note of the latest specification and made as many pods as it asks for. -/
def deploymentStable (d : Deployment) : Bool :=
  let status := d.status.getD {}
  let desired := (d.spec.bind (·.replicas)).getD 1
  d.metadata.generation.getD 0 ≤ status.observedGeneration.getD 0 && status.replicas.getD 0 = desired

/-- Waits until a deployment has settled; one that is gone never will. -/
def forDeployment (ns name : String) (polling : Polling) : Routine Unit :=
  wait s!"deployment {ns}/{name} to stabilize" polling <|
    ask (.getDeployment ns name) fun (deployment : Option Deployment) =>
      match deployment with
      | some d => .readyIf (deploymentStable d)
      | none => .fatal (.waitFailed s!"deployment {ns}/{name}" "deployment was deleted")

end Waiting
end SignOnOperator
