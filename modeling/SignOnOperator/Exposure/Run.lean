import SignOnOperator.Config
import SignOnOperator.Exposure.Manifests
import SignOnOperator.Waiting.Conditions
/-!
# Running an exposure

One run of the exposing controller: its configuration is applied, its job is created and awaited, and both are deleted
again.  A job that an earlier run left behind is deleted, and this run fails.
-/
namespace SignOnOperator.Exposure

open Kubernetes

def Mode.polling (mode : Mode) (timeouts : Timeouts) : Polling :=
  match mode with
  | expose => timeouts.expose
  | cleanup => timeouts.cleanup

/-- Creates the job of a run, which must not be there yet. -/
def createJob (ns : String) (job : Job) : Routine Unit := do
  match ← (Routine.call (.createJob job)).attempt with
  | .ok () => return ()
  | .error e =>
    if e.isConflict then Routine.call (.deleteJob ns job.metadata.nameAny)
    Action.fail e

/-- Publishes or withdraws a service. -/
def run (config : Config) (mode : Mode) (sso : Sso) (service serviceAccount : String) : Routine Unit := do
  let ns ← Action.ofExcept sso.requireNamespace
  let configMap := buildConfigMap sso ns service
  Routine.call (.applyConfigMap configMap)
  let job := buildJob sso ns service serviceAccount mode
  createJob ns job
  Waiting.forJob ns job.metadata.nameAny (mode.polling config.timeouts)
  Routine.call (.deleteJob ns job.metadata.nameAny)
  Routine.call (.deleteConfigMap ns configMap.metadata.nameAny)

end SignOnOperator.Exposure
