import SignOnOperator.Exposure.Run
/-!
# The finalizer

The operator holds up the deletion of an SSO until it has undone what it did outside of the cluster's own clean-up.
Whether or not that works, it lets go of the SSO in the end.
-/
namespace SignOnOperator.Finalizer

/-- The operator's mark among the finalizers. -/
def name : String := "sso.jenkins.io/finalizer"

/-- Whether the operator holds up the deletion of an SSO. -/
def isHeld (sso : Sso) : Bool := sso.metadata.finalizerList.any (· == name)

/-- Replaces the finalizers of an SSO. -/
def replace (sso : Sso) (finalizers : List String) : Routine Unit := do
  let ns ← Action.ofExcept sso.requireNamespace
  Routine.call (.patchSsoFinalizers ns sso.name finalizers)

/-- Makes sure that the operator holds up the deletion of an SSO. -/
def ensure (sso : Sso) : Routine Unit :=
  if isHeld sso then pure () else replace sso (sso.metadata.finalizerList ++ [name])

/-- Lets go of an SSO. -/
def remove (sso : Sso) : Routine Unit := replace sso (sso.metadata.finalizerList.filter (· ≠ name))

/-- The step in which the proxy's service is withdrawn. -/
def exposureStep : String := "cleaning up the proxy exposure"

/-- The step in which the client is deleted. -/
def clientStep : String := "deleting the OIDC client"

/-- Withdraws the service of an SSO's proxy. -/
def withdraw (config : Config) (sso : Sso) (ns : String) : Routine Unit := do
  let account ← Routine.call (.ensureClusterRoleBinding config.clusterRoleName ns)
  Exposure.run config .cleanup sso sso.name account

/-- Undoes the exposure and deletes the client.  Both are tried; the first failure is given back. -/
def teardown (config : Config) (sso : Sso) (ns : String) : Routine (Except Error Unit) := do
  let withdrawn : Except Error Unit ←
    if sso.spec.skipExposeService then pure (.ok ())
    else ((withdraw config sso ns).mapError (.pipeline exposureStep ns sso.name)).attempt
  let deleted : Except Error Unit ←
    match sso.clientId? with
    | some id => ((Routine.call (.deleteClient id)).mapError (.pipeline clientStep ns sso.name)).attempt
    | none => pure (.ok ())
  match withdrawn with
  | .error e => return .error e
  | .ok () => return deleted

/-- Cleans up after an SSO that is being deleted, and lets go of it. -/
def cleanup (config : Config) (sso : Sso) : Routine Followup := do
  if !isHeld sso then return .awaitChange
  let ns ← Action.ofExcept sso.requireNamespace
  let result : Except Error Unit ←
    if sso.isInitialized then teardown config sso ns else pure (.ok ())
  remove sso
  match result with
  | .ok () =>
    Routine.count .cleanedUp
    return .awaitChange
  | .error e => Action.fail e

end SignOnOperator.Finalizer
