import SignOnOperator.Reconcile.Finalizer
import SignOnOperator.Reconcile.Provision
/-!
# Reconciliation

What the operator does when an SSO has changed.  While one change of an SSO is being dealt with, further ones of the
same SSO are dropped.  What is done depends on the SSO as it is now, not on the event that told of the change.
-/
namespace SignOnOperator.Reconcile

/-- What a change asks of the operator. -/
inductive Demand where
  | apply | cleanup
  deriving DecidableEq, Repr

/-- An SSO that is being deleted is to be cleaned up after, any other to be provisioned. -/
def demandOf (sso : Sso) : Demand := if sso.metadata.isDeleted then .cleanup else .apply

/-- Provisions an SSO, unless that is done. -/
def apply (config : Config) (sso : Sso) : Routine Followup := do
  if sso.isInitialized then return .awaitChange
  Finalizer.ensure sso
  Provision.run config sso
  Routine.count .provisioned
  return .awaitChange

/-- Reads the SSO of a key and does what it asks for. -/
def admitted (config : Config) (key : SsoKey) : Routine Followup := do
  match ← Routine.call (.getSso key.namespaceName key.name) with
  | none => return .awaitChange
  | some sso =>
    match demandOf sso with
    | .cleanup => Finalizer.cleanup config sso
    | .apply => apply config sso

/-- Deals with an event that tells of a change of an SSO. -/
def run (config : Config) (event : Sso) : Routine Followup := do
  Routine.count .reconciled
  let key ← Action.ofExcept (SsoKey.ofSso event)
  if ← Routine.acquire key then
    (admitted config key).andFinally (.request (I := Operator) (.release key))
  else
    Routine.count .duplicate
    return .awaitChange

/-- When to try again after a failure, which is counted. -/
def errorPolicy (e : Error) : Program Operator Followup :=
  .ask (I := Operator) (.count .failed) fun _ => .done e.followup

/-- Deals with an event, and with the failure to do so. -/
def attend (config : Config) (event : Sso) : Routine Followup :=
  Program.bind (run config event) fun
    | .error e => (errorPolicy e).bind fun _ => .done (.error e)
    | outcome => .done outcome

end SignOnOperator.Reconcile
