import SignOnOperator.Kubernetes.Rbac
import SignOnOperator.Labels
import SignOnOperator.Program
/-!
# Binding service accounts

The pods of an exposure run under a service account that has the operator's cluster role.  The role's binding is
installed along with the operator; what is added here is a service account for each namespace that has none yet.
-/
namespace SignOnOperator

open Kubernetes

/-- An interface through which bindings and service accounts are reached. -/
class BindingAccess (I : Interface) where
  /-- All bindings of cluster roles. -/
  bindings : Action I (List ClusterRoleBinding)
  createAccount : ServiceAccount → Action I Unit
  /-- Writes a binding over the one of its name. -/
  replaceBinding : ClusterRoleBinding → Action I Unit

namespace Binding

/-- The service account of a namespace that is given the role if none has it. -/
def accountName : String := "sso-operator-sa"

def account (namespaceName : String) : ServiceAccount where
  metadata := { name := some accountName, namespaceName := some namespaceName, labels := some Labels.common }

variable {I : Interface} [BindingAccess I]

/-- Creates the service account, unless it is there. -/
def ensureAccount (namespaceName : String) : Action I Unit := do
  match ← (BindingAccess.createAccount (I := I) (account namespaceName)).attempt with
  | .ok () => return ()
  | .error e => if e.isConflict then return () else Action.fail e

/-- Gives the role to a service account of the namespace by the first binding of the role, and tells its name.  A
namespace that has such an account keeps it. -/
def ensure (clusterRole namespaceName : String) : Action I String := do
  let bindings ← BindingAccess.bindings
  let binding ← Action.require (bindings.find? fun b => b.binds clusterRole) (.clusterRoleBindingNotFound clusterRole)
  match binding.accountIn? namespaceName with
  | some name => return name
  | none =>
    ensureAccount namespaceName
    BindingAccess.replaceBinding (binding.addAccount accountName namespaceName)
    return accountName

end Binding
end SignOnOperator
