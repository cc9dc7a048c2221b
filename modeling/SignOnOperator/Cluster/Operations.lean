import SignOnOperator.Cluster.Binding
import SignOnOperator.Cluster.Server
import SignOnOperator.Kubernetes.Service
/-!
# Operations on the cluster

What the operator does with objects of certain kinds, as requests to the cluster's server.
-/
namespace SignOnOperator.Cluster

open Http (Server)
open Kubernetes

/-- Writes the status of an SSO. -/
def patchSsoStatus (namespaceName name : String) (status : SsoStatus) : Action Server Unit :=
  merge .ssos namespaceName name "/status" (.object [("status", status.toJson)])

/-- Replaces the finalizers of an SSO. -/
def patchSsoFinalizers (namespaceName name : String) (finalizers : List String) : Action Server Unit :=
  merge .ssos namespaceName name "" (.object [("metadata", .object [("finalizers", .strings finalizers)])])

def listPods (namespaceName selector : String) : Action Server (List Json) :=
  list .pods (some namespaceName) (some selector)

def deleteConfigMap (namespaceName name : String) : Action Server Unit :=
  remove .configMaps namespaceName name (.obj [])

/-- Removes a job, and lets the cluster remove its pods afterwards. -/
def deleteJob (namespaceName name : String) : Action Server Unit :=
  remove .jobs namespaceName name (.object [("propagationPolicy", .str "Background")])

/-- The hosts of an ingress. -/
def ingressHosts (namespaceName name : String) : Action Server (List String) := do
  let found ← get? .ingresses namespaceName name
  let ingress ← Action.require found (.ingressNotFound namespaceName name)
  return (Ingress.ofJson ingress).hosts

instance : BindingAccess Server where
  bindings := do
    let found ← list .clusterRoleBindings none none
    return found.map ClusterRoleBinding.ofJson
  createAccount account := create .serviceAccounts account.toJson
  replaceBinding binding := do
    let path ← objectPath .clusterRoleBindings none binding.metadata.nameAny
    let _ ← exchange .put (path ++ "?") (plainContent binding.toJson)
      (Answer.object Resource.clusterRoleBindings.shape)

/-- Gives a cluster role to a service account of a namespace. -/
def ensureClusterRoleBinding (clusterRole namespaceName : String) : Action Server String :=
  Binding.ensure clusterRole namespaceName

end SignOnOperator.Cluster
