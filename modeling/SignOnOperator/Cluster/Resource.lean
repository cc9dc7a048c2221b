import SignOnOperator.Kubernetes.Shapes.Configuration
import SignOnOperator.Kubernetes.Shapes.Network
import SignOnOperator.Kubernetes.Shapes.Pod
import SignOnOperator.Kubernetes.Shapes.Workload
import SignOnOperator.Sso.Form
/-!
# Resources

The kinds of objects that the operator uses, with where the cluster's server keeps them and the shape of their
manifests.
-/
namespace SignOnOperator

open Kubernetes

/-- A kind of objects.  `root` is the path of the group and version to which it belongs. -/
structure Resource where
  root : String
  plural : String
  shape : Shape

namespace Resource

def secrets : Resource := ⟨"/api/v1", "secrets", Shapes.secret⟩
def configMaps : Resource := ⟨"/api/v1", "configmaps", Shapes.configMap⟩
def services : Resource := ⟨"/api/v1", "services", Shapes.service⟩
def pods : Resource := ⟨"/api/v1", "pods", Shapes.pod⟩
def serviceAccounts : Resource := ⟨"/api/v1", "serviceaccounts", Shapes.serviceAccount⟩
def deployments : Resource := ⟨"/apis/apps/v1", "deployments", Shapes.deployment⟩
def jobs : Resource := ⟨"/apis/batch/v1", "jobs", Shapes.job⟩
def ingresses : Resource := ⟨"/apis/networking.k8s.io/v1", "ingresses", Shapes.ingress⟩
def clusterRoleBindings : Resource :=
  ⟨"/apis/rbac.authorization.k8s.io/v1", "clusterrolebindings", Shapes.clusterRoleBinding⟩
def ssos : Resource := ⟨"/apis/jenkins.io/v1", "ssos", Sso.shape⟩

/-- Where all objects of the kind are kept, in one namespace if one is given. -/
def collection (r : Resource) (namespaceName : Option String) : String :=
  match namespaceName with
  | some ns => s!"{r.root}/namespaces/{ns}/{r.plural}"
  | none => s!"{r.root}/{r.plural}"

end Resource
end SignOnOperator
