import SignOnOperator.Kubernetes.Metadata
import SignOnOperator.Kubernetes.Shapes.Configuration
/-!
# Bindings of roles

A binding gives a role to subjects, among them service accounts.
-/
namespace SignOnOperator.Kubernetes

structure RoleRef where
  apiGroup : String := ""
  kind : String := ""
  name : String := ""
  deriving DecidableEq

structure Subject where
  apiGroup : Option String := none
  kind : String
  name : String
  namespaceName : Option String := none
  deriving DecidableEq

structure ClusterRoleBinding where
  metadata : ObjectMeta := {}
  roleRef : RoleRef := {}
  subjects : Option (List Subject) := none

namespace RoleRef

def ofJson (j : Json) : RoleRef where
  apiGroup := (j.get "apiGroup").text
  kind := (j.get "kind").text
  name := (j.get "name").text

def toJson (r : RoleRef) : Json :=
  .object [("apiGroup", .str r.apiGroup), ("kind", .str r.kind), ("name", .str r.name)]

end RoleRef

namespace Subject

def ofJson (j : Json) : Subject where
  apiGroup := (j.get "apiGroup").str?
  kind := (j.get "kind").text
  name := (j.get "name").text
  namespaceName := (j.get "namespace").str?

def toJson (s : Subject) : Json :=
  .objectOf
    [("apiGroup", s.apiGroup.map .str), ("kind", some (.str s.kind)), ("name", some (.str s.name)),
      ("namespace", s.namespaceName.map .str)]

end Subject

namespace ClusterRoleBinding

def ofJson (j : Json) : ClusterRoleBinding where
  metadata := .ofJson (j.get "metadata")
  roleRef := .ofJson (j.get "roleRef")
  subjects := (j.get? "subjects").map fun l => l.items.map Subject.ofJson

def toJson (b : ClusterRoleBinding) : Json :=
  .objectOf (header "rbac.authorization.k8s.io/v1" "ClusterRoleBinding" b.metadata ++
    [("roleRef", some b.roleRef.toJson), ("subjects", b.subjects.map fun l => .arr (l.map Subject.toJson))])

/-- Whether the binding gives a cluster role of a name. -/
def binds (b : ClusterRoleBinding) (clusterRole : String) : Bool :=
  b.roleRef.kind = "ClusterRole" && b.roleRef.name = clusterRole

/-- Whether a subject is a service account of a namespace. -/
def isAccountOf (namespaceName : String) (s : Subject) : Bool :=
  s.kind = "ServiceAccount" && s.namespaceName = some namespaceName

/-- The first service account of a namespace that the binding gives its role to. -/
def accountIn? (b : ClusterRoleBinding) (namespaceName : String) : Option String :=
  ((b.subjects.getD []).find? (isAccountOf namespaceName)).map (·.name)

/-- The binding with one more service account, after all others. -/
def addAccount (b : ClusterRoleBinding) (name namespaceName : String) : ClusterRoleBinding :=
  { b with
    subjects := some (b.subjects.getD [] ++
      [{ kind := "ServiceAccount", name := name, namespaceName := some namespaceName }]) }

end ClusterRoleBinding

/-- An account under which pods run. -/
structure ServiceAccount where
  metadata : ObjectMeta

def ServiceAccount.toJson (a : ServiceAccount) : Json := .objectOf (header "v1" "ServiceAccount" a.metadata)

end SignOnOperator.Kubernetes
