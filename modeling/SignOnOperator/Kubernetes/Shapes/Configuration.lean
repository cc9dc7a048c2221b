import SignOnOperator.Kubernetes.Shapes.Metadata
import SignOnOperator.Kubernetes.Shapes.Volume
/-!
# Shapes of configuration

Secrets, configuration maps, service accounts and the bindings of cluster roles.
-/
namespace SignOnOperator.Kubernetes.Shapes

def secret : Shape :=
  .marked "Secret" [⟨"apiVersion", "v1"⟩, ⟨"kind", "Secret"⟩]
    [optional "data" (.map base64), optional "immutable" .boolean, required "metadata" objectMeta,
      optional "stringData" (.map .text), optional "type" .text]

def configMap : Shape :=
  .marked "ConfigMap" [⟨"apiVersion", "v1"⟩, ⟨"kind", "ConfigMap"⟩]
    [optional "binaryData" (.map base64), optional "data" (.map .text), optional "immutable" .boolean,
      required "metadata" objectMeta]

def serviceAccount : Shape :=
  .marked "ServiceAccount" [⟨"apiVersion", "v1"⟩, ⟨"kind", "ServiceAccount"⟩]
    [optional "automountServiceAccountToken" .boolean, optional "imagePullSecrets" (.list localObjectReference),
      required "metadata" objectMeta, optional "secrets" (.list objectReference)]

def roleRef : Shape :=
  .lenient "RoleRef"
    [required "apiGroup" .text, required "kind" .text, required "name" .text]

def subject : Shape :=
  .lenient "Subject"
    [optional "apiGroup" .text, required "kind" .text, required "name" .text, optional "namespace" .text]

def clusterRoleBinding : Shape :=
  .marked "ClusterRoleBinding" [⟨"apiVersion", "rbac.authorization.k8s.io/v1"⟩, ⟨"kind", "ClusterRoleBinding"⟩]
    [required "metadata" objectMeta, required "roleRef" roleRef, optional "subjects" (.list subject)]

end SignOnOperator.Kubernetes.Shapes
