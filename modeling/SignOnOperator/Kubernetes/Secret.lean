import SignOnOperator.Bytes.Base64
import SignOnOperator.Kubernetes.Metadata
import SignOnOperator.Kubernetes.Shapes.Configuration
/-!
# Secrets and configuration maps

Objects that hold data under keys.  The data of a secret are bytes, written in base 64; besides, a secret may have
been given as texts.
-/
namespace SignOnOperator.Kubernetes

structure Secret where
  metadata : ObjectMeta := {}
  data : Option (KeyMap Bytes) := none
  stringData : Option (KeyMap String) := none

namespace Secret

def ofJson (j : Json) : Secret where
  metadata := .ofJson (j.get "metadata")
  data := (ObjectMeta.textMap? "data" j).map fun m =>
    m.map fun s => match Base64.decode (.ofString s) with
      | .ok bytes => bytes
      | .error _ => []
  stringData := ObjectMeta.textMap? "stringData" j

def toJson (s : Secret) : Json :=
  .objectOf (header "v1" "Secret" s.metadata ++
    [("data", s.data.map fun m => .textMap (m.map Base64.encode)), ("stringData", s.stringData.map .textMap)])

end Secret

structure ConfigMap where
  metadata : ObjectMeta := {}
  data : Option (KeyMap String) := none

namespace ConfigMap

def toJson (c : ConfigMap) : Json :=
  .objectOf (header "v1" "ConfigMap" c.metadata ++ [("data", c.data.map .textMap)])

end ConfigMap
end SignOnOperator.Kubernetes
