import SignOnOperator.Cluster.Answer
import SignOnOperator.Cluster.Resource
import SignOnOperator.Uri.Basic
import SignOnOperator.Uri.Form
/-!
# Requests to the cluster's server

Reading, writing and removing objects by HTTP.  A request that no address can be made for is not sent.
-/
namespace SignOnOperator.Cluster

open Http (Server Content Reply)
open Kubernetes (ObjectMeta)

/-- The name by which the operator owns the parts of objects that it writes. -/
def fieldManager : String := "sso-operator"

def unsendable (message : String) : Error := .cluster (.unsendable message)

/-- Sends a request. -/
def send (method : Http.Method) (uri : String) (content : Option Content) : Action Server Reply := do
  let uri ← Action.ofExcept <| (Uri.ofPath uri).mapError fun fault =>
    unsendable s!"failed to build request: {fault.message}"
  Action.request (I := Server) { method, uri, content }

/-- Sends a request and reads the reply. -/
def exchange {α : Type} (method : Http.Method) (uri : String) (content : Option Content)
    (read : Reply → Except ClusterError α) : Action Server α := do
  let reply ← send method uri content
  Action.ofExcept ((read reply).mapError .cluster)

/-- A JSON value as it is. -/
def plainContent (body : Json) : Option Content := some ⟨"application/json", body⟩

/-- Where an object is kept. -/
def objectPath (r : Resource) (namespaceName : Option String) (name : String) : Action Server String :=
  if name = "" then Action.fail (unsendable "failed to validate request: A non-empty name is required")
  else pure s!"{r.collection namespaceName}/{name}"

/-- The namespace that a manifest names. -/
def namespaceOf (metadata : ObjectMeta) : Action Server String :=
  Action.require metadata.namespaceName (.missingNamespace metadata.nameAny)

/-- The object of a name, if there is one. -/
def get? (r : Resource) (namespaceName name : String) : Action Server (Option Json) := do
  let path ← objectPath r (some namespaceName) name
  exchange .get path none (Answer.object? r.shape)

/-- The objects of a kind, those alone that a selector matches if one is given. -/
def list (r : Resource) (namespaceName selector : Option String) : Action Server (List Json) :=
  let parameters := selector.toList.map fun s => ("labelSelector", s)
  exchange .get (r.collection namespaceName ++ "?" ++ Uri.formQuery parameters) none (Answer.list r.shape)

/-- Writes an object, made if there is none, over what others wrote. -/
def apply (r : Resource) (manifest : Json) : Action Server Unit := do
  let metadata := ObjectMeta.ofJson (manifest.get "metadata")
  let ns ← namespaceOf metadata
  let path ← objectPath r (some ns) metadata.nameAny
  let query := Uri.formQuery [("force", "true"), ("fieldManager", fieldManager)]
  let _ ← exchange .patch s!"{path}?{query}" (some ⟨"application/apply-patch+yaml", manifest⟩)
    (Answer.object r.shape)

/-- Makes an object of a manifest, which must not exist. -/
def create (r : Resource) (manifest : Json) : Action Server Unit := do
  let ns ← namespaceOf (.ofJson (manifest.get "metadata"))
  let _ ← exchange .post (r.collection (some ns) ++ "?") (plainContent manifest) (Answer.object r.shape)

/-- Changes some members of an object, or of a part of it that is kept under a path of its own. -/
def merge (r : Resource) (namespaceName name part : String) (change : Json) : Action Server Unit := do
  let path ← objectPath r (some namespaceName) name
  let _ ← exchange .patch s!"{path}{part}?" (some ⟨"application/merge-patch+json", change⟩)
    (Answer.object r.shape)

/-- Removes an object; one that is not there counts as removed. -/
def remove (r : Resource) (namespaceName name : String) (options : Json) : Action Server Unit := do
  let path ← objectPath r (some namespaceName) name
  match ← (exchange .delete (path ++ "?") (plainContent options) (Answer.removed r.shape)).attempt with
  | .ok () => return ()
  | .error e => if e.isNotFound then return () else Action.fail e

end SignOnOperator.Cluster
