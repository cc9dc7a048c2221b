import SignOnOperator.Cluster.Call
import SignOnOperator.Kubernetes.Shapes.Workload
import SignOnOperator.Kubernetes.Shapes.Network
import SignOnOperator.Sso.Form
/-!
# Scripted replies

A rehearsal runs the operator's programs against a cluster that replies as a script says.  For each call the script has
a list of replies, used one after another, the last one again and again; a call that it does not mention works.
-/
namespace SignOnOperator.Rehearsal

open Kubernetes

/-- How a scripted call ends: by breaking down, with an error, with a value in its written form, or as usual. -/
inductive Ending where
  | panic
  | error (e : Error)
  | value (j : Json)
  | usual

/-- A reply, and how long it takes. -/
structure Reply where
  delay : Duration := ⟨0⟩
  ending : Ending := .usual

/-- The replies for each name of a call. -/
abbrev Script := KeyMap (List Reply)

/-- The name of a call in scripts. -/
def callName : Call → String
  | .getSso _ _ => "get_sso"
  | .patchSsoStatus _ _ _ => "patch_sso_status"
  | .patchSsoFinalizers _ _ _ => "patch_sso_finalizers"
  | .ensureClusterRoleBinding _ _ => "ensure_cluster_role_binding"
  | .getService _ _ => "get_service"
  | .applyService _ => "apply_service"
  | .getSecret _ _ => "get_secret"
  | .applySecret _ => "apply_secret"
  | .createSecret _ => "create_secret"
  | .getDeployment _ _ => "get_deployment"
  | .applyDeployment _ => "apply_deployment"
  | .listPods _ _ => "list_pods"
  | .applyConfigMap _ => "apply_config_map"
  | .deleteConfigMap _ _ => "delete_config_map"
  | .createJob _ => "create_job"
  | .getJob _ _ => "get_job"
  | .deleteJob _ _ => "delete_job"
  | .ingressHosts _ _ => "ingress_hosts"
  | .createClient _ _ _ _ _ => "create_client"
  | .updateClient _ _ _ _ _ => "update_client"
  | .deleteClient _ => "delete_client"

/-- The reply that comes next under a name, and the script without it; the last reply stays. -/
def Script.next (script : Script) (name : String) : Reply × Script :=
  match script.get? name with
  | some (reply :: next :: rest) => (reply, script.insert name (next :: rest))
  | some [reply] => (reply, script)
  | _ => ({}, script)

/-! ## Values -/

/-- The value of an object of a shape. -/
def readObject {α : Type} (shape : Shape) (ofJson : Json → α) (j : Json) : Except Error α :=
  match shape.ofJson j with
  | .ok normal => .ok (ofJson normal)
  | .error message => .error (.serialization message)

/-- The value of an object that may be absent. -/
def readFound {α : Type} (shape : Shape) (ofJson : Json → α) (j : Json) : Except Error (Option α) :=
  if j.isNull then .ok none else (readObject shape ofJson j).map some

/-- A client; what is missing is empty. -/
def readClient (j : Json) : OidcClient where
  id := (j.get "id").text
  secret := (j.get "secret").text
  redirectUris := (j.get "redirect_uris").texts
  trustedPeers := (j.get "trusted_peers").texts
  isPublic := (j.get "public").bool?.getD false
  name := (j.get "name").text
  logoUrl := (j.get "logo_url").text

/-- The element at an index; a negative index counts from the end. -/
def atIndex? {α : Type} (l : List α) (i : Int) : Option α :=
  match i with
  | .ofNat n => l[n]?
  | .negSucc n => l.reverse[n]?

/-- A pod.  With a member `template` its specification is the one of that template. -/
def readPod (templates : List (Option PodSpec)) (j : Json) : Except Error Pod := do
  let pod ← readObject Shapes.pod Pod.ofJson j
  match (j.get "template").int? with
  | some i => return { pod with spec := (atIndex? templates i).join }
  | none => return pod

/-- The result of a call that is written as a value.  For calls without a result the value does not count. -/
def readResult (templates : List (Option PodSpec)) : (c : Call) → Json → Except Error c.Result
  | .getSso _ _, j => readFound Sso.shape Sso.ofNormal j
  | .ensureClusterRoleBinding _ _, j => readObject .text Json.text j
  | .getService _ _, j => readFound Shapes.service Service.ofJson j
  | .getSecret _ _, j => readFound Shapes.secret Secret.ofJson j
  | .getDeployment _ _, j => readFound Shapes.deployment Deployment.ofJson j
  | .listPods _ _, j => do
    let _ ← readObject (.list .anything) id j
    j.items.mapM (readPod templates)
  | .getJob _ _, j => readFound Shapes.job Job.ofJson j
  | .ingressHosts _ _, j => readObject (.list .text) Json.texts j
  | .createClient _ _ _ _ _, j => .ok (readClient j)
  | .patchSsoStatus _ _ _, _ | .patchSsoFinalizers _ _ _, _ | .applyService _, _ | .applySecret _, _
  | .createSecret _, _ | .applyDeployment _, _ | .applyConfigMap _, _ | .deleteConfigMap _ _, _
  | .createJob _, _ | .deleteJob _ _, _ | .updateClient _ _ _ _ _, _ | .deleteClient _, _ => .ok ()

end SignOnOperator.Rehearsal
