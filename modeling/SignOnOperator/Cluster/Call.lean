import SignOnOperator.Kubernetes.Rbac
import SignOnOperator.Kubernetes.Secret
import SignOnOperator.Kubernetes.Service
import SignOnOperator.Kubernetes.Workload
import SignOnOperator.OidcClient
import SignOnOperator.Program
import SignOnOperator.Sso.Basic
/-!
# What the operator asks for

The calls that the operator makes of the cluster and of the identity provider, each with the type of what it gives
back, and the other requests of its programs: time, chance, and the state that all reconciliations share.
-/
namespace SignOnOperator

open Kubernetes

/-- A call of the cluster or of the identity provider. -/
inductive Call where
  | getSso (namespaceName name : String)
  | patchSsoStatus (namespaceName name : String) (status : SsoStatus)
  | patchSsoFinalizers (namespaceName name : String) (finalizers : List String)
  | ensureClusterRoleBinding (clusterRole namespaceName : String)
  | getService (namespaceName name : String)
  | applyService (service : Service)
  | getSecret (namespaceName name : String)
  | applySecret (secret : Secret)
  | createSecret (secret : Secret)
  | getDeployment (namespaceName name : String)
  | applyDeployment (deployment : Deployment)
  | listPods (namespaceName selector : String)
  | applyConfigMap (configMap : ConfigMap)
  | deleteConfigMap (namespaceName name : String)
  | createJob (job : Job)
  | getJob (namespaceName name : String)
  | deleteJob (namespaceName name : String)
  | ingressHosts (namespaceName name : String)
  | createClient (redirectUris trustedPeers : List String) (isPublic : Bool) (name logoUrl : String)
  | updateClient (id : String) (redirectUris trustedPeers : List String) (name logoUrl : String)
  | deleteClient (id : String)

/-- What a call gives back if it works. -/
def Call.Result : Call → Type
  | getSso _ _ => Option Sso
  | ensureClusterRoleBinding _ _ => String
  | getService _ _ => Option Service
  | getSecret _ _ => Option Secret
  | getDeployment _ _ => Option Deployment
  | listPods _ _ => List Pod
  | getJob _ _ => Option Job
  | ingressHosts _ _ => List String
  | createClient _ _ _ _ _ => OidcClient
  | patchSsoStatus _ _ _ | patchSsoFinalizers _ _ _ | applyService _ | applySecret _ | createSecret _
  | applyDeployment _ | applyConfigMap _ | deleteConfigMap _ _ | createJob _ | deleteJob _ _
  | updateClient _ _ _ _ _ | deleteClient _ => Unit

/-- What the operator counts. -/
inductive Counter where
  | reconciled | failed | provisioned | cleanedUp | duplicate | compensated
  deriving DecidableEq, Repr

/-- The number of characters of a generated secret. -/
def secretLength : Nat := 32

/-- The number of letters and digits that a generated secret is made of. -/
def alphabetSize : Nat := 62

theorem alphabetSize_pos : 0 < alphabetSize := by decide

/-- What an operator's program may ask for.  The cell holds the cookie secret once one reconciliation has loaded it:
entering gives the secret, or the sole right to load it, which ends by filling the cell or by leaving it. -/
inductive OperatorRequest where
  | call (c : Call)
  | clock
  | pause (d : Duration)
  | draw
  | acquire (key : SsoKey)
  | release (key : SsoKey)
  | count (c : Counter)
  | enterCell
  | fillCell (secret : String)
  | leaveCell

/-- The replies: how a call ended, the time in nanoseconds, random choices, whether a key was free, and what is in the
cell. -/
def OperatorRequest.Reply : OperatorRequest → Type
  | call c => Outcome c.Result
  | clock => Nat
  | draw => Fin secretLength → Fin alphabetSize
  | acquire _ => Bool
  | enterCell => Option String
  | pause _ | release _ | count _ | fillCell _ | leaveCell => Unit

/-- The interface of the operator's programs. -/
def Operator : Interface := ⟨OperatorRequest, OperatorRequest.Reply⟩

/-- An action of the operator. -/
abbrev Routine (α : Type) : Type := Action Operator α

namespace Routine

/-- Makes a call. -/
def call (c : Call) : Routine c.Result := Program.ask (I := Operator) (.call c) .done

def clock : Routine Nat := Action.request (I := Operator) .clock

def pause (d : Duration) : Routine Unit := Action.request (I := Operator) (.pause d)

def count (c : Counter) : Routine Unit := Action.request (I := Operator) (.count c)

/-- Takes a key if it is free. -/
def acquire (key : SsoKey) : Routine Bool := Action.request (I := Operator) (.acquire key)

/-- The secret in the cell, or the right to load it. -/
def enterCell : Routine (Option String) := Action.request (I := Operator) .enterCell

/-- Random choices of letters and digits. -/
def draw : Routine (Fin secretLength → Fin alphabetSize) := Action.request (I := Operator) .draw

end Routine
end SignOnOperator
