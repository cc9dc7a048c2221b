import Mathlib.Data.List.Forall2
import SignOnOperator.Proofs.CookieLoading
import SignOnOperator.Proofs.Coupling
import SignOnOperator.Proofs.Timetable
/-!
# What is to be concealed

Two runs of the operator that differ in the secrets alone: in the secret of the client, in the cookie secret, and in the
fingerprint that goes with them.  What they ask for may differ in what is to hold the secrets (`Call.concealed`), and
the replies to them in the secrets and in what bears the fingerprint (`Call.ResultsAlike`).
-/
namespace SignOnOperator

open Kubernetes

/-! ## Requests -/

/-- The secret without the values of its data. -/
def Kubernetes.Secret.concealed (s : Secret) : Secret := { s with data := s.data.map (KeyMap.map fun _ => []) }

/-- The variable without its value if it is the one that carries the fingerprint. -/
def Kubernetes.EnvVar.concealed (e : EnvVar) : EnvVar :=
  if e.name = Proxy.fingerprintVariable then { e with value := none } else e

def Kubernetes.Container.concealed (c : Container) : Container :=
  { c with env := c.env.map (List.map EnvVar.concealed) }

def Kubernetes.PodSpec.concealed (s : PodSpec) : PodSpec :=
  { s with containers := s.containers.map Container.concealed }

/-- The deployment without the fingerprint. -/
def Kubernetes.Deployment.concealed (d : Deployment) : Deployment :=
  { d with spec := d.spec.map fun s => { s with template := { s.template with
      spec := s.template.spec.map PodSpec.concealed } } }

/-- The call without what it puts into secrets, and without the fingerprint. -/
def Call.concealed : Call → Call
  | applySecret secret => applySecret secret.concealed
  | createSecret secret => createSecret secret.concealed
  | applyDeployment d => applyDeployment d.concealed
  | c => c

def OidcClient.concealed (client : OidcClient) : OidcClient := { client with secret := "" }

theorem OidcClient.concealed_eq_iff {client client' : OidcClient} :
    client.concealed = client'.concealed ↔ client.id = client'.id ∧ client.redirectUris = client'.redirectUris ∧
      client.trustedPeers = client'.trustedPeers ∧ client.isPublic = client'.isPublic ∧ client.name = client'.name ∧
      client.logoUrl = client'.logoUrl := by
  simp [concealed]

def Rehearsal.Recorded.concealed (r : Recorded) : Recorded := { r with call := r.call.concealed }

/-- The requests are the same apart from what is concealed. -/
def OperatorRequest.Alike : OperatorRequest → OperatorRequest → Prop
  | call c, call c' => c.concealed = c'.concealed
  | fillCell _, fillCell _ => True
  | r, r' => r = r'

/-! ## Replies -/

/-- The fingerprints of the deployments that two runs have applied last. -/
abbrev Fingerprints : Type := Option String × Option String

def Fingerprints.after (f : Fingerprints) : OperatorRequest → OperatorRequest → Fingerprints
  | .call (.applyDeployment d), .call (.applyDeployment d') =>
    (Proxy.deployedFingerprint? d, Proxy.deployedFingerprint? d')
  | _, _ => f

/-- The results are the same apart from the secrets, and from the fingerprint in deployments.  Where pods are listed,
each of them carries the fingerprint of its run in both or in neither. -/
def Call.ResultsAlike (f : Fingerprints) : (c c' : Call) → c.Result → c'.Result → Prop
  | createClient _ _ _ _ _, createClient _ _ _ _ _, (client : OidcClient), (client' : OidcClient) =>
    client.concealed = client'.concealed
  | getSecret _ _, getSecret _ _, (found : Option Secret), (found' : Option Secret) =>
    found = found' ∨ ∃ secret secret' value value', found = some secret ∧ found' = some secret' ∧
      CookieSecret.Holds secret value ∧ CookieSecret.Holds secret' value'
  | getDeployment _ _, getDeployment _ _, (found : Option Deployment), (found' : Option Deployment) =>
    found.map Deployment.concealed = found'.map Deployment.concealed
  | listPods _ _, listPods _ _, (pods : List Pod), (pods' : List Pod) =>
    List.Forall₂ (fun pod pod' => pod.phase = pod'.phase ∧
      (Proxy.podFingerprint? pod = f.1 ↔ Proxy.podFingerprint? pod' = f.2)) pods pods'
  | _, _, result, result' => HEq result result'

def OperatorRequest.RepliesAlike (f : Fingerprints) : (r r' : OperatorRequest) → r.Reply → r'.Reply → Prop
  | call c, call c', o, o' => Outcome.Alike (c.ResultsAlike f c') o o'
  | enterCell, enterCell, (held : Option String), (held' : Option String) => held.isSome = held'.isSome
  | _, _, _, _ => True

/-- As far as two histories go, alike requests are given alike replies. -/
def RepliesAlike : Fingerprints → History Operator → History Operator → Prop
  | f, ⟨r, reply⟩ :: h, ⟨r', reply'⟩ :: h' =>
    (OperatorRequest.Alike r r' → OperatorRequest.RepliesAlike f r r' reply reply') ∧ RepliesAlike (f.after r r') h h'
  | _, _, _ => True

/-- Two runs that differ in the secrets alone and take the same time. -/
def concealing : Coupling Operator Fingerprints where
  pairs _ := OperatorRequest.Alike
  gives f r r' reply reply' := r.RepliesAlike f r' reply reply' ∧ r.ClocksDiffer 0 r' reply reply'
  next := Fingerprints.after

/-! ## What does not matter -/

/-- What may be replied to differently, or is reckoned with in the replies to other requests. -/
def sensitive : List RequestKind :=
  [.draw, .acquire, .enterCell, .fillCell, .call .createClient, .call .getSecret, .call .getDeployment, .call .listPods,
    .call .applyDeployment]

variable {f : Fingerprints}

theorem OperatorRequest.Alike.refl (r : OperatorRequest) : r.Alike r := by
  cases r <;> first | rfl | trivial

theorem OperatorRequest.Alike.cases {r r' : OperatorRequest} (alike : r.Alike r') :
    r = r' ∨ (∃ c c', r = .call c ∧ r' = .call c' ∧ c.concealed = c'.concealed) ∨
      ∃ value value', r = .fillCell value ∧ r' = .fillCell value' := by
  unfold Alike at alike
  split at alike
  · exact .inr (.inl ⟨_, _, rfl, rfl, alike⟩)
  · exact .inr (.inr ⟨_, _, rfl, rfl⟩)
  · exact .inl alike

theorem Call.resultsAlike_eq {c : Call} (plain : .call c.kind ∉ sensitive) {a a' : c.Result}
    (alike : c.ResultsAlike f c a a') : a = a' := by
  unfold ResultsAlike at alike
  split at alike
  case h_5 => exact eq_of_heq alike
  all_goals exact absurd (by simp [sensitive]) plain

theorem Fingerprints.after_self {r : OperatorRequest} (plain : r.kind ∉ sensitive) : f.after r r = f := by
  unfold after
  split
  · exact absurd (by simp [sensitive]) plain
  · rfl

/-- What is not sensitive is replied to alike. -/
theorem concealing_repeats {r : OperatorRequest} (plain : r.kind ∉ sensitive) : concealing.Repeats f r where
  pairs := .refl r
  next := Fingerprints.after_self plain
  gives reply reply' given := by
    cases r with
    | call c => exact Outcome.alike_eq_iff.1 (given.1.imp fun a a' => Call.resultsAlike_eq plain)
    | clock => exact given.2.symm
    | pause _ | release _ | count _ | leaveCell => rfl
    | draw | acquire _ | enterCell | fillCell _ => exact absurd (by simp [sensitive]) plain

theorem concealing_keeping : concealing.Keeping f 0 where
  pairs := OperatorRequest.Alike.refl .clock
  gives _ _ given := given.2
  next := rfl
  pause _ := concealing_repeats (by simp [sensitive])

/-- A routine that asks for nothing sensitive does the same in both runs. -/
theorem Confined.concealed {α : Type} {kinds : List RequestKind} {x : Routine α} (confined : Confined kinds x)
    (plain : ∀ k ∈ kinds, k ∉ sensitive) :
    Program.Coupled concealing (fun f' o o' => f' = f ∧ o = o') f x x :=
  confined.coupled fun r hr => concealing_repeats (plain r.kind hr)

end SignOnOperator
