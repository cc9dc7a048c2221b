import Mathlib.Logic.Function.Basic
import SignOnOperator.Proofs.Assurance
import SignOnOperator.Proofs.Realm
/-!
# A faithful cluster

What a cluster and an identity provider hold when nothing is wrong with them.  Reads give what is held, writes are
accepted and take effect, and only the creation of what is there already is refused.  What the operator waits for has
come about by the time it looks: jobs are complete, deployments are settled, and pods run what was applied last.
-/
namespace SignOnOperator

open Kubernetes

/-- Where an object is kept: a namespace, and a name in it. -/
abbrev Location : Type := String × String

def Kubernetes.ObjectMeta.location (m : ObjectMeta) : Location := (m.namespaceName.getD "", m.nameAny)

/-- The job has come to a good end. -/
structure Kubernetes.Job.IsComplete (job : Job) : Prop where
  completed : ∃ c ∈ job.conditions, c.type = "Complete" ∧ c.status = "True"
  unfailed : ∀ c ∈ job.conditions, c.type = "Failed" → c.status ≠ "True"

theorem Kubernetes.Job.IsComplete.ready {job : Job} (complete : job.IsComplete) :
    Waiting.jobVerdict job = .ready := by
  obtain ⟨c, hc, type, status⟩ := complete.completed
  unfold Waiting.jobVerdict
  cases found : job.conditions.find? fun c => c.status = "True" && (c.type = "Complete" || c.type = "Failed") with
  | none => simpa [type, status] using List.find?_eq_none.1 found c hc
  | some ended =>
    have kind := List.find?_some found
    have notFailed := complete.unfailed ended (List.mem_of_find?_eq_some found)
    simp only [Bool.and_eq_true, Bool.or_eq_true, decide_eq_true_eq] at kind
    rcases kind with ⟨yes, completed | failed⟩
    · exact if_pos completed
    · exact absurd yes (notFailed failed)

/-- The cluster has taken note of the latest specification, and there are as many pods as it asks for. -/
structure Kubernetes.Deployment.IsSettled (d : Deployment) : Prop where
  observed : d.metadata.generation.getD 0 ≤ (d.status.bind (·.observedGeneration)).getD 0
  replicas : (d.status.bind (·.replicas)).getD 0 = (d.spec.bind (·.replicas)).getD 1

/-- What is held.  The template is that of the deployment that was applied last. -/
structure Holdings where
  ssos : SsoKey → Option Sso
  services : Location → Option Service
  secrets : Location → Option Secret
  deployments : Location → Option Deployment
  template : Option PodSpec
  jobs : Location → Option Job
  clients : List OidcClient

namespace Holdings

/-- The call would create what is there already. -/
def Conflicts (H : Holdings) : Call → Prop
  | .createSecret secret => (H.secrets secret.metadata.location).isSome = true
  | .createJob job => (H.jobs job.metadata.location).isSome = true
  | _ => False

/-- What a call may give back that works. -/
def Gives (H : Holdings) : (c : Call) → c.Result → Prop
  | .getSso ns name, found => found = H.ssos ⟨ns, name⟩
  | .getService ns name, found => found = H.services (ns, name)
  | .getSecret ns name, found => found = H.secrets (ns, name)
  | .getDeployment ns name, found =>
    Option.Rel (fun held shown => shown.spec = held.spec ∧ shown.IsSettled) (H.deployments (ns, name)) found
  | .getJob ns name, found => Option.Rel (fun _ shown => shown.IsComplete) (H.jobs (ns, name)) found
  | .listPods _ _, (pods : List Pod) => pods ≠ [] ∧ ∀ pod ∈ pods, pod.spec = H.template ∧ pod.phase = "Running"
  | .ingressHosts _ _, (hosts : List String) => hosts ≠ []
  | .createClient redirectUris trustedPeers isPublic name logoUrl, (client : OidcClient) =>
    client = { id := client.id, secret := client.secret, redirectUris, trustedPeers, isPublic, name, logoUrl }
  | _, _ => True

def put (H : Holdings) (key : SsoKey) (sso : Sso) : Holdings :=
  { H with ssos := Function.update H.ssos key (some sso) }

/-- An SSO with something changed in it, if it is there. -/
def edit (H : Holdings) (key : SsoKey) (f : Sso → Sso) : Holdings :=
  { H with ssos := Function.update H.ssos key ((H.ssos key).map f) }

/-- What is held after a call that worked. -/
def after (H : Holdings) : (c : Call) → c.Result → Holdings
  | .patchSsoStatus ns name status, _ => H.edit ⟨ns, name⟩ fun sso => sso.withStatus status
  | .patchSsoFinalizers ns name finalizers, _ => H.edit ⟨ns, name⟩ fun sso => sso.withFinalizers finalizers
  | .applyService service, _ =>
    { H with services := Function.update H.services service.metadata.location (some service) }
  | .applySecret secret, _ | .createSecret secret, _ =>
    { H with secrets := Function.update H.secrets secret.metadata.location (some secret) }
  | .applyDeployment d, _ =>
    { H with deployments := Function.update H.deployments d.metadata.location (some d), template := d.podSpec? }
  | .createJob job, _ => { H with jobs := Function.update H.jobs job.metadata.location (some job) }
  | .deleteJob ns name, _ => { H with jobs := Function.update H.jobs (ns, name) none }
  | .createClient _ _ _ _ _, (client : OidcClient) => { H with clients := client :: H.clients }
  | .updateClient id redirectUris trustedPeers name logoUrl, _ =>
    { H with clients := H.clients.map fun client =>
        if client.id = id then { client with redirectUris, trustedPeers, name, logoUrl } else client }
  | .deleteClient id, _ => { H with clients := H.clients.filter fun client => client.id ≠ id }
  | _, _ => H

/-- How a call may end, and what is held then. -/
def Answers (H : Holdings) (c : Call) : Outcome c.Result → Holdings → Prop
  | .ok a, H' => ¬H.Conflicts c ∧ H.Gives c a ∧ H' = H.after c a
  | .error e, H' => H.Conflicts c ∧ e.isConflict = true ∧ H' = H
  | .panic, _ => False

end Holdings

/-- A cluster and an identity provider that do as they are told, and that nobody else has to do with. -/
def faithful : Surroundings Holdings where
  answers H _ c outcome H' := H.Answers c outcome H'
  drifts _ _ := False

namespace Holdings

variable {H H' H'' : Holdings} {event : Sso} {shared : Shared} {α β : Type} {c : Call}

theorem exists_rel {r : α → β → Prop} (total : ∀ a, ∃ b, r a b) : ∀ held, ∃ shown, Option.Rel r held shown
  | none => ⟨none, .none⟩
  | some a => (total a).imp' some fun _ => .some

/-- There is always something to give back. -/
theorem exists_gives (H : Holdings) (c : Call) : ∃ a, H.Gives c a := by
  cases c with
  | getSso | getService | getSecret => exact ⟨_, rfl⟩
  | getDeployment =>
    -- The deployment as it is held, with a status that tells that it has settled.
    refine exists_rel (fun d => ?_) _
    let status : DeploymentStatus :=
      { observedGeneration := d.metadata.generation, replicas := (d.spec.bind (·.replicas)).getD 1 }
    exact ⟨{ d with status := some status }, rfl, le_rfl, rfl⟩
  | getJob =>
    exact exists_rel (fun job => ⟨{ job with conditions := [⟨"Complete", "True", none⟩] }, by simp, by simp⟩) _
  | listPods => exact ⟨[{ spec := H.template, phase? := some "Running" }], by simp, by simp [Pod.phase]⟩
  | ingressHosts => exact ⟨["host"], List.cons_ne_nil _ _⟩
  | ensureClusterRoleBinding => exact ⟨"account", trivial⟩
  | createClient redirectUris trustedPeers isPublic name logoUrl =>
    exact ⟨{ redirectUris, trustedPeers, isPublic, name, logoUrl }, rfl⟩
  | _ => exact ⟨(), trivial⟩

theorem put_ssos (H : Holdings) (key : SsoKey) (sso : Sso) : (H.put key sso).ssos key = some sso :=
  Function.update_self ..

section Stored

variable {key : SsoKey} {sso : Sso} (stored : H.ssos key = some sso)
include stored

theorem put_eq_self : H.put key sso = H := by
  rw [put, ← stored, Function.update_eq_self]

theorem edit_eq_put (f : Sso → Sso) : H.edit key f = H.put key (f sso) := by
  rw [edit, stored]
  rfl

end Stored

theorem not_conflicts_createSecret {secret : Secret} (free : H.secrets secret.metadata.location = none) :
    ¬H.Conflicts (.createSecret secret) := by
  simp [Conflicts, free]

theorem not_conflicts_createJob {job : Job} (free : H.jobs job.metadata.location = none) :
    ¬H.Conflicts (.createJob job) := by
  simp [Conflicts, free]

theorem createJob_jobs (H : Holdings) (job : Job) :
    (H.after (.createJob job) ()).jobs job.metadata.location = some job :=
  Function.update_self ..

/-- A job that is created and deleted again leaves the jobs that were there before. -/
theorem createJob_deleteJob_jobs (job : Job) {ns name : String} (location : job.metadata.location = (ns, name))
    (clear : H.jobs (ns, name) = none) :
    ((H.after (.createJob job) ()).after (.deleteJob ns name) ()).jobs = H.jobs := by
  change Function.update (Function.update H.jobs job.metadata.location (some job)) (ns, name) none = H.jobs
  rw [location, Function.update_idem, ← clear, Function.update_eq_self]

/-- An update changes no client's id. -/
theorem updateClient_ids (H : Holdings) (id : String) (redirectUris trustedPeers : List String)
    (name logoUrl : String) :
    (H.after (.updateClient id redirectUris trustedPeers name logoUrl) ()).clients.map (·.id) =
      H.clients.map (·.id) := by
  refine List.map_map.trans (List.map_congr_left fun client _ => ?_)
  dsimp only [Function.comp]
  split
  · rfl
  · rfl

/-! ## Calls -/

theorem assures_call {post : Outcome c.Result → Shared → Holdings → Prop} (new : ¬H.Conflicts c)
    (given : ∀ a, H.Gives c a → post (.ok a) shared (H.after c a)) :
    Program.Assures faithful event post (Routine.call c) shared H := by
  refine Routine.assures_call ?_ fun outcome H' answered => ?_
  · obtain ⟨a, ha⟩ := H.exists_gives c
    exact ⟨.ok a, _, new, ha, rfl⟩
  · cases outcome with
    | ok a =>
      obtain ⟨-, ha, rfl⟩ := answered
      exact given a ha
    | error e => exact absurd answered.1 new
    | panic => exact answered.elim

/-- A call that would create what is there already is refused. -/
theorem assures_call_of_conflict {post : Outcome c.Result → Shared → Holdings → Prop} (taken : H.Conflicts c)
    (refused : ∀ e : Error, e.isConflict = true → post (.error e) shared H) :
    Program.Assures faithful event post (Routine.call c) shared H := by
  refine Routine.assures_call ?_ fun outcome H' answered => ?_
  · exact ⟨.error (.cluster (.refused ⟨"", "", "", 409⟩)), H, taken, rfl, rfl⟩
  · cases outcome with
    | ok a => exact absurd taken answered.1
    | error e =>
      obtain ⟨-, conflict, rfl⟩ := answered
      exact refused e conflict
    | panic => exact answered.elim

theorem assures_call_bind {post : Outcome β → Shared → Holdings → Prop} {f : c.Result → Routine β}
    (new : ¬H.Conflicts c)
    (later : ∀ a, H.Gives c a → Program.Assures faithful event post (f a) shared (H.after c a)) :
    Program.Assures faithful event post (Action.bind (Routine.call c) f) shared H :=
  Action.assures_bind_yields (assures_call new later) fun _ _ _ => id

/-! ## Waits -/

/-- A wait for what the cluster shows at once changes nothing. -/
theorem assures_wait {what : String} {polling : Polling} {judge : c.Result → Verdict} (new : ¬H.Conflicts c)
    (reads : ∀ a, H.after c a = H) (ready : ∀ a, H.Gives c a → judge a = .ready) :
    Program.Assures faithful event (Outcome.Yields fun _ shared' H' => shared' = shared ∧ H' = H)
      (wait what polling (Waiting.ask c judge)) shared H :=
  Waiting.assures_wait (assures_call new fun a given => ⟨ready a given, rfl, reads a⟩)

theorem assures_forService {ns name : String} {polling : Polling} {service : Service}
    (held : H.services (ns, name) = some service) :
    Program.Assures faithful event (Outcome.Yields fun _ shared' H' => shared' = shared ∧ H' = H)
      (Waiting.forService ns name true polling) shared H := by
  refine assures_wait id (fun _ => rfl) ?_
  rintro found (rfl : found = H.services (ns, name))
  rw [held]
  rfl

theorem assures_forPods {ns selector : String} {accepts : Pod → Bool} {polling : Polling}
    (accepted : ∀ pod : Pod, pod.spec = H.template → accepts pod = true) :
    Program.Assures faithful event (Outcome.Yields fun _ shared' H' => shared' = shared ∧ H' = H)
      (Waiting.forCurrentPods ns selector accepts polling) shared H := by
  refine assures_wait id (fun _ => rfl) ?_
  rintro pods ⟨some, run⟩
  refine Waiting.readyIf_eq_ready_iff.2 (Waiting.podsRunning_iff.2 ⟨some, fun pod hp => ?_⟩)
  exact ⟨accepted pod (run pod hp).1, (run pod hp).2⟩

theorem assures_forDeployment {ns name : String} {polling : Polling} {d : Deployment}
    (held : H.deployments (ns, name) = some d) :
    Program.Assures faithful event (Outcome.Yields fun _ shared' H' => shared' = shared ∧ H' = H)
      (Waiting.forDeployment ns name polling) shared H := by
  refine assures_wait id (fun _ => rfl) fun found given => ?_
  change Option.Rel _ (H.deployments (ns, name)) found at given
  rw [held] at given
  cases given with
  | some shown =>
    have settled := shown.2
    exact Waiting.readyIf_eq_ready_iff.2 (Waiting.deploymentStable_iff.2 ⟨settled.observed, settled.replicas⟩)

theorem assures_forJob {ns name : String} {polling : Polling} (held : (H.jobs (ns, name)).isSome = true) :
    Program.Assures faithful event (Outcome.Yields fun _ shared' H' => shared' = shared ∧ H' = H)
      (Waiting.forJob ns name polling) shared H := by
  refine assures_wait id (fun _ => rfl) fun found given => ?_
  change Option.Rel _ (H.jobs (ns, name)) found at given
  obtain ⟨job, stored⟩ := Option.isSome_iff_exists.1 held
  rw [stored] at given
  cases given with
  | some complete => exact complete.ready

/-! ## What stays -/

/-- A service is held, and has a port. -/
def Offers (H : Holdings) (location : Location) : Prop :=
  ∃ service port, H.services location = some service ∧ service.firstPort? = some port

/-- Nothing has become of SSOs, jobs and clients, and the services that were offered still are. -/
structure Steady (H H' : Holdings) : Prop where
  ssos : H'.ssos = H.ssos
  jobs : H'.jobs = H.jobs
  clients : H'.clients = H.clients
  offers : ∀ location, H.Offers location → H'.Offers location

namespace Steady

theorem refl (H : Holdings) : Steady H H := ⟨rfl, rfl, rfl, fun _ => id⟩

theorem trans (first : Steady H H') (later : Steady H' H'') : Steady H H'' where
  ssos := later.ssos.trans first.ssos
  jobs := later.jobs.trans first.jobs
  clients := later.clients.trans first.clients
  offers location offered := later.offers location (first.offers location offered)

theorem applySecret (secret : Secret) : Steady H (H.after (.applySecret secret) ()) := ⟨rfl, rfl, rfl, fun _ => id⟩

theorem applyDeployment (d : Deployment) : Steady H (H.after (.applyDeployment d) ()) := ⟨rfl, rfl, rfl, fun _ => id⟩

/-- A service with a port may take the place of another one. -/
theorem applyService {service : Service} {port : ServicePort} (some : service.firstPort? = some port) :
    Steady H (H.after (.applyService service) ()) where
  ssos := rfl
  jobs := rfl
  clients := rfl
  offers location := by
    rintro ⟨held, port', stored, first⟩
    by_cases same : location = service.metadata.location
    · exact ⟨service, port, same ▸ Function.update_self .., some⟩
    · exact ⟨held, port', (Function.update_of_ne same ..).trans stored, first⟩

end Steady

/-- A job is gone.  Nothing has become of SSOs and other jobs, and the services that were offered still are. -/
structure Cleared (location : Location) (H H' : Holdings) : Prop where
  ssos : H'.ssos = H.ssos
  jobs : H'.jobs = Function.update H.jobs location none
  offers : ∀ location, H.Offers location → H'.Offers location

theorem Steady.cleared {location : Location} (steady : Steady H H') (cleared : Cleared location H' H'') :
    Cleared location H H'' where
  ssos := cleared.ssos.trans steady.ssos
  jobs := steady.jobs ▸ cleared.jobs
  offers location offered := cleared.offers location (steady.offers location offered)

theorem Cleared.deleteJob (H : Holdings) (ns name : String) :
    Cleared (ns, name) H (H.after (.deleteJob ns name) ()) := ⟨rfl, rfl, fun _ => id⟩

end Holdings
end SignOnOperator
