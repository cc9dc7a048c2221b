import SignOnOperator.Proofs.CellUse
import SignOnOperator.Proofs.Exclusion
import SignOnOperator.Proofs.Holdings
import SignOnOperator.Proofs.Pipeline
/-!
# Provisioning on a faithful cluster

What the parts of provisioning come to when the cluster is faithful.  Each does what it is for, with one exception: an
exposure that finds a job under its name deletes that job and fails.  So provisioning either ends with the status
(`Provision.run_assures`), or it fails in that one way and has cleared its way (`Provision.run_assures_of_job`).
-/
namespace SignOnOperator

open Kubernetes
open Rehearsal (Cell)
open Holdings (Steady assures_call assures_call_bind assures_call_of_conflict)

variable {config : Config} {event sso : Sso} {ns account value : String} {client : OidcClient}
  {shared : Shared} {H : Holdings}

/-! ## The cookie secret -/

namespace CookieSecret

/-- The secret is known, or nobody is loading it and what is held of it, if anything, can be read. -/
def Available (ns : String) (cell : Cell) (H : Holdings) : Prop :=
  (∃ value, cell = .filled value) ∨
    cell = .empty ∧
      ∀ secret, H.secrets (ns, objectName) = some secret → ∃ value, required secret ns = .ok value

theorem loadOrCreate_assures
    (readable : ∀ secret, H.secrets (ns, objectName) = some secret → ∃ value, required secret ns = .ok value) :
    Program.Assures faithful event (Outcome.Yields fun _ shared' H' => shared' = shared ∧ Steady H H')
      (loadOrCreate ns) shared H := by
  refine assures_call_bind id ?_
  rintro _ rfl
  cases held : H.secrets (ns, objectName) with
  | some secret =>
    obtain ⟨value, readable⟩ := readable secret held
    change Program.Assures faithful event _ (Action.ofExcept (required secret ns)) shared H
    rw [readable]
    exact ⟨rfl, .refl H⟩
  | none =>
    refine Routine.assures_request_bind (r := .draw) (fun _ _ => Iff.rfl)
      ⟨fun _ => ⟨0, alphabetSize_pos⟩, shared, rfl⟩ ?_
    rintro choices shared rfl
    have created : Program.Assures faithful event (Outcome.Yields fun _ shared' H' => shared' = shared ∧ Steady H H')
        (Routine.call (.createSecret (buildSecret ns (generate choices)))) shared H :=
      assures_call (Holdings.not_conflicts_createSecret held) fun _ _ => ⟨rfl, Steady.applySecret _⟩
    exact Action.assures_attempt_bind_yields created fun _ _ _ => id

theorem get_assures (available : Available ns shared.cell H) :
    Program.Assures faithful event
      (Outcome.Yields fun value shared' H' => shared' = { shared with cell := .filled value } ∧ Steady H H')
      (get ns) shared H := by
  refine Routine.assures_request_bind (r := .enterCell) (fun _ _ => Iff.rfl) ?_ fun held shared' answered => ?_
  · rcases available with ⟨value, filled⟩ | ⟨empty, -⟩
    · exact ⟨_, _, Shared.answers_enterCell_iff.2 (.inr ⟨value, rfl, filled, rfl⟩)⟩
    · exact ⟨_, _, Shared.answers_enterCell_iff.2 (.inl ⟨rfl, empty, rfl⟩)⟩
  · rcases Shared.answers_enterCell_iff.1 answered with ⟨rfl, empty, rfl⟩ | ⟨value, rfl, filled, rfl⟩
    · have readable := (available.resolve_left fun ⟨_, filled⟩ => by cases empty.symm.trans filled).2
      refine Program.assures_bind_iff.2 ((loadOrCreate_assures readable).imp fun o _ _ ho => ?_)
      cases o with
      | ok value =>
        obtain ⟨rfl, steady⟩ := ho
        refine Routine.assures_ask (fun _ _ => Iff.rfl) ⟨(), _, rfl⟩ ?_
        rintro _ _ rfl
        exact ⟨rfl, steady⟩
      | error e => exact ho.elim
      | panic => exact ho.elim
    · exact ⟨by rw [← filled], .refl H⟩

end CookieSecret

/-! ## The proxy -/

namespace Proxy

/-- Settings can be made for the SSO. -/
def Accepts (sso : Sso) : Prop :=
  ∃ client cookieSecret url rendered, render sso client cookieSecret url port = .ok rendered

theorem Accepts.exists_render (accepts : Accepts sso) (addressed : client.redirectUris ≠ []) (value url : String) :
    ∃ rendered, render sso client value url port = .ok rendered := by
  obtain ⟨_, _, _, _, accepted⟩ := accepts
  obtain ⟨_, made, -⟩ := render_ok accepted
  obtain ⟨s, made'⟩ := Provision.exists_settings made client addressed
  exact ⟨s.render, congrArg (Except.map Settings.render) made'⟩

theorem Accepts.exists_plan (accepts : Accepts sso) (home : sso.requireNamespace = .ok ns)
    (addressed : client.redirectUris ≠ []) (value : String) {upstream : Service} {first : ServicePort}
    (offered : upstream.firstPort? = some first) : ∃ bundle, plan sso client value upstream = .ok bundle := by
  obtain ⟨url, reached⟩ : ∃ url, upstreamUrl upstream = .ok url := by
    unfold upstreamUrl
    rw [offered]
    exact ⟨_, rfl⟩
  obtain ⟨rendered, rendering⟩ := accepts.exists_render addressed value url
  unfold plan buildBundle
  rw [reached, home]
  change ∃ bundle, (render sso client value url port >>= fun _ => Except.ok _) = .ok bundle
  rw [rendering]
  exact ⟨_, rfl⟩

/-- The objects that are waited for are kept in the namespace of the SSO, and the service has a port. -/
structure Bundle.IsLocated (bundle : Bundle) (ns : String) : Prop where
  deployment : bundle.deployment.metadata.location = (ns, bundle.deployment.metadata.nameAny)
  service : bundle.service.metadata.location = (ns, bundle.service.metadata.nameAny)
  offers : ∃ port, bundle.service.firstPort? = some port

theorem buildBundle_located {app url : String} {data : KeyMap String} {bundle : Bundle}
    (home : sso.requireNamespace = .ok ns) (built : buildBundle sso app url data = .ok bundle) :
    bundle.IsLocated ns := by
  obtain ⟨ns', home', rfl⟩ := exists_of_buildBundle built
  obtain rfl := Except.ok.inj (home'.symm.trans home)
  exact ⟨rfl, rfl, _, rfl⟩

theorem plan_located {upstream : Service} {bundle : Bundle} (home : sso.requireNamespace = .ok ns)
    (planned : plan sso client value upstream = .ok bundle) : bundle.IsLocated ns := by
  obtain ⟨rendered, -, built⟩ := plan_built planned
  exact buildBundle_located home built

theorem revise_located {bundle updated : Bundle} (home : sso.requireNamespace = .ok ns)
    (revised : revise sso client value bundle = .ok updated) : updated.IsLocated ns := by
  obtain ⟨rendered, -, built⟩ := Except.bind_eq_ok revised
  exact buildBundle_located home built

theorem applyAndWait_assures {bundle : Bundle} (located : bundle.IsLocated ns) :
    Program.Assures faithful event (Outcome.Yields fun _ shared' H' => shared' = shared ∧ Steady H H')
      (applyAndWait config sso ns bundle) shared H := by
  obtain ⟨port, offers⟩ := located.offers
  refine assures_call_bind id fun _ _ => assures_call_bind id fun _ _ => assures_call_bind id fun _ _ => ?_
  have applied := ((Steady.applySecret bundle.secret).trans (.applyDeployment bundle.deployment)).trans
    (.applyService (H := (H.after _ _).after _ _) offers)
  have held : Function.update H.services bundle.service.metadata.location (some bundle.service)
      (ns, bundle.service.metadata.nameAny) = some bundle.service :=
    located.service ▸ Function.update_self ..
  refine Action.assures_bind_yields (Holdings.assures_forService held) ?_
  rintro _ _ _ ⟨rfl, rfl⟩
  refine (Holdings.assures_forPods fun _ _ => rfl).imp fun _ _ _ => Outcome.Yields.imp fun _ ended => ?_
  exact ⟨ended.1, ended.2 ▸ applied⟩

theorem deploy_assures (home : sso.requireNamespace = .ok ns) (accepts : Accepts sso)
    (addressed : client.redirectUris ≠ []) (offered : H.Offers (ns, sso.spec.upstreamService)) :
    Program.Assures faithful event
      (Outcome.Yields fun bundle shared' H' => shared' = shared ∧ Steady H H' ∧
        ∃ upstream, plan sso client value upstream = .ok bundle)
      (deploy config sso client value) shared H := by
  obtain ⟨upstream, port, held, first⟩ := offered
  obtain ⟨bundle, planned⟩ := accepts.exists_plan home addressed value first
  have found : Program.Assures faithful event
      (Outcome.Yields fun bundle' shared' H' => bundle' = bundle ∧ shared' = shared ∧ H' = H)
      (locate sso ns client value) shared H := by
    refine assures_call_bind id ?_
    rintro _ rfl
    change Program.Assures faithful event _ (Action.ofExcept (lookUp sso ns client value (H.services _))) shared H
    rw [held, lookUp, planned]
    exact ⟨rfl, rfl, rfl⟩
  rw [deploy_eq home]
  refine Action.assures_bind_yields found ?_
  rintro _ _ _ ⟨rfl, rfl, rfl⟩
  refine Action.assures_bind_yields (applyAndWait_assures (plan_located home planned)) ?_
  rintro _ _ _ ⟨rfl, steady⟩
  exact ⟨rfl, steady, upstream, planned⟩

theorem update_assures {bundle updated : Bundle} (home : sso.requireNamespace = .ok ns)
    (revised : revise sso client value bundle = .ok updated) :
    Program.Assures faithful event (Outcome.Yields fun _ shared' H' => shared' = shared ∧ Steady H H')
      (update config sso client value bundle) shared H := by
  have located := revise_located home revised
  refine Action.assures_ofExcept_bind home (Action.assures_ofExcept_bind revised ?_)
  refine assures_call_bind id fun _ _ => assures_call_bind id fun _ _ => ?_
  have applied := (Steady.applySecret (H := H) updated.secret).trans (.applyDeployment updated.deployment)
  refine Action.assures_bind_yields (Holdings.assures_forDeployment (d := updated.deployment) ?_) ?_
  · exact located.deployment ▸ Function.update_self ..
  · rintro _ _ _ ⟨rfl, rfl⟩
    refine Action.assures_bind_yields (Holdings.assures_forPods fun pod same => ?_) ?_
    · -- The pods run the template that was applied, so that they show its fingerprint.
      exact beq_of_eq (congrArg (Option.bind · _) same)
    · rintro _ _ _ ⟨rfl, rfl⟩
      exact ⟨rfl, applied⟩

end Proxy

/-! ## The exposure -/

namespace Exposure

variable {mode : Mode} {service : String}

theorem createJob_assures {job : Job} (clear : H.jobs job.metadata.location = none) :
    Program.Assures faithful event
      (Outcome.Yields fun _ shared' H' => shared' = shared ∧ H' = H.after (.createJob job) ())
      (createJob ns job) shared H := by
  have stored : Program.Assures faithful event
      (Outcome.Yields fun _ shared' H' => shared' = shared ∧ H' = H.after (.createJob job) ())
      (Routine.call (.createJob job)) shared H :=
    assures_call (Holdings.not_conflicts_createJob clear) fun _ _ => ⟨rfl, rfl⟩
  exact Action.assures_attempt_bind_yields stored fun _ _ _ => id

theorem createJob_assures_of_job {job : Job} {name : String} (location : job.metadata.location = (ns, name))
    (left : (H.jobs (ns, name)).isSome = true) :
    Program.Assures faithful event
      (Outcome.Fails fun e shared' H' => e.isConflict = true ∧ shared' = shared ∧
        H' = H.after (.deleteJob ns name) ())
      (createJob ns job) shared H := by
  have named : job.metadata.nameAny = name := congrArg Prod.snd location
  have taken : H.Conflicts (.createJob job) := show (H.jobs job.metadata.location).isSome = true from location ▸ left
  have refused : Program.Assures faithful event
      (Outcome.Fails fun e shared' H' => e.isConflict = true ∧ shared' = shared ∧ H' = H)
      (Routine.call (.createJob job)) shared H :=
    assures_call_of_conflict taken fun _ conflict => ⟨conflict, rfl, rfl⟩
  refine Action.assures_attempt_bind_fails refused ?_
  rintro e _ _ ⟨conflict, rfl, rfl⟩
  dsimp only
  rw [if_pos conflict, named]
  exact assures_call_bind id fun _ _ => ⟨conflict, rfl, rfl⟩

/-- A run whose way is clear leaves the jobs that it found. -/
theorem run_assures (home : sso.requireNamespace = .ok ns) (clear : H.jobs (ns, jobName sso ns mode) = none) :
    Program.Assures faithful event (Outcome.Yields fun _ shared' H' => shared' = shared ∧ Steady H H')
      (run config mode sso service account) shared H := by
  have held := H.createJob_jobs (buildJob sso ns service account mode)
  have gone := Holdings.createJob_deleteJob_jobs (buildJob sso ns service account mode) rfl clear
  refine Action.assures_ofExcept_bind home (assures_call_bind id fun _ _ => ?_)
  refine Action.assures_bind_yields (createJob_assures clear) ?_
  rintro _ _ _ ⟨rfl, rfl⟩
  refine Action.assures_bind_yields (Holdings.assures_forJob (congrArg Option.isSome held)) ?_
  rintro _ _ _ ⟨rfl, rfl⟩
  exact assures_call_bind id fun _ _ => assures_call id fun _ _ => ⟨rfl, rfl, gone, rfl, fun _ => id⟩

/-- A run that finds a job deletes it and fails. -/
theorem run_assures_of_job (home : sso.requireNamespace = .ok ns)
    (left : (H.jobs (ns, jobName sso ns mode)).isSome = true) :
    Program.Assures faithful event
      (Outcome.Fails fun e shared' H' => e.isConflict = true ∧ shared' = shared ∧
        H' = H.after (.deleteJob ns (jobName sso ns mode)) ())
      (run config mode sso service account) shared H := by
  refine Action.assures_ofExcept_bind home (assures_call_bind id fun _ _ => ?_)
  exact Action.assures_bind_fails (createJob_assures_of_job rfl left)

end Exposure

/-! ## Provisioning -/

/-- The exposure of an SSO's service met a conflict. -/
def Error.IsExposureConflict (ns name : String) (e : Error) : Prop :=
  ∃ source : Error, e = .pipeline "exposing the proxy service" ns name source ∧ source.isConflict = true

namespace Provision

/-- All that provisioning depends on is there. -/
structure Feasible (config : Config) (sso : Sso) (ns : String) (cell : Cell) (H : Holdings) : Prop where
  home : sso.requireNamespace = .ok ns
  accepts : Proxy.Accepts sso
  upstream : H.Offers (ns, sso.spec.upstreamService)
  secret : CookieSecret.Available config.operatorNamespace cell H

/-- Once the secret is known, it is enough that services on offer stay so. -/
theorem Feasible.later {cell : Cell} {H' : Holdings} (feasible : Feasible config sso ns cell H)
    (offers : ∀ location, H.Offers location → H'.Offers location) : Feasible config sso ns (.filled value) H' :=
  ⟨feasible.home, feasible.accepts, offers _ feasible.upstream, .inl ⟨value, rfl⟩⟩

/-- Where the job that exposes the service of an SSO is kept. -/
abbrev exposure (sso : Sso) (ns : String) : Location := (ns, Exposure.jobName sso ns .expose)

/-- There is no job in the way of the exposure, if there is to be one. -/
def IsClear (sso : Sso) (ns : String) (H : Holdings) : Prop :=
  sso.spec.skipExposeService = true ∨ H.jobs (exposure sso ns) = none

theorem not_isClear_iff :
    ¬IsClear sso ns H ↔ sso.spec.skipExposeService = false ∧ (H.jobs (exposure sso ns)).isSome = true := by
  simp [IsClear, Option.isSome_iff_ne_none]

theorem Step.assures_call_bind {step : Step} {c : Call} {α : Type} {post : Outcome α → Shared → Holdings → Prop}
    {f : c.Result → Routine α} (new : ¬H.Conflicts c)
    (later : ∀ a, H.Gives c a → Program.Assures faithful event post (f a) shared (H.after c a)) :
    Program.Assures faithful event post (Action.bind (step.run sso ns (Routine.call c)) f) shared H :=
  Action.assures_bind_yields (Action.yields_mapError (assures_call new later)) fun _ _ _ => id

theorem prepare_assures (home : sso.requireNamespace = .ok ns)
    (secret : CookieSecret.Available config.operatorNamespace shared.cell H) :
    Program.Assures faithful event
      (Outcome.Yields fun g shared' H' => g.ns = ns ∧ shared' = { shared with cell := .filled g.cookieSecret } ∧
        Steady H H')
      (prepare config sso) shared H := by
  refine Action.assures_ofExcept_bind home (Step.assures_call_bind id fun account _ => ?_)
  exact Action.assures_bind_yields (Action.yields_mapError (CookieSecret.get_assures secret)) fun _ _ _ loaded =>
    ⟨rfl, loaded⟩

theorem create_assures (sso : Sso) (g : Groundwork) :
    Program.Assures faithful event
      (Outcome.Yields fun client shared' H' => client.redirectUris ≠ [] ∧ shared' = shared ∧
        H' = { H with clients := client :: H.clients })
      (create sso g) shared H := by
  refine Action.yields_mapError (assures_call id fun (client : OidcClient) given => ⟨?_, rfl, rfl⟩)
  have uris : client.redirectUris = [Proxy.placeholderRedirectUrl] := congrArg OidcClient.redirectUris given
  rw [uris]
  exact List.cons_ne_nil _ _

theorem publish_assures {service : String} (home : sso.requireNamespace = .ok ns) (clear : IsClear sso ns H) :
    Program.Assures faithful event (Outcome.Yields fun _ shared' H' => shared' = shared ∧ Steady H H')
      (publish config sso ns account service) shared H := by
  unfold publish
  by_cases skip : sso.spec.skipExposeService = true
  · rw [if_pos skip]
    exact ⟨rfl, .refl H⟩
  · rw [if_neg skip]
    exact Action.yields_mapError (Exposure.run_assures home (clear.resolve_left skip))

theorem publish_assures_of_job {service : String} (home : sso.requireNamespace = .ok ns)
    (exposed : sso.spec.skipExposeService = false) (left : (H.jobs (exposure sso ns)).isSome = true) :
    Program.Assures faithful event
      (Outcome.Fails fun e shared' H' => e.IsExposureConflict ns sso.name ∧ shared' = shared ∧
        H.Cleared (exposure sso ns) H')
      (publish config sso ns account service) shared H := by
  unfold publish
  rw [exposed]
  refine Action.fails_mapError ((Exposure.run_assures_of_job home left).imp fun _ _ _ => Outcome.Fails.imp ?_)
  rintro source ⟨conflict, rfl, rfl⟩
  exact ⟨⟨source, rfl, conflict⟩, rfl, .deleteJob H _ _⟩

theorem resolveHosts_assures {app : String} :
    Program.Assures faithful event
      (Outcome.Yields fun hosts shared' H' => hosts ≠ [] ∧ shared' = shared ∧ H' = H) (resolveHosts ns app)
      shared H := by
  rw [resolveHosts_eq]
  refine assures_call_bind id fun (hosts : List String) given => ?_
  cases hosts with
  | nil => exact absurd rfl given
  | cons host others => exact ⟨List.cons_ne_nil host others, rfl, rfl⟩

theorem arrange_assures (feasible : Feasible config sso ns shared.cell H) (clear : IsClear sso ns H)
    (addressed : client.redirectUris ≠ []) :
    Program.Assures faithful event
      (Outcome.Yields fun _ shared' H' => shared' = shared ∧ H'.ssos = H.ssos ∧
        H'.clients.map (·.id) = H.clients.map (·.id))
      (arrange config sso ns account value client) shared H := by
  obtain ⟨home, accepts, upstream, -⟩ := feasible
  refine Action.assures_bind_yields (Action.yields_mapError (Proxy.deploy_assures home accepts addressed upstream)) ?_
  rintro bundle _ H₁ ⟨rfl, deployed, upstream, planned⟩
  have clear₁ : IsClear sso ns H₁ := by rwa [IsClear, deployed.jobs]
  refine Action.assures_bind_yields (publish_assures home clear₁) ?_
  rintro _ _ _ ⟨rfl, published⟩
  refine Action.assures_bind_yields (Action.yields_mapError resolveHosts_assures) ?_
  rintro hosts _ H₂ ⟨found, rfl, rfl⟩
  have uris : Proxy.hostRedirectUrls hosts ≠ [] := fun none => found (List.map_eq_nil_iff.1 none)
  obtain ⟨updated, revised⟩ := exists_revise home planned uris
  refine Step.assures_call_bind id fun _ _ => ?_
  have ids := H₂.updateClient_ids client.id (Proxy.hostRedirectUrls hosts) client.trustedPeers sso.name client.logoUrl
  refine Action.assures_bind_yields (Action.yields_mapError (Proxy.update_assures home revised)) ?_
  rintro _ _ H₃ ⟨rfl, revisedSteady⟩
  have before : H₂.clients = H.clients := published.clients.trans deployed.clients
  exact ⟨rfl, revisedSteady.ssos.trans (published.ssos.trans deployed.ssos),
    (congrArg (List.map _) revisedSteady.clients).trans (ids.trans (congrArg (List.map _) before))⟩

theorem arrange_assures_of_job (feasible : Feasible config sso ns shared.cell H)
    (exposed : sso.spec.skipExposeService = false) (left : (H.jobs (exposure sso ns)).isSome = true)
    (addressed : client.redirectUris ≠ []) :
    Program.Assures faithful event
      (Outcome.Fails fun e shared' H' => e.IsExposureConflict ns sso.name ∧ shared' = shared ∧
        H.Cleared (exposure sso ns) H')
      (arrange config sso ns account value client) shared H := by
  obtain ⟨home, accepts, upstream, -⟩ := feasible
  refine Action.assures_bind_yields (Action.yields_mapError (Proxy.deploy_assures home accepts addressed upstream)) ?_
  rintro bundle _ H₁ ⟨rfl, deployed, -⟩
  refine Action.assures_bind_fails ((publish_assures_of_job home exposed (deployed.jobs ▸ left)).imp fun _ _ _ =>
    Outcome.Fails.imp ?_)
  rintro e ⟨conflict, rfl, cleared⟩
  exact ⟨conflict, rfl, deployed.cleared cleared⟩

theorem configure_assures (feasible : Feasible config sso ns shared.cell H) (clear : IsClear sso ns H)
    (addressed : client.redirectUris ≠ []) :
    Program.Assures faithful event
      (Outcome.Yields fun _ _ H' => H'.clients.map (·.id) = H.clients.map (·.id) ∧
        H'.ssos = (H.edit ⟨ns, sso.name⟩ fun sso =>
          sso.withStatus { clientId := some client.id, initialized := true }).ssos)
      (configure config sso ns account value client) shared H := by
  rw [configure_eq]
  refine Action.assures_bind_yields (arrange_assures feasible clear addressed) ?_
  rintro _ _ H₁ ⟨rfl, ssos, ids⟩
  refine Action.yields_mapError (assures_call id fun _ _ => ⟨ids, ?_⟩)
  exact congrArg (fun ssos => Holdings.ssos (Holdings.edit { H with ssos } ⟨ns, sso.name⟩ _)) ssos

theorem compensate_assures (client : String) :
    Program.Assures faithful event
      (Outcome.Yields fun _ shared' H' => shared' = { shared with metrics := shared.metrics.count .compensated } ∧
        H' = H.after (.deleteClient client) ())
      (compensate client) shared H := by
  have deleted : ∀ shared, Program.Assures faithful event
      (Outcome.Yields fun _ shared' H' => shared' = shared ∧ H' = H.after (.deleteClient client) ())
      (Routine.call (.deleteClient client)) shared H := fun _ => assures_call id fun _ _ => ⟨rfl, rfl⟩
  refine Routine.assures_request_bind (r := .count .compensated) (fun _ _ => Iff.rfl) ⟨(), _, rfl⟩ ?_
  rintro _ _ rfl
  exact Action.assures_attempt_bind_yields (deleted _) fun _ _ _ => id

theorem complete_assures {g : Groundwork} (feasible : Feasible config sso g.ns shared.cell H)
    (clear : IsClear sso g.ns H) (addressed : client.redirectUris ≠ []) :
    Program.Assures faithful event
      (Outcome.Yields fun _ _ H' => H'.clients.map (·.id) = H.clients.map (·.id) ∧
        H'.ssos = (H.edit ⟨g.ns, sso.name⟩ fun sso =>
          sso.withStatus { clientId := some client.id, initialized := true }).ssos)
      (complete config sso g client) shared H :=
  Action.assures_attempt_bind_yields (configure_assures feasible clear addressed) fun _ _ _ => id

theorem complete_assures_of_job {g : Groundwork} (feasible : Feasible config sso g.ns shared.cell H)
    (exposed : sso.spec.skipExposeService = false) (left : (H.jobs (exposure sso g.ns)).isSome = true)
    (addressed : client.redirectUris ≠ []) :
    Program.Assures faithful event
      (Outcome.Fails fun e shared' H' => e.IsExposureConflict g.ns sso.name ∧ shared'.cell = shared.cell ∧
        H.Cleared (exposure sso g.ns) H')
      (complete config sso g client) shared H := by
  have configured : Program.Assures faithful event
      (Outcome.Fails fun e shared' H' => e.IsExposureConflict g.ns sso.name ∧ shared' = shared ∧
        H.Cleared (exposure sso g.ns) H')
      (configure config sso g.ns g.account g.cookieSecret client) shared H := by
    rw [configure_eq]
    exact Action.assures_bind_fails (arrange_assures_of_job feasible exposed left addressed)
  refine Action.assures_attempt_bind_fails configured ?_
  rintro e _ H₁ ⟨conflict, rfl, cleared⟩
  refine Action.assures_bind_yields (compensate_assures client.id) ?_
  rintro _ _ _ ⟨rfl, rfl⟩
  exact ⟨conflict, rfl, cleared.ssos, cleared.jobs, cleared.offers⟩

/-- **Provisioning whose way is clear** ends with a status that names a client. -/
theorem run_assures (feasible : Feasible config sso ns shared.cell H) (clear : IsClear sso ns H) :
    Program.Assures faithful event
      (Outcome.Yields fun _ _ H' => ∃ id ∈ H'.clients.map (·.id),
        H'.ssos = (H.edit ⟨ns, sso.name⟩ fun sso =>
          sso.withStatus { clientId := some id, initialized := true }).ssos)
      (run config sso) shared H := by
  rw [run_eq]
  refine Action.assures_bind_yields (prepare_assures feasible.home feasible.secret) ?_
  rintro g _ H₁ ⟨rfl, rfl, steady⟩
  refine Action.assures_bind_yields (create_assures sso g) ?_
  rintro client _ _ ⟨addressed, rfl, rfl⟩
  have feasible' : Feasible config sso g.ns (.filled g.cookieSecret) { H₁ with clients := client :: H₁.clients } :=
    feasible.later steady.offers
  have clear' : IsClear sso g.ns { H₁ with clients := client :: H₁.clients } := by
    rw [IsClear, steady.jobs]
    exact clear
  refine (complete_assures feasible' clear' addressed).imp fun _ _ _ => Outcome.Yields.imp ?_
  rintro _ ⟨ids, ssos⟩
  refine ⟨client.id, ids ▸ List.mem_cons_self, ssos.trans ?_⟩
  rw [Holdings.edit, Holdings.edit, steady.ssos]

/-- **Provisioning that finds a job in its way** fails, and the way is clear. -/
theorem run_assures_of_job (feasible : Feasible config sso ns shared.cell H)
    (exposed : sso.spec.skipExposeService = false) (left : (H.jobs (exposure sso ns)).isSome = true) :
    Program.Assures faithful event
      (Outcome.Fails fun e shared' H' => e.IsExposureConflict ns sso.name ∧
        (∃ value, shared'.cell = .filled value) ∧ H.Cleared (exposure sso ns) H')
      (run config sso) shared H := by
  rw [run_eq]
  refine Action.assures_bind_yields (prepare_assures feasible.home feasible.secret) ?_
  rintro g _ H₁ ⟨rfl, rfl, steady⟩
  refine Action.assures_bind_yields (create_assures sso g) ?_
  rintro client _ _ ⟨addressed, rfl, rfl⟩
  have feasible' : Feasible config sso g.ns (.filled g.cookieSecret) { H₁ with clients := client :: H₁.clients } :=
    feasible.later steady.offers
  refine (complete_assures_of_job feasible' exposed (steady.jobs ▸ left) addressed).imp fun _ _ _ =>
    Outcome.Fails.imp ?_
  rintro e ⟨conflict, cell, cleared⟩
  exact ⟨conflict, ⟨_, cell⟩, steady.cleared ⟨cleared.ssos, cleared.jobs, cleared.offers⟩⟩

end Provision
end SignOnOperator
