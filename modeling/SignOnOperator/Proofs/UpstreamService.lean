import SignOnOperator.Proofs.Rollout
/-!
# The upstream service

Which services provisioning deals with.  It reads the service that it is to protect, and it applies the service in front
of the proxy, which bears the name of the SSO.  Nothing compares the two names: where they are the same, the service
that is written is the one that was to be protected.
-/
namespace SignOnOperator

open Kubernetes

/-! ## Services and where they are found -/

/-- Where an object is found: its namespace, if it has one, and its name. -/
abbrev Address : Type := Option String × String

def Kubernetes.ObjectMeta.address (m : ObjectMeta) : Address := (m.namespaceName, m.nameAny)

/-- The service that an SSO is to protect. -/
def Sso.upstream (sso : Sso) : Address := (sso.metadata.namespaceName, sso.spec.upstreamService)

/-- The service in front of the proxy of an SSO. -/
def Sso.front (sso : Sso) : Address := (sso.metadata.namespaceName, sso.name)

/-- The service that a call reads or writes. -/
def Call.service? : Call → Option Address
  | getService ns name => some (some ns, name)
  | applyService service => some service.metadata.address
  | _ => none

theorem Sso.front_eq_upstream_iff {sso : Sso} : sso.front = sso.upstream ↔ sso.name = sso.spec.upstreamService :=
  Prod.ext_iff.trans (and_iff_right rfl)

theorem Sso.requireNamespace_eq_ok_iff {sso : Sso} {ns : String} :
    sso.requireNamespace = .ok ns ↔ sso.metadata.namespaceName = some ns := by
  unfold requireNamespace
  cases sso.metadata.namespaceName with
  | none => exact ⟨nofun, nofun⟩
  | some _ => exact ⟨fun home => congrArg some (Except.ok.inj home), fun home => congrArg _ (Option.some.inj home)⟩

theorem Call.of_service? {c : Call} {address : Address} (about : c.service? = some address) :
    (∃ ns name, c = .getService ns name) ∨
      ∃ service, c = .applyService service ∧ address = service.metadata.address := by
  unfold service? at about
  split at about
  · exact .inl ⟨_, _, rfl⟩
  · exact .inr ⟨_, rfl, (Option.some.inj about).symm⟩
  · cases about

/-! ## What is applied, and after what -/

variable {config : Config} {sso : Sso} {client : OidcClient} {cookieSecret ns : String} {h : History Operator}
  {service : Service}

namespace Proxy

theorem plan_front {upstream : Service} {bundle : Bundle}
    (planned : plan sso client cookieSecret upstream = .ok bundle) : bundle.service.metadata.address = sso.front := by
  obtain ⟨rendered, -, built⟩ := plan_built planned
  obtain ⟨ns, home, made⟩ := exists_of_buildBundle built
  rw [made]
  have same : some ns = sso.metadata.namespaceName := (Sso.requireNamespace_eq_ok_iff.1 home).symm
  exact congrArg (·, sso.name) same

/-- The upstream service has been read by the time that a service is applied, which is the one in front of the proxy. -/
theorem deploy_asks_applyService
    (asked : Program.Asks (deploy config sso client cookieSecret) h (.call (.applyService service))) :
    service.metadata.address = sso.front ∧
      ∃ ns upstream, sso.metadata.namespaceName = some ns ∧
        ⟨.call (.getService ns sso.spec.upstreamService), .ok (some upstream)⟩ ∈ h := by
  obtain ⟨ns, home, ⟨-, ⟨⟩⟩ | ⟨upstream, bundle, h', rfl, planned, rolling⟩⟩ := deploy_asks asked
  cases rolling with
  | service => exact ⟨plan_front planned, ns, upstream, Sso.requireNamespace_eq_ok_iff.1 home, List.mem_cons_self⟩

end Proxy

namespace Provision

/-- A service is applied by nothing but the setting up of the proxy. -/
theorem asks_applyService (asked : Program.Asks (run config sso) h (.call (.applyService service))) :
    ∃ client cookieSecret early late, h = early ++ late ∧
      Program.Asks (Proxy.deploy config sso client cookieSecret) late (.call (.applyService service)) := by
  have apart : RequestKind.call .applyService ∉ asideFootprint := by decide
  obtain ⟨client, cookieSecret, early, late, split, deploying | ⟨bundle, updating⟩⟩ := asks_rollout asked apart
  · exact ⟨client, cookieSecret, early, late, split, deploying⟩
  · obtain ⟨_, _, -, -, -, other⟩ := Proxy.update_asks updating
    exact absurd rfl other

/-- **Provisioning applies the service in front of the proxy, and no other.**  That service bears the name of the SSO,
and is applied after the upstream service has been found.  So it is the upstream service itself exactly where the two
have the same name; where they have not, the upstream service is only ever read. -/
theorem upstream_overwritten_iff {c : Call} (asked : Program.Asks (run config sso) h (.call c)) :
    (∀ service, c = .applyService service →
      service.metadata.address = sso.front ∧
      (service.metadata.address = sso.upstream ↔ sso.name = sso.spec.upstreamService) ∧
      ∃ ns upstream, sso.upstream = (some ns, sso.spec.upstreamService) ∧
        ⟨.call (.getService ns sso.spec.upstreamService), .ok (some upstream)⟩ ∈ h) ∧
    (sso.name ≠ sso.spec.upstreamService → c.service? = some sso.upstream → ∃ ns name, c = .getService ns name) := by
  have applied : ∀ service, c = .applyService service → service.metadata.address = sso.front ∧
      ∃ ns upstream, sso.upstream = (some ns, sso.spec.upstreamService) ∧
        ⟨.call (.getService ns sso.spec.upstreamService), .ok (some upstream)⟩ ∈ h := by
    rintro service rfl
    obtain ⟨client, cookieSecret, early, late, rfl, deploying⟩ := asks_applyService asked
    obtain ⟨front, ns, upstream, home, read⟩ := Proxy.deploy_asks_applyService deploying
    exact ⟨front, ns, upstream, congrArg (·, sso.spec.upstreamService) home, List.mem_append_right early read⟩
  refine ⟨fun service hc => ?_, fun distinct about => ?_⟩
  · obtain ⟨front, found⟩ := applied service hc
    exact ⟨front, front ▸ Sso.front_eq_upstream_iff, found⟩
  · rcases Call.of_service? about with read | ⟨service, hc, same⟩
    · exact read
    · have front := (applied service hc).1
      exact absurd (Sso.front_eq_upstream_iff.1 (front.symm.trans same.symm)) distinct

/-! ## The same name twice -/

/-- What is done for an SSO of the sample's namespace before its service is applied. -/
def beforeService (sso : Sso) (bundle : Proxy.Bundle) : History Operator :=
  [⟨.call (.ensureClusterRoleBinding "role" "jx"), .ok "account"⟩, ⟨.enterCell, some "secret"⟩] ++
    creation sso (.ok sampleClient) ::
      [⟨.call (.getService "jx" sso.spec.upstreamService), .ok (some sampleService)⟩,
        ⟨.call (.applySecret bundle.secret), .ok ()⟩, ⟨.call (.applyDeployment bundle.deployment), .ok ()⟩]

theorem asks_plannedService {bundle : Proxy.Bundle} (home : sso.requireNamespace = .ok "jx")
    (planned : Proxy.plan sso sampleClient "secret" sampleService = .ok bundle) :
    Program.Asks (run sampleConfig sso) (beforeService sso bundle) (.call (.applyService bundle.service)) := by
  have prepared : Program.Runs (prepare sampleConfig sso)
      [⟨.call (.ensureClusterRoleBinding "role" "jx"), .ok "account"⟩, ⟨.enterCell, some "secret"⟩]
      (.ok ⟨"jx", "account", "secret"⟩) := by
    unfold prepare
    rw [home]
    exact .turn (.turn (.here _))
  have applying : Program.Asks (Proxy.applyAndWait sampleConfig sso "jx" bundle)
      [⟨.call (.applySecret bundle.secret), .ok ()⟩, ⟨.call (.applyDeployment bundle.deployment), .ok ()⟩]
      (.call (.applyService bundle.service)) := ⟨_, .turn (.turn (.here _))⟩
  have deploying : Program.Asks (Proxy.deploy sampleConfig sso sampleClient "secret") _
      (.call (.applyService bundle.service)) :=
    Action.asks_ofExcept_bind_iff.2 ⟨"jx", home, Action.asks_bind_iff.2 <| .inr
      ⟨some sampleService, [_], _, rfl, Routine.runs_call_iff.2 rfl, Action.asks_ofExcept_bind_iff.2
        ⟨bundle, planned, Action.asks_bind_iff.2 (.inl applying)⟩⟩⟩
  rw [run_eq]
  refine Action.asks_bind_iff.2 (.inr ⟨⟨"jx", "account", "secret"⟩, _, _, rfl, prepared, ?_⟩)
  refine Action.asks_bind_iff.2 (.inr ⟨sampleClient, [_], _, rfl, create_runs_iff.2 ⟨.ok _, rfl, rfl⟩, ?_⟩)
  refine Action.asks_bind_iff.2 (.inl (Action.asks_attempt_iff.2 ?_))
  exact Action.asks_bind_iff.2 (.inl (Action.asks_mapError_iff.2 deploying))

theorem sample_upstream_not_applied :
    ∃ bundle, Program.Asks (run sampleConfig sample) (beforeService sample bundle)
        (.call (.applyService bundle.service)) ∧ bundle.service.metadata.address ≠ sample.upstream := by
  obtain ⟨bundle, planned⟩ : ∃ bundle, Proxy.plan sample sampleClient "secret" sampleService = .ok bundle := ⟨_, rfl⟩
  have home : sample.requireNamespace = .ok "jx" := rfl
  have asked := asks_plannedService home planned
  refine ⟨bundle, asked, fun same => ?_⟩
  have named : sample.name = "web" := ((upstream_overwritten_iff asked).1 bundle.service rfl).2.1.1 same
  exact absurd named (by decide)

/-- An SSO that is named after the service that it is to protect. -/
def homonym : Sso := { sample with metadata := { name := some "web", namespaceName := some "jx" } }

theorem homonym_overwrites_upstream :
    ∃ bundle, Program.Asks (run sampleConfig homonym) (beforeService homonym bundle)
      (.call (.applyService bundle.service)) ∧ bundle.service.metadata.address = homonym.upstream := by
  obtain ⟨bundle, planned⟩ : ∃ bundle, Proxy.plan homonym sampleClient "secret" sampleService = .ok bundle := ⟨_, rfl⟩
  exact ⟨bundle, asks_plannedService rfl planned, Proxy.plan_front planned⟩

end Provision
end SignOnOperator
