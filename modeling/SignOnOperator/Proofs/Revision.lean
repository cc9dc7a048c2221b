import SignOnOperator.Proofs.Discretion
import SignOnOperator.Proofs.Rollout
/-!
# What an update changes

A proxy is set up with the configuration for one client and later given that for another.  Both go through the same
building of objects, so that two bundles for one application differ in the data of the secret and in the fingerprint of
these data, and in nothing else (`buildBundle_reconfigured`).  A deployment is applied right after the secret of its own
bundle, so the two never diverge.
-/
namespace SignOnOperator

open Kubernetes

/-! ## Secrets with their data, deployments with their workload -/

/-- The secret holds these texts. -/
def Kubernetes.Secret.Carries (s : Secret) (data : KeyMap String) : Prop := s.data = some (data.map Bytes.ofString)

/-- The deployments are the same but for the value of the variable that carries the fingerprint. -/
structure Kubernetes.Deployment.SameWorkload (d d' : Deployment) : Prop where
  concealed : d.concealed = d'.concealed
  metadata : d.metadata = d'.metadata
  selector : d.spec.bind (·.matchLabels) = d'.spec.bind (·.matchLabels)
  labels : d.spec.bind (·.template.metadata) = d'.spec.bind (·.template.metadata)

theorem Kubernetes.Deployment.SameWorkload.of_concealed {d d' : Deployment} (same : d.concealed = d'.concealed) :
    SameWorkload d d' where
  concealed := same
  metadata := congrArg (·.metadata) same
  selector := by
    have kept (d : Deployment) : d.concealed.spec.bind (·.matchLabels) = d.spec.bind (·.matchLabels) :=
      Option.bind_map ..
    rw [← kept d, same, kept d']
  labels := by
    have kept (d : Deployment) : d.concealed.spec.bind (·.template.metadata) = d.spec.bind (·.template.metadata) :=
      Option.bind_map ..
    rw [← kept d, same, kept d']

namespace Proxy

variable {config : Config} {sso : Sso} {client client' : OidcClient} {cookieSecret ns app url : String}
  {data data' : KeyMap String} {bundle updated : Bundle} {h : History Operator} {c : Call}

/-! ## Two bundles for one application -/

/-- The second bundle is the first one on other data. -/
structure Reconfigured (bundle updated : Bundle) (data data' : KeyMap String) : Prop where
  secret : { updated.secret with data := bundle.secret.data } = bundle.secret
  workload : bundle.deployment.SameWorkload updated.deployment
  service : updated.service = bundle.service
  unchanged_iff : updated.deployment = bundle.deployment ↔ fingerprint data' = fingerprint data

theorem buildBundle_reconfigured (built : buildBundle sso app url data = .ok bundle)
    (rebuilt : buildBundle sso app url data' = .ok updated) : Reconfigured bundle updated data data' := by
  obtain ⟨ns, home, rfl⟩ := exists_of_buildBundle built
  obtain ⟨ns', home', rfl⟩ := exists_of_buildBundle rebuilt
  obtain rfl := Except.ok.inj (home.symm.trans home')
  refine ⟨rfl, .of_concealed (buildDeployment_concealed ns app _ _), rfl, fun same => ?_, fun same => ?_⟩
  · have carried := congrArg deployedFingerprint? same
    rw [deployedFingerprint?_buildDeployment, deployedFingerprint?_buildDeployment] at carried
    exact Option.some.inj carried
  · exact congrArg (buildDeployment sso ns app) same

/-- What a bundle is revised to is built as it was itself. -/
theorem revise_built (revised : revise sso client cookieSecret bundle = .ok updated) :
    ∃ rendered, render sso client cookieSecret bundle.upstreamUrl port = .ok rendered ∧
      buildBundle sso bundle.appName bundle.upstreamUrl (secretData rendered) = .ok updated :=
  Except.bind_eq_ok revised

theorem buildBundle_carries (built : buildBundle sso app url data = .ok bundle) : bundle.secret.Carries data :=
  (buildBundle_ok built).2.2.1

/-! ## What is applied, and when -/

/-- A proxy that has been set up had the objects of its plan applied, each of them once. -/
theorem deploy_applied (run : Program.Runs (deploy config sso client cookieSecret) h (.ok bundle)) :
    (∃ upstream, plan sso client cookieSecret upstream = .ok bundle) ∧
      h.ofKind (.call .applySecret) = [⟨.call (.applySecret bundle.secret), .ok ()⟩] ∧
      h.ofKind (.call .applyDeployment) = [⟨.call (.applyDeployment bundle.deployment), .ok ()⟩] := by
  obtain ⟨ns, upstream, waits, -, planned, rfl, waited⟩ := deploy_history run
  -- The waits at the end apply nothing.
  have noSecret : History.ofKind waits (.call .applySecret) = [] := History.ofKind_eq_nil waited (by decide)
  have noDeployment : History.ofKind waits (.call .applyDeployment) = [] := History.ofKind_eq_nil waited (by decide)
  exact ⟨⟨upstream, planned⟩, congrArg (_ :: ·) noSecret, congrArg (_ :: ·) noDeployment⟩

/-- The last secret that was applied holds data of which the deployment carries the fingerprint. -/
def Coherent (h : History Operator) (d : Deployment) : Prop :=
  ∃ s data, (h.ofKind (.call .applySecret)).getLast? = some ⟨.call (.applySecret s), .ok ()⟩ ∧ s.Carries data ∧
    deployedFingerprint? d = some (fingerprint data)

theorem Coherent.append {d : Deployment} (coherent : Coherent h d) (early : History Operator) :
    Coherent (early ++ h) d := by
  obtain ⟨s, data, last, carries, carried⟩ := coherent
  exact ⟨s, data, History.getLast?_ofKind_append last, carries, carried⟩

theorem RollingOut.coherent {d : Deployment} (built : buildBundle sso app url data = .ok bundle)
    (rolling : RollingOut sso ns bundle h (.applyDeployment d)) : Coherent h d := by
  cases rolling with
  | deployment => exact ⟨bundle.secret, data, rfl, buildBundle_carries built, (buildBundle_ok built).2.2.2⟩

theorem deploy_coherent {d : Deployment}
    (asked : Program.Asks (deploy config sso client cookieSecret) h (.call (.applyDeployment d))) : Coherent h d := by
  obtain ⟨ns, -, ⟨-, ⟨⟩⟩ | ⟨upstream, bundle, h', rfl, planned, rolling⟩⟩ := deploy_asks asked
  obtain ⟨rendered, -, built⟩ := plan_built planned
  exact (rolling.coherent built).append [_]

theorem update_coherent {d : Deployment}
    (asked : Program.Asks (update config sso client cookieSecret bundle) h (.call (.applyDeployment d))) :
    Coherent h d := by
  obtain ⟨ns, updated, -, revised, rolling, -⟩ := update_asks asked
  obtain ⟨rendered, -, built⟩ := revise_built revised
  exact rolling.coherent built

end Proxy

theorem Provision.run_coherent {config : Config} {sso : Sso} {h : History Operator} {d : Deployment}
    (asked : Program.Asks (run config sso) h (.call (.applyDeployment d))) : Proxy.Coherent h d := by
  have apart : RequestKind.call .applyDeployment ∉ asideFootprint := by decide
  obtain ⟨client, cookieSecret, early, late, rfl, deploying | ⟨bundle, updating⟩⟩ := asks_rollout asked apart
  · exact (Proxy.deploy_coherent deploying).append early
  · exact (Proxy.update_coherent updating).append early

namespace Proxy

/-- **An update touches the configuration alone.**  After a proxy has been set up, its update applies no service, a
secret that differs from the first one at most in its data, and a deployment that differs at most in the fingerprint,
and is the same exactly if the fingerprints of the data are.  However far the two get, and however far a provisioning
gets in which they come, every deployment that is applied carries the fingerprint of the data of the last secret before
it. -/
theorem update_touches_configuration (config : Config) (sso : Sso) (client client' : OidcClient)
    (cookieSecret : String) :
    (∀ {bundle : Bundle} {h : History Operator},
      Program.Runs (deploy config sso client cookieSecret) h (.ok bundle) →
      ∃ s d data, h.ofKind (.call .applySecret) = [⟨.call (.applySecret s), .ok ()⟩] ∧
        h.ofKind (.call .applyDeployment) = [⟨.call (.applyDeployment d), .ok ()⟩] ∧ s.Carries data ∧
        ∀ {h' : History Operator} {c : Call},
          Program.Asks (update config sso client' cookieSecret bundle) h' (.call c) →
          c.kind ≠ .applyService ∧ (∀ s', c = .applySecret s' → { s' with data := s.data } = s) ∧
          ∀ d', c = .applyDeployment d' → d.SameWorkload d' ∧
            ∃ s' data', h' = [⟨.call (.applySecret s'), .ok ()⟩] ∧ s'.Carries data' ∧
              (d' = d ↔ fingerprint data' = fingerprint data)) ∧
    (∀ {h : History Operator} {d : Deployment},
      Program.Asks (deploy config sso client cookieSecret >>= update config sso client' cookieSecret : Routine Bundle) h
        (.call (.applyDeployment d)) → Coherent h d) ∧
    ∀ {h : History Operator} {d : Deployment},
      Program.Asks (Provision.run config sso) h (.call (.applyDeployment d)) → Coherent h d := by
  refine ⟨fun {bundle h} run => ?_, fun {h d} asked => ?_, Provision.run_coherent⟩
  · obtain ⟨⟨upstream, planned⟩, secret, deployment⟩ := deploy_applied run
    obtain ⟨rendered, -, built⟩ := plan_built planned
    refine ⟨_, _, _, secret, deployment, buildBundle_carries built, fun {h' c} asked => ?_⟩
    obtain ⟨ns, updated, -, revised, rolling, other⟩ := update_asks asked
    obtain ⟨rendered', -, rebuilt⟩ := revise_built revised
    have same := buildBundle_reconfigured built rebuilt
    refine ⟨other, fun s' applied => ?_, fun d' applied => ?_⟩
    · subst applied
      cases rolling with
      | secret => exact same.secret
    · subst applied
      cases rolling with
      | deployment =>
        exact ⟨same.workload, updated.secret, _, rfl, buildBundle_carries rebuilt, same.unchanged_iff⟩
  · rcases Action.asks_bind_iff.1 asked with deploying | ⟨bundle, h₁, h₂, rfl, -, updating⟩
    · exact deploy_coherent deploying
    · exact (update_coherent updating).append h₁

open Provision in
/-- A proxy that is set up for the first client of the sample, and then updated for the client with its host. -/
theorem sample_configuration_touched :
    let client' := { sampleClient with redirectUris := hostRedirectUrls ["app.jx"] }
    ∃ (bundle updated : Bundle) (h : History Operator) (d : Deployment),
      Program.Runs (deploy sampleConfig sample sampleClient "secret") h (.ok bundle) ∧
      Program.Asks (update sampleConfig sample client' "secret" bundle) [⟨.call (.applySecret updated.secret), .ok ()⟩]
        (.call (.applyDeployment updated.deployment)) ∧
      h.ofKind (.call .applyDeployment) = [⟨.call (.applyDeployment d), .ok ()⟩] ∧
      d.SameWorkload updated.deployment ∧
      Coherent (h ++ [⟨.call (.applySecret updated.secret), .ok ()⟩]) updated.deployment := by
  intro client'
  obtain ⟨bundle, planned⟩ : ∃ bundle, plan sample sampleClient "secret" sampleService = .ok bundle := ⟨_, rfl⟩
  obtain ⟨updated, revised⟩ : ∃ updated, revise sample client' "secret" bundle = .ok updated := ⟨_, rfl⟩
  have home : sample.requireNamespace = .ok "jx" := rfl
  have running : Waiting.podsRunning (fun _ => true) [samplePod none] = true := rfl
  have deployed := deploy_runs sampleConfig sampleService home planned running 0 0
  have updating : Program.Asks (update sampleConfig sample client' "secret" bundle)
      [⟨.call (.applySecret updated.secret), .ok ()⟩] (.call (.applyDeployment updated.deployment)) := by
    unfold update
    refine Action.asks_ofExcept_bind_iff.2 ⟨"jx", home, ?_⟩
    refine Action.asks_ofExcept_bind_iff.2 ⟨updated, revised, ?_⟩
    refine Routine.asks_call_bind_iff.2 (.inr ⟨(), [], rfl, ?_⟩)
    exact Routine.asks_call_bind_iff.2 (.inl ⟨rfl, rfl⟩)
  obtain ⟨touched, coherent, -⟩ :=
    update_touches_configuration sampleConfig sample sampleClient client' "secret"
  obtain ⟨s, d, data, -, deployment, -, later⟩ := touched deployed
  refine ⟨bundle, updated, _, d, deployed, updating, deployment, ((later updating).2.2 _ rfl).1, coherent ?_⟩
  exact Action.asks_bind_iff.2 (.inr ⟨bundle, _, _, rfl, deployed, updating⟩)

end Proxy
end SignOnOperator
