import SignOnOperator.Proofs.Agreement
/-!
# Rolling out a bundle

What is asked of the cluster with the objects of a proxy, and after what (`Proxy.RollingOut`), whether the proxy is set
up or updated.  Provisioning does both, and besides them asks for nothing of the kind (`Provision.asks_rollout`).
-/
namespace SignOnOperator

open Kubernetes

namespace Waiting

variable {what : String} {polling : Polling} {c c' : Call} {judge : c.Result → Verdict} {h : History Operator}

theorem asks_ask (asked : Program.Asks (ask c judge) h (.call c')) : c' = c := by
  rcases Action.asks_bind_iff.1 asked with called | ⟨_, _, _, -, -, judged⟩
  · exact OperatorRequest.call.inj (Routine.asks_call_iff.1 (Action.asks_attempt_iff.1 called)).2
  · exact absurd judged Program.not_asks_done

theorem asks_askUntil {deadline : Nat} {again : Unit → Routine Unit}
    (later : ∀ h, Program.Asks (again ()) h (.call c') → c' = c)
    (asked : Program.Asks (askUntil what polling deadline (ask c judge) again) h (.call c')) : c' = c := by
  rcases Action.asks_bind_iff.1 asked with question | ⟨verdict, _, h₁, -, -, answered⟩
  · exact asks_ask question
  cases verdict with
  | ready => exact absurd answered Program.not_asks_done
  | fatal e => exact absurd answered Program.not_asks_done
  | notReady =>
    rcases Action.asks_request_bind_iff.1 answered with ⟨-, ⟨⟩⟩ | ⟨now, h₂, -, decided⟩
    by_cases late : deadline ≤ now
    · rw [if_pos late] at decided
      exact absurd decided Program.not_asks_done
    · rw [if_neg late] at decided
      rcases Action.asks_request_bind_iff.1 decided with ⟨-, ⟨⟩⟩ | ⟨_, h₃, -, repeated⟩
      exact later h₃ repeated

/-- A wait that asks by one call makes no other. -/
theorem asks_wait (asked : Program.Asks (wait what polling (ask c judge)) h (.call c')) : c' = c := by
  rcases Action.asks_request_bind_iff.1 asked with ⟨-, ⟨⟩⟩ | ⟨start, h', -, waiting⟩
  -- By induction on the rounds that are left.
  have rounds : ∀ (deadline n : Nat) (h : History Operator),
      Program.Asks (waitUntil what polling deadline (ask c judge) n) h (.call c') → c' = c := by
    intro deadline n
    induction n with
    | zero => exact fun h => asks_askUntil fun _ failed => absurd failed Program.not_asks_done
    | succ n ih => exact fun h => asks_askUntil ih
  exact rounds _ _ h' waiting

end Waiting

namespace Proxy

variable {config : Config} {sso : Sso} {client : OidcClient} {cookieSecret ns : String} {bundle : Bundle}
  {h : History Operator} {c : Call}

/-- What is asked for to roll out the objects of a bundle, by what has been done with them before. -/
inductive RollingOut (sso : Sso) (ns : String) (bundle : Bundle) : History Operator → Call → Prop
  | secret : RollingOut sso ns bundle [] (.applySecret bundle.secret)
  | deployment :
    RollingOut sso ns bundle [⟨.call (.applySecret bundle.secret), .ok ()⟩] (.applyDeployment bundle.deployment)
  | service (h : History Operator) : RollingOut sso ns bundle h (.applyService bundle.service)
  | look (h : History Operator) (name : String) : RollingOut sso ns bundle h (.getService ns name)
  | settle (h : History Operator) (name : String) : RollingOut sso ns bundle h (.getDeployment ns name)
  | pods (h : History Operator) : RollingOut sso ns bundle h (.listPods ns (Labels.podSelector sso.name))

theorem applyAndWait_asks (asked : Program.Asks (applyAndWait config sso ns bundle) h (.call c)) :
    RollingOut sso ns bundle h c := by
  rcases Routine.asks_call_bind_iff.1 asked with ⟨rfl, ⟨⟩⟩ | ⟨⟨⟩, h₁, rfl, stored⟩
  · exact .secret
  rcases Routine.asks_call_bind_iff.1 stored with ⟨rfl, ⟨⟩⟩ | ⟨⟨⟩, h₂, rfl, deployed⟩
  · exact .deployment
  rcases Routine.asks_call_bind_iff.1 deployed with ⟨rfl, ⟨⟩⟩ | ⟨⟨⟩, h₃, rfl, waiting⟩
  · exact .service _
  rcases Action.asks_bind_iff.1 waiting with looking | ⟨_, _, _, rfl, -, listing⟩
  · obtain rfl := Waiting.asks_wait looking
    exact .look _ _
  · obtain rfl := Waiting.asks_wait listing
    exact .pods _

/-- Setting up a proxy asks for the upstream service, and then for what its plan is rolled out with. -/
theorem deploy_asks (asked : Program.Asks (deploy config sso client cookieSecret) h (.call c)) :
    ∃ ns, sso.requireNamespace = .ok ns ∧ ((h = [] ∧ c = .getService ns sso.spec.upstreamService) ∨
      ∃ upstream bundle h', h = ⟨.call (.getService ns sso.spec.upstreamService), .ok (some upstream)⟩ :: h' ∧
        plan sso client cookieSecret upstream = .ok bundle ∧ RollingOut sso ns bundle h' c) := by
  obtain ⟨ns, home, located⟩ := Action.asks_ofExcept_bind_iff.1 asked
  refine ⟨ns, home, ?_⟩
  rcases Routine.asks_call_bind_iff.1 located with ⟨rfl, ⟨⟩⟩ | ⟨(found : Option Service), h', rfl, answered⟩
  · exact .inl ⟨rfl, rfl⟩
  obtain ⟨upstream, rfl, going⟩ := Action.asks_require_bind_iff.1 answered
  obtain ⟨bundle, planned, rolling⟩ := Action.asks_ofExcept_bind_iff.1 going
  rcases Action.asks_bind_iff.1 rolling with applying | ⟨_, _, _, -, -, ended⟩
  · exact .inr ⟨upstream, bundle, h', rfl, planned, applyAndWait_asks applying⟩
  · exact absurd ended Program.not_asks_done

/-- Setting up a proxy, where it works, has applied the objects of its plan in order, and waited after that. -/
theorem deploy_history (run : Program.Runs (deploy config sso client cookieSecret) h (.ok bundle)) :
    ∃ ns upstream waits, sso.requireNamespace = .ok ns ∧ plan sso client cookieSecret upstream = .ok bundle ∧
      h = ⟨.call (.getService ns sso.spec.upstreamService), .ok (some upstream)⟩ ::
        ⟨.call (.applySecret bundle.secret), .ok ()⟩ :: ⟨.call (.applyDeployment bundle.deployment), .ok ()⟩ ::
        ⟨.call (.applyService bundle.service), .ok ()⟩ :: waits ∧
      ∀ t ∈ waits, t.kind ∈ Waiting.footprint .getService ++ Waiting.footprint .listPods := by
  obtain ⟨ns, home, located⟩ := Action.runs_ofExcept_bind_ok_iff.1 run
  obtain ⟨found, h₁, rfl, required⟩ := Routine.runs_call_bind_ok_iff.1 located
  obtain ⟨upstream, rfl, rest⟩ := Action.runs_require_bind_ok_iff.1 required
  obtain ⟨planned, plans, rolledOut⟩ := Action.runs_ofExcept_bind_ok_iff.1 rest
  obtain ⟨⟨⟩, h₂, h₃, rfl, applied, last⟩ := Action.runs_bind_ok_iff.1 rolledOut
  obtain ⟨rfl, ⟨⟩⟩ := Action.runs_pure_iff.1 last
  obtain ⟨⟨⟩, h₄, rfl, stored⟩ := Routine.runs_call_bind_ok_iff.1 applied
  obtain ⟨⟨⟩, h₅, rfl, deployed⟩ := Routine.runs_call_bind_ok_iff.1 stored
  obtain ⟨⟨⟩, _, rfl, waited⟩ := Routine.runs_call_bind_ok_iff.1 deployed
  obtain ⟨⟨⟩, h₆, h₇, rfl, looked, listed⟩ := Action.runs_bind_ok_iff.1 waited
  have looking := (Waiting.forService_confined _ _ _ _).turns looked
  have listing := (Waiting.forPods_confined _ _ _ _).turns listed
  rw [List.append_nil]
  refine ⟨ns, upstream, h₆ ++ h₇, home, plans, rfl, ?_⟩
  exact List.forall_mem_append.2 ⟨fun t ht => List.mem_append_left _ (looking t ht),
    fun t ht => List.mem_append_right _ (listing t ht)⟩

/-- An update asks for what the revised bundle is rolled out with, but not for the service. -/
theorem update_asks (asked : Program.Asks (update config sso client cookieSecret bundle) h (.call c)) :
    ∃ ns updated, sso.requireNamespace = .ok ns ∧ revise sso client cookieSecret bundle = .ok updated ∧
      RollingOut sso ns updated h c ∧ c.kind ≠ .applyService := by
  obtain ⟨ns, home, revising⟩ := Action.asks_ofExcept_bind_iff.1 asked
  obtain ⟨updated, revised, rolling⟩ := Action.asks_ofExcept_bind_iff.1 revising
  refine ⟨ns, updated, home, revised, ?_⟩
  rcases Routine.asks_call_bind_iff.1 rolling with ⟨rfl, ⟨⟩⟩ | ⟨⟨⟩, h₁, rfl, stored⟩
  · exact ⟨.secret, nofun⟩
  rcases Routine.asks_call_bind_iff.1 stored with ⟨rfl, ⟨⟩⟩ | ⟨⟨⟩, h₂, rfl, waiting⟩
  · exact ⟨.deployment, nofun⟩
  rcases Action.asks_bind_iff.1 waiting with settling | ⟨_, _, h₃, rfl, -, settled⟩
  · obtain rfl := Waiting.asks_wait settling
    exact ⟨.settle _ _, nofun⟩
  rcases Action.asks_bind_iff.1 settled with listing | ⟨_, _, _, -, -, ended⟩
  · obtain rfl := Waiting.asks_wait listing
    exact ⟨.pods _, nofun⟩
  · exact absurd ended Program.not_asks_done

end Proxy

namespace Provision

variable {config : Config} {sso : Sso} {client : OidcClient} {cookieSecret ns account : String} {h : History Operator}
  {r : OperatorRequest}

/-- What provisioning asks for apart from rolling out a bundle. -/
def asideFootprint : List RequestKind :=
  prepareFootprint ++ Exposure.footprint ++ compensateFootprint ++
    [.call .createClient, .call .ingressHosts, .call .updateClient, .call .patchSsoStatus]

theorem arrange_asks (asked : Program.Asks (arrange config sso ns account cookieSecret client) h r)
    (hr : r.kind ∉ asideFootprint) :
    Program.Asks (Proxy.deploy config sso client cookieSecret) h r ∨
      ∃ client' bundle early late, h = early ++ late ∧
        Program.Asks (Proxy.update config sso client' cookieSecret bundle) late r := by
  rcases Action.asks_bind_iff.1 asked with deploying | ⟨bundle, h₁, h₂, rfl, -, publishing⟩
  · exact .inl (Action.asks_mapError_iff.1 deploying)
  rcases Action.asks_bind_iff.1 publishing with exposing | ⟨_, h₃, h₄, rfl, -, resolving⟩
  · exact absurd exposing (((publish_confined _ _ _ _ _).mono (by decide)).not_asks _ rfl hr)
  rcases Action.asks_bind_iff.1 resolving with hosts | ⟨_, h₅, h₆, rfl, -, telling⟩
  · have confined : Confined asideFootprint (resolveHosts ns bundle.appName) :=
      (resolveHosts_confined ns bundle.appName).mono (by decide)
    exact absurd (Action.asks_mapError_iff.1 hosts) (confined.not_asks _ rfl hr)
  rcases Action.asks_bind_iff.1 telling with client | ⟨_, h₇, h₈, rfl, -, updating⟩
  · obtain ⟨-, rfl⟩ := Routine.asks_call_iff.1 (Action.asks_mapError_iff.1 client)
    exact absurd (by decide : RequestKind.call .updateClient ∈ asideFootprint) hr
  rcases Action.asks_bind_iff.1 updating with again | ⟨_, _, _, -, -, ended⟩
  · refine .inr ⟨_, bundle, h₁ ++ (h₃ ++ (h₅ ++ h₇)), h₈, ?_, Action.asks_mapError_iff.1 again⟩
    simp only [List.append_assoc]
  · exact absurd ended Program.not_asks_done

/-- What provisioning asks for on a new client, apart from the status, it asks for in the part of the work that comes
before the status, and after the client has been created on the groundwork. -/
theorem asks_arrange (asked : Program.Asks (run config sso) h r)
    (hr : r.kind ∉ prepareFootprint ++ compensateFootprint ++ [.call .createClient, .call .patchSsoStatus]) :
    ∃ g client early arranged, h = early ++ creation sso (.ok client) :: arranged ∧
      Program.Runs (prepare config sso) early (.ok g) ∧
      Program.Asks (arrange config sso g.ns g.account g.cookieSecret client) arranged r := by
  rw [run_eq] at asked
  rcases Action.asks_bind_iff.1 asked with preparing | ⟨g, early, _, rfl, prepared, creating⟩
  · exact absurd preparing (((prepare_confined config sso).mono (by decide)).not_asks _ rfl hr)
  rcases Action.asks_bind_iff.1 creating with registering | ⟨client, h₂, arranged, rfl, created, completing⟩
  · obtain ⟨-, rfl⟩ := Routine.asks_call_iff.1 (Action.asks_mapError_iff.1 registering)
    exact absurd (by decide : RequestKind.call .createClient ∈ _) hr
  obtain rfl := Routine.runs_call_iff.1 (Action.runs_mapError_ok_iff.1 created)
  rcases Action.asks_bind_iff.1 completing with configuring | ⟨result, _, _, -, -, ending⟩
  · have working := Action.asks_attempt_iff.1 configuring
    rw [configure_eq] at working
    rcases Action.asks_bind_iff.1 working with arranging | ⟨_, _, _, -, -, concluding⟩
    · exact ⟨g, client, early, arranged, rfl, prepared, arranging⟩
    · obtain ⟨-, rfl⟩ := Routine.asks_call_iff.1 (Action.asks_mapError_iff.1 concluding)
      exact absurd (by decide : RequestKind.call .patchSsoStatus ∈ _) hr
  · cases result with
    | ok _ => exact absurd ending Program.not_asks_done
    | error e =>
      have confined := (compensate_confined client.id).bind fun _ => .fail (α := Unit) e
      exact absurd ending ((confined.mono (by decide)).not_asks _ rfl hr)

/-- Whatever else provisioning asks for, it asks for it in setting up the proxy or in updating it. -/
theorem asks_rollout (asked : Program.Asks (run config sso) h r) (hr : r.kind ∉ asideFootprint) :
    ∃ client cookieSecret early late, h = early ++ late ∧
      (Program.Asks (Proxy.deploy config sso client cookieSecret) late r ∨
        ∃ bundle, Program.Asks (Proxy.update config sso client cookieSecret bundle) late r) := by
  have aside : ∀ k ∈ prepareFootprint ++ compensateFootprint ++ [.call .createClient, .call .patchSsoStatus],
      k ∈ asideFootprint := by decide
  obtain ⟨g, client, early, arranged, rfl, -, arranging⟩ := asks_arrange asked fun mem => hr (aside _ mem)
  rcases arrange_asks arranging hr with deploying | ⟨client', bundle, before, late, rfl, updating⟩
  · exact ⟨client, g.cookieSecret, _, arranged, List.append_cons .., .inl deploying⟩
  · refine ⟨client', g.cookieSecret, early ++ creation sso (.ok client) :: before, late, ?_, .inr ⟨bundle, updating⟩⟩
    rw [List.append_assoc, List.cons_append]

end Provision
end SignOnOperator
