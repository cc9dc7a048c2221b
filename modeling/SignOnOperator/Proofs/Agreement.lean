import SignOnOperator.Proofs.Compensation
import SignOnOperator.Proofs.Success
/-!
# Agreement

The status of an SSO is written only after the cluster and the identity provider have been seen to agree on the final
configuration.  What a part of the work leaves in the history when it succeeds is stated part by part; the status comes
after all of them, and no later part asks for what an earlier one has settled.
-/
namespace SignOnOperator

/-! ## Turns of a kind -/

namespace History

def ofKind (h : History Operator) (kind : RequestKind) : History Operator := h.filter fun t => t.kind = kind

theorem ofKind_append (h h' : History Operator) (kind : RequestKind) :
    ofKind (h ++ h') kind = ofKind h kind ++ ofKind h' kind :=
  List.filter_append ..

theorem ofKind_cons_of_eq {t : Turn Operator} {h : History Operator} {kind : RequestKind} (ht : t.kind = kind) :
    ofKind (t :: h) kind = t :: ofKind h kind :=
  List.filter_cons_of_pos (decide_eq_true ht)

theorem ofKind_cons_of_ne {t : Turn Operator} {h : History Operator} {kind : RequestKind} (ht : t.kind ≠ kind) :
    ofKind (t :: h) kind = ofKind h kind :=
  List.filter_cons_of_neg fun same => ht (of_decide_eq_true same)

theorem ofKind_eq_nil {h : History Operator} {kinds : List RequestKind} {kind : RequestKind}
    (hh : ∀ t ∈ h, t.kind ∈ kinds) (hk : kind ∉ kinds) : ofKind h kind = [] :=
  List.filter_eq_nil_iff.2 fun t ht same => hk (of_decide_eq_true same ▸ hh t ht)

/-- A turn is the only one of its kind if there is none before it and none after it. -/
theorem ofKind_eq_singleton {h h' : History Operator} {t : Turn Operator} {kind : RequestKind} (ht : t.kind = kind)
    (before : ofKind h kind = []) (after : ofKind h' kind = []) : ofKind (h ++ t :: h') kind = [t] := by
  rw [ofKind_append, ofKind_cons_of_eq ht, before, after]
  rfl

theorem getLast?_ofKind {h : History Operator} {t : Turn Operator} {kind : RequestKind} (ht : t.kind = kind) :
    (ofKind (h ++ [t]) kind).getLast? = some t := by
  rw [ofKind_append, ofKind_cons_of_eq ht]
  exact List.getLast?_concat ..

theorem getLast?_ofKind_append {h h' : History Operator} {kind : RequestKind} {t : Turn Operator}
    (ht : (ofKind h' kind).getLast? = some t) : (ofKind (h ++ h') kind).getLast? = some t := by
  rw [ofKind_append, List.getLast?_append, ht]
  rfl

theorem head?_ofKind_append {h h' : History Operator} {kind : RequestKind} {t : Turn Operator}
    (ht : (ofKind h kind).head? = some t) : (ofKind (h ++ h') kind).head? = some t := by
  rw [ofKind_append, List.head?_append, ht]
  rfl

end History

/-! ## Waits that come to a good end -/

namespace Waiting

theorem ask_ready {c : Call} {judge : c.Result → Verdict} {h : History Operator}
    (run : Program.Runs (ask c judge) h (.ok .ready)) : ∃ found, h = [⟨.call c, .ok found⟩] ∧ judge found = .ready := by
  -- A call that failed is judged by its error, which is never what is waited for.
  rcases Action.runs_attempt_bind_iff.1 run with
    ⟨found, h₁, h₂, rfl, called, last⟩ | ⟨e, h₁, h₂, rfl, called, last⟩ | ⟨⟨⟩, _⟩
  · obtain rfl := Routine.runs_call_iff.1 called
    obtain ⟨rfl, ho⟩ := Action.runs_pure_iff.1 last
    exact ⟨found, rfl, (Outcome.ok.inj ho).symm⟩
  · obtain ⟨-, ho⟩ := Action.runs_pure_iff.1 last
    have verdict : Verdict.ready = Verdict.ofError e := Outcome.ok.inj ho
    unfold Verdict.ofError at verdict
    split at verdict
    · cases verdict
    · cases verdict

/-- What is asked until it is answered has been answered at last, now or later. -/
theorem askUntil_ok {what : String} {polling : Polling} {deadline : Nat} {question : Routine Verdict}
    {again : Unit → Routine Unit} {h : History Operator}
    (run : Program.Runs (askUntil what polling deadline question again) h (.ok ())) :
    Program.Runs question h (.ok .ready) ∨ ∃ early late, h = early ++ late ∧ Program.Runs (again ()) late (.ok ()) := by
  obtain ⟨verdict, h₁, h₂, rfl, asked, rest⟩ := Action.runs_bind_ok_iff.1 run
  cases verdict with
  | ready =>
    obtain ⟨rfl, -⟩ := Action.runs_pure_iff.1 rest
    exact .inl ((List.append_nil h₁).symm ▸ asked)
  | fatal e => cases (Action.runs_fail_iff.1 rest).2
  | notReady =>
    obtain ⟨now, h₃, rfl, decided⟩ := Action.runs_request_bind_iff.1 rest
    by_cases late : deadline ≤ now
    · rw [if_pos late] at decided
      cases (Action.runs_fail_iff.1 decided).2
    · rw [if_neg late] at decided
      obtain ⟨_, h₄, rfl, later⟩ := Action.runs_request_bind_iff.1 decided
      exact .inr ⟨_, h₄, (List.append_cons ..).trans (List.append_cons ..), later⟩

theorem waitUntil_ok {what : String} {polling : Polling} {deadline : Nat} {question : Routine Verdict} :
    ∀ (rounds : Nat) {h : History Operator},
      Program.Runs (waitUntil what polling deadline question rounds) h (.ok ()) →
        ∃ early late, h = early ++ late ∧ Program.Runs question late (.ok .ready)
  | 0, h, run => by
    rcases askUntil_ok run with now | ⟨_, _, _, later⟩
    · exact ⟨[], h, rfl, now⟩
    · cases (Action.runs_fail_iff.1 later).2
  | rounds + 1, h, run => by
    rcases askUntil_ok run with now | ⟨h₁, h₂, rfl, later⟩
    · exact ⟨[], h, rfl, now⟩
    · obtain ⟨early, late, rfl, ready⟩ := waitUntil_ok rounds later
      exact ⟨h₁ ++ early, late, (List.append_assoc ..).symm, ready⟩

/-- **A wait that ends well** ends with the reply that it was for. -/
theorem wait_ask_ok {what : String} {polling : Polling} {c : Call} {judge : c.Result → Verdict} {h : History Operator}
    (run : Program.Runs (wait what polling (ask c judge)) h (.ok ())) :
    ∃ early found, h = early ++ [⟨.call c, .ok found⟩] ∧ judge found = .ready := by
  obtain ⟨start, h', rfl, rest⟩ := Action.runs_request_bind_iff.1 run
  obtain ⟨early, late, rfl, asked⟩ := waitUntil_ok _ rest
  obtain ⟨found, rfl, ready⟩ := ask_ready asked
  exact ⟨_ :: early, found, rfl, ready⟩

theorem wait_ask_runs {what : String} {polling : Polling} {c : Call} {judge : c.Result → Verdict} {found : c.Result}
    (ready : judge found = .ready) (start : Nat) :
    Program.Runs (wait what polling (ask c judge)) [⟨.clock, start⟩, ⟨.call c, .ok found⟩] (.ok ()) := by
  have asked : Program.Runs (ask c judge) [⟨.call c, .ok found⟩] (.ok .ready) := ready ▸ .turn (.here _)
  have ended : ∀ deadline again,
      Program.Runs (askUntil what polling deadline (ask c judge) again) [⟨.call c, .ok found⟩] (.ok ()) :=
    fun _ _ => Action.runs_bind_ok_iff.2 ⟨.ready, _, [], rfl, asked, .here _⟩
  refine Action.runs_request_bind_iff.2 ⟨start, _, rfl, ?_⟩
  cases polling.rounds with
  | zero => exact ended _ _
  | succ _ => exact ended _ _

theorem readyIf_eq_ready_iff {condition : Bool} : Verdict.readyIf condition = .ready ↔ condition = true := by
  cases condition <;> decide

theorem forDeployment_ok {ns name : String} {polling : Polling} {h : History Operator}
    (run : Program.Runs (forDeployment ns name polling) h (.ok ())) :
    ∃ d, (h.ofKind (.call .getDeployment)).getLast? = some ⟨.call (.getDeployment ns name), .ok (some d)⟩ ∧
      deploymentStable d = true := by
  obtain ⟨early, found, rfl, ready⟩ := wait_ask_ok run
  cases found with
  | none => cases ready
  | some d => exact ⟨d, History.getLast?_ofKind rfl, readyIf_eq_ready_iff.1 ready⟩

theorem forCurrentPods_ok {ns selector : String} {accepts : Kubernetes.Pod → Bool} {polling : Polling}
    {h : History Operator} (run : Program.Runs (forCurrentPods ns selector accepts polling) h (.ok ())) :
    ∃ pods, (h.ofKind (.call .listPods)).getLast? = some ⟨.call (.listPods ns selector), .ok pods⟩ ∧
      podsRunning accepts pods = true := by
  obtain ⟨early, pods, rfl, ready⟩ := wait_ask_ok run
  exact ⟨pods, History.getLast?_ofKind rfl, readyIf_eq_ready_iff.1 ready⟩

theorem deploymentStable_iff {d : Kubernetes.Deployment} :
    deploymentStable d = true ↔
      d.metadata.generation.getD 0 ≤ (d.status.bind (·.observedGeneration)).getD 0 ∧
        (d.status.bind (·.replicas)).getD 0 = (d.spec.bind (·.replicas)).getD 1 := by
  unfold deploymentStable
  cases d.status with
  | none => simp
  | some status => simp

theorem podsRunning_iff {accepts : Kubernetes.Pod → Bool} {pods : List Kubernetes.Pod} :
    podsRunning accepts pods = true ↔ pods ≠ [] ∧ ∀ pod ∈ pods, accepts pod = true ∧ pod.phase = "Running" := by
  unfold podsRunning
  simp

end Waiting

/-! ## The parts of the work that come to a good end -/

/-- The cookie secret that was found in the cell or put there. -/
def Turn.cookieSecret? : Turn Operator → Option String
  | ⟨.enterCell, held⟩ => held
  | ⟨.fillCell value, _⟩ => some value
  | _ => none

theorem Turn.kind_of_cookieSecret? {t : Turn Operator} {value : String} (ht : t.cookieSecret? = some value) :
    t.kind = .enterCell ∨ t.kind = .fillCell := by
  obtain ⟨r, reply⟩ := t
  cases r with
  | enterCell => exact .inl rfl
  | fillCell _ => exact .inr rfl
  | _ => cases ht

theorem History.filterMap_cookieSecret?_eq_nil {kinds : List RequestKind} {h : History Operator}
    (hh : ∀ t ∈ h, t.kind ∈ kinds) (enter : .enterCell ∉ kinds) (fill : .fillCell ∉ kinds) :
    h.filterMap Turn.cookieSecret? = [] := by
  refine filterMap_eq_nil hh fun t v ht => ?_
  rcases Turn.kind_of_cookieSecret? ht with hk | hk
  · exact hk ▸ enter
  · exact hk ▸ fill

namespace CookieSecret

theorem fill_ok {ns value : String} {h : History Operator} (run : Program.Runs (fill ns) h (.ok value)) :
    h.filterMap Turn.cookieSecret? = [value] := by
  obtain ⟨o, h₁, h₂, rfl, loaded, last⟩ := Program.runs_bind_iff.1 run
  have silent : h₁.filterMap Turn.cookieSecret? = [] :=
    History.filterMap_cookieSecret?_eq_nil ((loadOrCreate_confined ns).turns loaded) (by decide) (by decide)
  cases o with
  | ok v =>
    obtain ⟨_, h₃, rfl, ended⟩ := Program.runs_ask_iff.1 last
    obtain ⟨rfl, ho⟩ := Program.runs_done_iff.1 ended
    cases ho
    rw [List.filterMap_append, silent]
    rfl
  | error e =>
    obtain ⟨_, h₃, rfl, ended⟩ := Program.runs_ask_iff.1 last
    cases (Program.runs_done_iff.1 ended).2
  | panic =>
    obtain ⟨_, h₃, rfl, ended⟩ := Program.runs_ask_iff.1 last
    cases (Program.runs_done_iff.1 ended).2

theorem get_ok {ns value : String} {h : History Operator} (run : Program.Runs (get ns) h (.ok value)) :
    h.filterMap Turn.cookieSecret? = [value] := by
  obtain ⟨held, h', rfl, rest⟩ := Action.runs_request_bind_iff.1 run
  cases held with
  | some v =>
    obtain ⟨rfl, ho⟩ := Action.runs_pure_iff.1 rest
    cases ho
    rfl
  | none =>
    have filled : h'.filterMap Turn.cookieSecret? = [value] := fill_ok rest
    exact filled

end CookieSecret

namespace Proxy

/-- The settings show the client, the cookie secret, the upstream address, and the first place to send users back
to. -/
theorem settings_ok {sso : Sso} {client : OidcClient} {cookieSecret upstreamUrl : String} {port : Int} {s : Settings}
    (hs : settings sso client cookieSecret upstreamUrl port = .ok s) :
    s.clientId = client.id ∧ s.clientSecret = client.secret ∧ s.cookieSecret = cookieSecret ∧
      s.upstreamUrl = upstreamUrl ∧ client.redirectUris.head? = some s.redirectUrl := by
  unfold settings at hs
  cases uris : client.redirectUris with
  | nil =>
    simp only [uris] at hs
    split at hs
    · cases hs
    · cases hs
  | cons uri rest =>
    simp only [uris] at hs
    split at hs
    · cases hs
    · cases hs
      exact ⟨rfl, rfl, rfl, rfl, rfl⟩

theorem deployedFingerprint?_buildDeployment (sso : Sso) (ns app fingerprint : String) :
    deployedFingerprint? (buildDeployment sso ns app fingerprint) = some fingerprint := by
  simp [deployedFingerprint?, buildDeployment, Kubernetes.Deployment.podSpec?, Kubernetes.PodSpec.envValue?,
    buildContainer]

/-- A bundle is built in the namespace of the SSO. -/
theorem exists_of_buildBundle {sso : Sso} {app url : String} {data : KeyMap String} {bundle : Bundle}
    (built : buildBundle sso app url data = .ok bundle) :
    ∃ ns, sso.requireNamespace = .ok ns ∧
      bundle = {
        appName := app, upstreamUrl := url, secret := buildSecret sso ns app data
        deployment := buildDeployment sso ns app (fingerprint data), service := buildService sso ns app } := by
  obtain ⟨ns, home, made⟩ := Except.bind_eq_ok built
  exact ⟨ns, home, (Except.ok.inj made).symm⟩

theorem buildBundle_ok {sso : Sso} {app url : String} {data : KeyMap String} {bundle : Bundle}
    (built : buildBundle sso app url data = .ok bundle) :
    bundle.appName = app ∧ bundle.upstreamUrl = url ∧ bundle.secret.data = some (data.map Bytes.ofString) ∧
      deployedFingerprint? bundle.deployment = some (fingerprint data) := by
  obtain ⟨ns, -, rfl⟩ := exists_of_buildBundle built
  exact ⟨rfl, rfl, rfl, deployedFingerprint?_buildDeployment sso ns app _⟩

theorem render_ok {sso : Sso} {client : OidcClient} {cookieSecret upstreamUrl rendered : String} {port : Int}
    (hr : render sso client cookieSecret upstreamUrl port = .ok rendered) :
    ∃ s, settings sso client cookieSecret upstreamUrl port = .ok s ∧ s.render = rendered := by
  unfold render at hr
  cases hs : settings sso client cookieSecret upstreamUrl port with
  | error e => rw [hs] at hr; cases hr
  | ok s => rw [hs] at hr; exact ⟨s, rfl, Except.ok.inj hr⟩

theorem plan_ok {sso : Sso} {client : OidcClient} {cookieSecret : String} {upstream : Kubernetes.Service}
    {bundle : Bundle} (planned : plan sso client cookieSecret upstream = .ok bundle) :
    bundle.appName = appName upstream ∧ upstreamUrl upstream = .ok bundle.upstreamUrl := by
  obtain ⟨url, hurl, rest⟩ := Except.bind_eq_ok planned
  obtain ⟨rendered, -, built⟩ := Except.bind_eq_ok rest
  obtain ⟨app, rfl, -⟩ := buildBundle_ok built
  exact ⟨app, hurl⟩

/-- What is planned is a bundle on the configuration of the client. -/
theorem plan_built {sso : Sso} {client : OidcClient} {cookieSecret : String} {upstream : Kubernetes.Service}
    {bundle : Bundle} (planned : plan sso client cookieSecret upstream = .ok bundle) :
    ∃ rendered, render sso client cookieSecret bundle.upstreamUrl port = .ok rendered ∧
      buildBundle sso bundle.appName bundle.upstreamUrl (secretData rendered) = .ok bundle := by
  obtain ⟨url, -, rest⟩ := Except.bind_eq_ok planned
  obtain ⟨rendered, made, built⟩ := Except.bind_eq_ok rest
  obtain ⟨app, url, -⟩ := buildBundle_ok built
  subst url
  exact ⟨rendered, made, app ▸ built⟩

/-- A revised bundle holds the configuration for the client that it was revised for, and its fingerprint. -/
theorem revise_ok {sso : Sso} {client : OidcClient} {cookieSecret : String} {bundle updated : Bundle}
    (revised : revise sso client cookieSecret bundle = .ok updated) :
    ∃ s, settings sso client cookieSecret bundle.upstreamUrl port = .ok s ∧
      updated.secret.data = some ((secretData s.render).map Bytes.ofString) ∧
      deployedFingerprint? updated.deployment = some (fingerprint (secretData s.render)) := by
  obtain ⟨rendered, made, built⟩ := Except.bind_eq_ok revised
  obtain ⟨s, hs, rfl⟩ := render_ok made
  obtain ⟨-, -, data, fingerprint⟩ := buildBundle_ok built
  exact ⟨s, hs, data, fingerprint⟩

/-- A proxy that has been set up stands before the service that was found first. -/
theorem deploy_ok {config : Config} {sso : Sso} {client : OidcClient} {cookieSecret ns : String} {bundle : Bundle}
    {h : History Operator} (hns : sso.requireNamespace = .ok ns)
    (run : Program.Runs (deploy config sso client cookieSecret) h (.ok bundle)) :
    ∃ upstream, bundle.appName = appName upstream ∧ upstreamUrl upstream = .ok bundle.upstreamUrl ∧
      (h.ofKind (.call .getService)).head? =
        some ⟨.call (.getService ns sso.spec.upstreamService), .ok (some upstream)⟩ := by
  unfold deploy at run
  rw [hns] at run
  obtain ⟨_, ⟨⟩, located⟩ := Action.runs_ofExcept_bind_ok_iff.1 run
  obtain ⟨found, h₁, rfl, required⟩ := Routine.runs_call_bind_ok_iff.1 located
  obtain ⟨upstream, rfl, rest⟩ := Action.runs_require_bind_ok_iff.1 required
  obtain ⟨planned, hp, applied⟩ := Action.runs_ofExcept_bind_ok_iff.1 rest
  obtain ⟨_, h₂, h₃, rfl, -, last⟩ := Action.runs_bind_ok_iff.1 applied
  obtain ⟨rfl, ⟨⟩⟩ := Action.runs_pure_iff.1 last
  obtain ⟨app, url⟩ := plan_ok hp
  exact ⟨upstream, app, url, rfl⟩

/-- A proxy that has been updated has all objects of the revised bundle, and has been seen to run on them. -/
theorem update_ok {config : Config} {sso : Sso} {client : OidcClient} {cookieSecret ns : String}
    {bundle updated : Bundle} {h : History Operator} (hns : sso.requireNamespace = .ok ns)
    (run : Program.Runs (update config sso client cookieSecret bundle) h (.ok updated)) :
    revise sso client cookieSecret bundle = .ok updated ∧
      (h.ofKind (.call .applySecret)).getLast? = some ⟨.call (.applySecret updated.secret), .ok ()⟩ ∧
      (h.ofKind (.call .applyDeployment)).getLast? = some ⟨.call (.applyDeployment updated.deployment), .ok ()⟩ ∧
      (∃ d, (h.ofKind (.call .getDeployment)).getLast? =
          some ⟨.call (.getDeployment ns updated.deployment.metadata.nameAny), .ok (some d)⟩ ∧
        Waiting.deploymentStable d = true) ∧
      ∃ pods, (h.ofKind (.call .listPods)).getLast? =
          some ⟨.call (.listPods ns (Labels.podSelector sso.name)), .ok pods⟩ ∧
        Waiting.podsRunning (fun pod => podFingerprint? pod == deployedFingerprint? updated.deployment)
          pods = true := by
  unfold update at run
  rw [hns] at run
  obtain ⟨_, ⟨⟩, revised⟩ := Action.runs_ofExcept_bind_ok_iff.1 run
  obtain ⟨made, hr, applied⟩ := Action.runs_ofExcept_bind_ok_iff.1 revised
  obtain ⟨⟨⟩, h₁, rfl, secretApplied⟩ := Routine.runs_call_bind_ok_iff.1 applied
  obtain ⟨⟨⟩, h₂, rfl, deploymentApplied⟩ := Routine.runs_call_bind_ok_iff.1 secretApplied
  obtain ⟨⟨⟩, h₃, h₄, rfl, settled, waited⟩ := Action.runs_bind_ok_iff.1 deploymentApplied
  obtain ⟨⟨⟩, h₅, h₆, rfl, running, last⟩ := Action.runs_bind_ok_iff.1 waited
  obtain ⟨rfl, ⟨⟩⟩ := Action.runs_pure_iff.1 last
  have kinds₃ := (Waiting.forDeployment_confined _ _ _).turns settled
  have kinds₅ := (Waiting.forPods_confined _ _ _ _).turns running
  rw [List.append_nil]
  -- The waits apply nothing, so what was applied before them is the last of its kind.
  have waits : ∀ t ∈ h₃ ++ h₅, t.kind ∈ Waiting.footprint .getDeployment ++ Waiting.footprint .listPods :=
    List.forall_mem_append.2 ⟨fun t ht => List.mem_append_left _ (kinds₃ t ht),
      fun t ht => List.mem_append_right _ (kinds₅ t ht)⟩
  have noSecret : History.ofKind (h₃ ++ h₅) (.call .applySecret) = [] := History.ofKind_eq_nil waits (by decide)
  have noDeployment : History.ofKind (h₃ ++ h₅) (.call .applyDeployment) = [] :=
    History.ofKind_eq_nil waits (by decide)
  have noAnswer : History.ofKind h₅ (.call .getDeployment) = [] := History.ofKind_eq_nil kinds₅ (by decide)
  obtain ⟨d, hd, stable⟩ := Waiting.forDeployment_ok settled
  obtain ⟨pods, hpods, current⟩ := Waiting.forCurrentPods_ok running
  refine ⟨hr, ?_, ?_, ⟨d, ?_, stable⟩, pods, ?_, current⟩
  · exact congrArg (fun l => (_ :: l).getLast?) noSecret
  · exact congrArg (fun l => (_ :: l).getLast?) noDeployment
  · refine (congrArg List.getLast? (History.ofKind_append h₃ h₅ _)).trans ?_
    rw [noAnswer, List.append_nil]
    exact hd
  · exact History.getLast?_ofKind_append (h := h₃) hpods

/-! ### A cluster that answers at once -/

theorem deploy_runs (config : Config) {sso : Sso} {client : OidcClient} {cookieSecret ns : String}
    {upstream : Kubernetes.Service} {bundle : Bundle} {pods : List Kubernetes.Pod} (service : Kubernetes.Service)
    (hns : sso.requireNamespace = .ok ns) (planned : plan sso client cookieSecret upstream = .ok bundle)
    (running : Waiting.podsRunning (fun _ => true) pods = true) (now later : Nat) :
    Program.Runs (deploy config sso client cookieSecret)
      [⟨.call (.getService ns sso.spec.upstreamService), .ok (some upstream)⟩,
        ⟨.call (.applySecret bundle.secret), .ok ()⟩, ⟨.call (.applyDeployment bundle.deployment), .ok ()⟩,
        ⟨.call (.applyService bundle.service), .ok ()⟩, ⟨.clock, now⟩,
        ⟨.call (.getService ns bundle.service.metadata.nameAny), .ok (some service)⟩, ⟨.clock, later⟩,
        ⟨.call (.listPods ns (Labels.podSelector sso.name)), .ok pods⟩] (.ok bundle) := by
  unfold deploy
  refine Action.runs_ofExcept_bind_ok_iff.2 ⟨ns, hns, Routine.runs_call_bind_ok_iff.2 ⟨some upstream, _, rfl, ?_⟩⟩
  refine Action.runs_require_bind_ok_iff.2 ⟨upstream, rfl, ?_⟩
  refine Action.runs_ofExcept_bind_ok_iff.2 ⟨bundle, planned, ?_⟩
  refine Action.runs_bind_ok_iff.2 ⟨(), _, [], (List.append_nil _).symm, ?_, .here _⟩
  refine Routine.runs_call_bind_ok_iff.2 ⟨(), _, rfl, Routine.runs_call_bind_ok_iff.2 ⟨(), _, rfl, ?_⟩⟩
  refine Routine.runs_call_bind_ok_iff.2 ⟨(), _, rfl, Action.runs_bind_ok_iff.2 ⟨(), [_, _], [_, _], rfl, ?_, ?_⟩⟩
  · refine Waiting.wait_ask_runs ?_ now
    rfl
  · refine Waiting.wait_ask_runs ?_ later
    exact Waiting.readyIf_eq_ready_iff.2 running

theorem update_runs (config : Config) {sso : Sso} {client : OidcClient} {cookieSecret ns : String}
    {bundle updated : Bundle} {settled : Kubernetes.Deployment} {pods : List Kubernetes.Pod}
    (hns : sso.requireNamespace = .ok ns) (revised : revise sso client cookieSecret bundle = .ok updated)
    (stable : Waiting.deploymentStable settled = true)
    (running : Waiting.podsRunning (fun pod => podFingerprint? pod == deployedFingerprint? updated.deployment)
      pods = true)
    (now later : Nat) :
    Program.Runs (update config sso client cookieSecret bundle)
      [⟨.call (.applySecret updated.secret), .ok ()⟩, ⟨.call (.applyDeployment updated.deployment), .ok ()⟩,
        ⟨.clock, now⟩, ⟨.call (.getDeployment ns updated.deployment.metadata.nameAny), .ok (some settled)⟩,
        ⟨.clock, later⟩, ⟨.call (.listPods ns (Labels.podSelector sso.name)), .ok pods⟩] (.ok updated) := by
  unfold update
  refine Action.runs_ofExcept_bind_ok_iff.2 ⟨ns, hns, Action.runs_ofExcept_bind_ok_iff.2 ⟨updated, revised, ?_⟩⟩
  refine Routine.runs_call_bind_ok_iff.2 ⟨(), _, rfl, Routine.runs_call_bind_ok_iff.2 ⟨(), _, rfl, ?_⟩⟩
  refine Action.runs_bind_ok_iff.2 ⟨(), [_, _], [_, _], rfl, ?_, ?_⟩
  · refine Waiting.wait_ask_runs ?_ now
    exact Waiting.readyIf_eq_ready_iff.2 stable
  · refine Action.runs_bind_ok_iff.2 ⟨(), [_, _], [], rfl, ?_, .here _⟩
    refine Waiting.wait_ask_runs ?_ later
    exact Waiting.readyIf_eq_ready_iff.2 running

end Proxy

namespace Provision

theorem resolveHosts_ok_iff {ns app : String} {hosts : List String} {h : History Operator} :
    Program.Runs (resolveHosts ns app) h (.ok hosts) ↔
      h = [⟨.call (.ingressHosts ns app), .ok hosts⟩] ∧ hosts ≠ [] := by
  constructor
  · intro run
    obtain ⟨found, h', rfl, checked⟩ := Routine.runs_call_bind_ok_iff.1 run
    cases found with
    | nil =>
      obtain ⟨_, _, _, _, failed, _⟩ := Action.runs_bind_ok_iff.1 checked
      cases (Action.runs_fail_iff.1 failed).2
    | cons host others =>
      obtain ⟨rfl, ⟨⟩⟩ := Action.runs_pure_iff.1 checked
      exact ⟨rfl, List.cons_ne_nil _ _⟩
  · rintro ⟨rfl, some⟩
    cases hosts with
    | nil => exact absurd rfl some
    | cons host others => exact Routine.runs_call_bind_ok_iff.2 ⟨host :: others, [], rfl, .here _⟩

theorem arrange_ok_iff {config : Config} {sso : Sso} {ns account cookieSecret : String} {client : OidcClient}
    {h : History Operator} :
    Program.Runs (arrange config sso ns account cookieSecret client) h (.ok ()) ↔
      ∃ bundle hosts updated deployed published rolledOut,
        h = deployed ++ (published ++ (⟨.call (.ingressHosts ns bundle.appName), .ok hosts⟩ ::
          ⟨.call (.updateClient client.id (Proxy.hostRedirectUrls hosts) client.trustedPeers sso.name client.logoUrl),
            .ok ()⟩ :: rolledOut)) ∧
        Program.Runs (Proxy.deploy config sso client cookieSecret) deployed (.ok bundle) ∧
        Program.Runs (publish config sso ns account bundle.service.metadata.nameAny) published (.ok ()) ∧
        hosts ≠ [] ∧
        Program.Runs (Proxy.update config sso { client with redirectUris := Proxy.hostRedirectUrls hosts } cookieSecret
          bundle) rolledOut (.ok updated) := by
  constructor
  · intro run
    obtain ⟨bundle, h₁, h₂, rfl, deploying, afterDeploy⟩ := Action.runs_bind_ok_iff.1 run
    obtain ⟨⟨⟩, h₃, h₄, rfl, publishing, afterPublish⟩ := Action.runs_bind_ok_iff.1 afterDeploy
    obtain ⟨hosts, h₅, h₆, rfl, resolving, afterHosts⟩ := Action.runs_bind_ok_iff.1 afterPublish
    obtain ⟨⟨⟩, h₇, h₈, rfl, telling, afterClient⟩ := Action.runs_bind_ok_iff.1 afterHosts
    obtain ⟨updated, h₉, h₁₀, rfl, updating, last⟩ := Action.runs_bind_ok_iff.1 afterClient
    obtain ⟨rfl, -⟩ := Action.runs_pure_iff.1 last
    obtain ⟨rfl, some⟩ := resolveHosts_ok_iff.1 (Action.runs_mapError_ok_iff.1 resolving)
    obtain rfl := Routine.runs_call_iff.1 (Action.runs_mapError_ok_iff.1 telling)
    refine ⟨bundle, hosts, updated, h₁, h₃, h₉, ?_, Action.runs_mapError_ok_iff.1 deploying, publishing, some,
      Action.runs_mapError_ok_iff.1 updating⟩
    rw [List.append_nil]
    rfl
  · rintro ⟨bundle, hosts, updated, deployed, published, rolledOut, rfl, deploying, publishing, some, updating⟩
    refine Action.runs_bind_ok_iff.2 ⟨bundle, _, _, rfl, Action.runs_mapError_ok_iff.2 deploying, ?_⟩
    refine Action.runs_bind_ok_iff.2 ⟨(), _, _, rfl, publishing, ?_⟩
    refine Action.runs_bind_ok_iff.2 ⟨hosts, [_], _, rfl, Action.runs_mapError_ok_iff.2 ?_, ?_⟩
    · exact resolveHosts_ok_iff.2 ⟨rfl, some⟩
    refine Action.runs_bind_ok_iff.2 ⟨(), [_], _, rfl, Action.runs_mapError_ok_iff.2 (Routine.runs_call_iff.2 rfl), ?_⟩
    exact Action.runs_bind_ok_iff.2
      ⟨updated, _, [], (List.append_nil _).symm, Action.runs_mapError_ok_iff.2 updating, .here _⟩

/-! ## The status -/

/-- **What has been seen by the time the status of an SSO is written**, and where in the history it is found. -/
structure Agreement (sso : Sso) (ns : String) (h : History Operator) where
  -- The client, which is the only one created.
  client : OidcClient
  created : h.ofKind (.call .createClient) = [creation sso (.ok client)]
  -- The one cookie secret that was loaded.
  cookieSecret : String
  loaded : h.filterMap Turn.cookieSecret? = [cookieSecret]
  -- The upstream service, which is the first service found, and its address.
  upstream : Kubernetes.Service
  found : (h.ofKind (.call .getService)).head? =
    some ⟨.call (.getService ns sso.spec.upstreamService), .ok (some upstream)⟩
  upstreamUrl : String
  addressed : Proxy.upstreamUrl upstream = .ok upstreamUrl
  -- The hosts, asked for once.
  hosts : List String
  resolved : h.ofKind (.call .ingressHosts) = [⟨.call (.ingressHosts ns (Proxy.appName upstream)), .ok hosts⟩]
  hosts_ne_nil : hosts ≠ []
  -- The identity provider was told once of the addresses under these hosts, and agreed.
  told : h.ofKind (.call .updateClient) =
    [⟨.call (.updateClient client.id (hosts.map fun host => Proxy.redirectUrl ("https://" ++ host))
      client.trustedPeers sso.name client.logoUrl), .ok ()⟩]
  -- The settings of the proxy are those for this client under the first of the addresses.
  settings : Proxy.Settings
  clientId : settings.clientId = client.id
  clientSecret : settings.clientSecret = client.secret
  signing : settings.cookieSecret = cookieSecret
  upstreamed : settings.upstreamUrl = upstreamUrl
  redirect : (hosts.map fun host => Proxy.redirectUrl ("https://" ++ host)).head? = some settings.redirectUrl
  made : Proxy.settings sso { client with redirectUris := hosts.map fun host => Proxy.redirectUrl ("https://" ++ host) }
    cookieSecret upstreamUrl Proxy.port = .ok settings
  -- The last secret applied holds them.
  secret : Kubernetes.Secret
  stored : (h.ofKind (.call .applySecret)).getLast? = some ⟨.call (.applySecret secret), .ok ()⟩
  data : secret.data = some ((Proxy.secretData settings.render).map Bytes.ofString)
  -- The last deployment applied carries their fingerprint.
  deployment : Kubernetes.Deployment
  applied : (h.ofKind (.call .applyDeployment)).getLast? = some ⟨.call (.applyDeployment deployment), .ok ()⟩
  fingerprint : Proxy.deployedFingerprint? deployment = some (Proxy.fingerprint (Proxy.secretData settings.render))
  -- The deployment was there when last asked for, and had settled.
  settled : Kubernetes.Deployment
  answered : (h.ofKind (.call .getDeployment)).getLast? =
    some ⟨.call (.getDeployment ns deployment.metadata.nameAny), .ok (some settled)⟩
  observed : settled.metadata.generation.getD 0 ≤ (settled.status.bind (·.observedGeneration)).getD 0
  replicas : (settled.status.bind (·.replicas)).getD 0 = (settled.spec.bind (·.replicas)).getD 1
  -- There were pods when last asked for, all of them running and on this configuration.
  pods : List Kubernetes.Pod
  listed : (h.ofKind (.call .listPods)).getLast? =
    some ⟨.call (.listPods ns (Labels.podSelector sso.name)), .ok pods⟩
  pods_ne_nil : pods ≠ []
  running : ∀ pod ∈ pods, pod.phase = "Running" ∧
    Proxy.podFingerprint? pod = some (Proxy.fingerprint (Proxy.secretData settings.render))

/-- Where a run comes to the writing of the status: there is a client, and all of the work short of that is done. -/
theorem asks_patchSsoStatus_iff {config : Config} {sso : Sso} {h : History Operator} {ns name : String}
    {status : SsoStatus} :
    Program.Asks (run config sso) h (.call (.patchSsoStatus ns name status)) ↔
      ∃ (g : Groundwork) (client : OidcClient) (early arranged : History Operator),
        h = early ++ creation sso (.ok client) :: arranged ∧ Program.Runs (prepare config sso) early (.ok g) ∧
          Program.Runs (arrange config sso g.ns g.account g.cookieSecret client) arranged (.ok ()) ∧
          ns = g.ns ∧ name = sso.name ∧ status = finalStatus client := by
  rw [run_eq]
  constructor
  · intro asked
    rcases Action.asks_bind_iff.1 asked with preparing | ⟨g, early, h₁, rfl, prepared, creating⟩
    · exact absurd preparing ((prepare_confined config sso).not_asks (.call .patchSsoStatus) rfl (by decide))
    rcases Action.asks_bind_iff.1 creating with registering | ⟨client, h₂, h₃, rfl, created, completing⟩
    · cases (Routine.asks_call_iff.1 (Action.asks_mapError_iff.1 registering)).2
    obtain ⟨reply, ho, rfl⟩ := create_runs_iff.1 created
    cases reply with
    | error e => cases ho
    | panic => cases ho
    | ok _ =>
      cases ho
      rcases Action.asks_bind_iff.1 completing with configuring | ⟨result, h₄, h₅, rfl, -, ending⟩
      · have working := Action.asks_attempt_iff.1 configuring
        rw [configure_eq] at working
        rcases Action.asks_bind_iff.1 working with arranging | ⟨⟨⟩, arranged, h₆, rfl, done, concluding⟩
        · exact absurd arranging ((arrange_confined _ _ _ _ _ _).not_asks (.call .patchSsoStatus) rfl (by decide))
        · obtain ⟨rfl, same⟩ := Routine.asks_call_iff.1 (Action.asks_mapError_iff.1 concluding)
          cases same
          exact ⟨g, client, early, arranged, by rw [List.append_nil]; rfl, prepared, done, rfl, rfl, rfl⟩
      · cases result with
        | ok _ => exact absurd ending Program.not_asks_done
        | error e =>
          have confined := (compensate_confined client.id).bind fun _ => .fail (α := Unit) e
          exact absurd ending (confined.not_asks (.call .patchSsoStatus) rfl (by decide))
  · rintro ⟨g, client, early, arranged, rfl, prepared, done, rfl, rfl, rfl⟩
    refine Action.asks_bind_iff.2 (.inr ⟨g, early, _, rfl, prepared, ?_⟩)
    refine Action.asks_bind_iff.2 (.inr ⟨client, [_], arranged, rfl, create_runs_iff.2 ⟨.ok client, rfl, rfl⟩, ?_⟩)
    refine Action.asks_bind_iff.2 (.inl (Action.asks_attempt_iff.2 ?_))
    rw [configure_eq]
    refine Action.asks_bind_iff.2 (.inr ⟨(), arranged, [], (List.append_nil _).symm, done, ?_⟩)
    exact Action.asks_mapError_iff.2 (Routine.asks_call_iff.2 ⟨rfl, rfl⟩)

theorem prepare_ok {config : Config} {sso : Sso} {g : Groundwork} {h : History Operator}
    (run : Program.Runs (prepare config sso) h (.ok g)) :
    sso.requireNamespace = .ok g.ns ∧ h.filterMap Turn.cookieSecret? = [g.cookieSecret] := by
  obtain ⟨ns, hns, binding⟩ := Action.runs_ofExcept_bind_ok_iff.1 run
  obtain ⟨account, h₁, h₂, rfl, bound, loading⟩ := Action.runs_bind_ok_iff.1 binding
  obtain ⟨cookieSecret, h₃, h₄, rfl, loaded, last⟩ := Action.runs_bind_ok_iff.1 loading
  obtain rfl := Routine.runs_call_iff.1 (Action.runs_mapError_ok_iff.1 bound)
  obtain ⟨rfl, ⟨⟩⟩ := Action.runs_pure_iff.1 last
  have shown : h₃.filterMap Turn.cookieSecret? = [cookieSecret] :=
    CookieSecret.get_ok (Action.runs_mapError_ok_iff.1 loaded)
  rw [List.append_nil]
  exact ⟨hns, shown⟩

/-- **An SSO is marked initialized only in agreement.**  Whenever a run comes to the writing of the status, the status
is that of the SSO, with the client that was created, and everything that the agreement asks for has been seen. -/
theorem status_written_in_agreement {config : Config} {sso : Sso} {h : History Operator} {ns name : String}
    {status : SsoStatus} (asked : Program.Asks (run config sso) h (.call (.patchSsoStatus ns name status))) :
    sso.requireNamespace = .ok ns ∧ name = sso.name ∧
      ∃ a : Agreement sso ns h, status = { clientId := some a.client.id, initialized := true } := by
  obtain ⟨g, client, early, arranged, rfl, prepared, done, rfl, rfl, rfl⟩ := asks_patchSsoStatus_iff.1 asked
  obtain ⟨hns, cookie⟩ := prepare_ok prepared
  obtain ⟨bundle, hosts, updated, deployed, published, rolledOut, harranged, deploying, publishing, hosts_ne_nil,
    updating⟩ := arrange_ok_iff.1 done
  obtain ⟨upstream, app, addressed, found⟩ := Proxy.deploy_ok hns deploying
  obtain ⟨revised, secretLast, deploymentLast, ⟨d, answered, stable⟩, pods, listed, running⟩ :=
    Proxy.update_ok hns updating
  obtain ⟨settings, made, data, fingerprint⟩ := Proxy.revise_ok revised
  obtain ⟨clientId, clientSecret, signing, upstreamed, redirect⟩ := Proxy.settings_ok made
  obtain ⟨pods_ne_nil, current⟩ := Waiting.podsRunning_iff.1 running
  obtain ⟨observed, replicas⟩ := Waiting.deploymentStable_iff.1 stable
  have early_turns := (prepare_confined config sso).turns prepared
  have arranged_turns := (arrange_confined _ _ _ _ _ _).turns done
  have deployed_turns := (Proxy.deploy_confined _ _ _ _).turns deploying
  have published_turns := (publish_confined _ _ _ _ _).turns publishing
  have rolledOut_turns := (Proxy.update_confined _ _ _ _ _).turns updating
  -- What the preparation does not ask for is found where the work on the client asks for it.
  have skip : ∀ {kind}, kind ∉ prepareFootprint → kind ≠ .call .createClient →
      History.ofKind (early ++ creation sso (.ok client) :: arranged) kind = History.ofKind arranged kind := by
    intro kind hk other
    rw [History.ofKind_append, History.ofKind_eq_nil early_turns hk]
    exact History.ofKind_cons_of_ne fun same => other same.symm
  have late : ∀ {kind t}, (History.ofKind rolledOut kind).getLast? = some t →
      (History.ofKind (early ++ creation sso (.ok client) :: arranged) kind).getLast? = some t := by
    intro kind t ht
    rw [harranged]
    exact History.getLast?_ofKind_append (h := early) <| History.getLast?_ofKind_append (h := [_]) <|
      History.getLast?_ofKind_append (h := deployed) <| History.getLast?_ofKind_append (h := published) <|
      History.getLast?_ofKind_append (h := [_, _]) ht
  refine ⟨hns, rfl, {
    client, cookieSecret := g.cookieSecret, upstream, upstreamUrl := bundle.upstreamUrl, hosts, settings
    secret := updated.secret, deployment := updated.deployment, settled := d, pods
    created := ?_, loaded := ?_, found := ?_, addressed, resolved := ?_, hosts_ne_nil, told := ?_, clientId
    clientSecret, signing, upstreamed, redirect, made, stored := late secretLast, data
    applied := late deploymentLast, fingerprint, answered := late answered, observed, replicas
    listed := late listed, pods_ne_nil, running := ?_ }, rfl⟩
  · exact History.ofKind_eq_singleton rfl (History.ofKind_eq_nil early_turns (by decide))
      (History.ofKind_eq_nil arranged_turns (by decide))
  · rw [List.filterMap_append, cookie]
    have silent : arranged.filterMap Turn.cookieSecret? = [] :=
      History.filterMap_cookieSecret?_eq_nil arranged_turns (by decide) (by decide)
    exact congrArg ([g.cookieSecret] ++ ·) silent
  · rw [skip (by decide) (by decide), harranged]
    exact History.head?_ofKind_append found
  · rw [skip (by decide) (by decide), harranged, History.ofKind_append,
      History.ofKind_eq_nil deployed_turns (by decide), List.nil_append, ← app]
    refine History.ofKind_eq_singleton rfl (History.ofKind_eq_nil published_turns (by decide)) ?_
    refine Eq.trans (History.ofKind_cons_of_ne ?_) (History.ofKind_eq_nil rolledOut_turns (by decide))
    exact nofun
  · rw [skip (by decide) (by decide), harranged, History.ofKind_append,
      History.ofKind_eq_nil deployed_turns (by decide), List.nil_append, List.append_cons]
    refine History.ofKind_eq_singleton rfl ?_ (History.ofKind_eq_nil rolledOut_turns (by decide))
    rw [History.ofKind_append, History.ofKind_eq_nil published_turns (by decide)]
    rfl
  · intro pod hpod
    obtain ⟨accepted, phase⟩ := current pod hpod
    exact ⟨phase, (beq_iff_eq.1 accepted).trans fingerprint⟩

/-! ### A run that comes to the status -/

def sampleClient : OidcClient := { id := "client", redirectUris := [Proxy.placeholderRedirectUrl] }

def sampleService : Kubernetes.Service where
  metadata := { name := some "web" }
  spec := some { ports := some [{ port := 80 }] }

def samplePod (fingerprint : Option String) : Kubernetes.Pod where
  spec := some { containers := [{ name := "app", env := some [{ name := "SECRET_VERSION", value := fingerprint }] }] }
  phase? := some "Running"

def sampleDeployment : Kubernetes.Deployment := { status := some { replicas := some 1 } }

/-- An SSO in the namespace of the sample for which a proxy can be planned is provisioned up to the status, if all calls
work. -/
theorem exists_arrange_runs (sso : Sso) (hns : sso.requireNamespace = .ok "jx")
    (hidden : sso.spec.skipExposeService = true)
    (planned : ∃ bundle, Proxy.plan sso sampleClient "secret" sampleService = .ok bundle)
    (revised : ∀ bundle, ∃ updated, Proxy.revise sso
      { sampleClient with redirectUris := Proxy.hostRedirectUrls ["app.jx"] } "secret" bundle = .ok updated) :
    ∃ h, Program.Runs (arrange sampleConfig sso "jx" "account" "secret" sampleClient) h (.ok ()) ∧
      h.any Turn.breaksDown = false := by
  obtain ⟨bundle, planned⟩ := planned
  obtain ⟨updated, revised⟩ := revised bundle
  have plain : Waiting.podsRunning (fun _ => true) [samplePod none] = true := rfl
  have current : Waiting.podsRunning
      (fun pod => Proxy.podFingerprint? pod == Proxy.deployedFingerprint? updated.deployment)
      [samplePod (Proxy.deployedFingerprint? updated.deployment)] = true :=
    Waiting.podsRunning_iff.2 ⟨List.cons_ne_nil _ _, List.forall_mem_singleton.2 ⟨beq_self_eq_true _, rfl⟩⟩
  have deployed := Proxy.deploy_runs sampleConfig sampleService hns planned plain 0 0
  have settled : Waiting.deploymentStable sampleDeployment = true := rfl
  have rolledOut := Proxy.update_runs sampleConfig hns revised settled current 0 0
  have published :
      Program.Runs (publish sampleConfig sso "jx" "account" bundle.service.metadata.nameAny) [] (.ok ()) := by
    unfold publish
    rw [if_pos hidden]
    exact .here _
  exact ⟨_, arrange_ok_iff.2
    ⟨bundle, ["app.jx"], updated, _, [], _, rfl, deployed, published, List.cons_ne_nil _ _, rolledOut⟩, rfl⟩

theorem sample_agreement :
    ∃ h, Program.Asks (run sampleConfig sample) h (.call (.patchSsoStatus "jx" "app" (finalStatus sampleClient))) ∧
      ∃ a : Agreement sample "jx" h, a.client.id = "client" := by
  have prepared : Program.Runs (prepare sampleConfig sample)
      [⟨.call (.ensureClusterRoleBinding "role" "jx"), .ok "account"⟩, ⟨.enterCell, some "secret"⟩]
      (.ok ⟨"jx", "account", "secret"⟩) := .turn (.turn (.here _))
  obtain ⟨arranged, done, -⟩ := exists_arrange_runs sample rfl rfl ⟨_, rfl⟩ fun _ => ⟨_, rfl⟩
  have asked := asks_patchSsoStatus_iff.2
    ⟨⟨"jx", "account", "secret"⟩, sampleClient, _, arranged, rfl, prepared, done, rfl, rfl, rfl⟩
  obtain ⟨-, -, a, status⟩ := status_written_in_agreement asked
  refine ⟨_, asked, a, ?_⟩
  injection status with same
  exact (Option.some.inj same).symm

end Provision
end SignOnOperator
