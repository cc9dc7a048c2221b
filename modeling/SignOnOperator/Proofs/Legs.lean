import SignOnOperator.Proofs.Agreement
import SignOnOperator.Proofs.CookieLoading
import SignOnOperator.Proofs.Itinerary
/-!
# The legs of the work

The itineraries of the parts that provisioning and cleaning up are made of: loading the cookie secret, setting up and
updating a proxy, running an exposure, and resolving hosts.
-/
namespace SignOnOperator

open Kubernetes

/-! ## The cookie secret -/

namespace CookieSecret

def reading (ns : String) : Leg := .check (.getSecret ns objectName) (held ns)

def creating (ns : String) : Leg := .any fun value => .call (.createSecret (buildSecret ns value))

/-- The object is not there yet. -/
def absent (ns : String) : Language Answered :=
  brought (.getSecret ns objectName) fun (found : Option Secret) => found = none

/-- Somebody else has created the object. -/
def outrun (ns : String) : Language Answered := ⨆ e : Error, only (e.isConflict = true) * (creating ns).part e

theorem callsOf_of_absent {ns : String} {w : List Answered} (hw : w ∈ absent ns) : callsOf w ∈ (reading ns).calls := by
  obtain ⟨found, -, rfl⟩ := hw
  rfl

theorem creating_part_calls {ns : String} {e : Error} {w : List Answered} (hw : w ∈ (creating ns).part e) :
    callsOf w ∈ (creating ns).calls := by
  obtain ⟨value, rfl⟩ := Language.mem_iSup.1 hw
  exact Language.mem_iSup.2 ⟨value, rfl⟩

theorem callsOf_of_outrun {ns : String} {w : List Answered} (hw : w ∈ outrun ns) : callsOf w ∈ (creating ns).calls := by
  obtain ⟨e, _, ⟨-, rfl⟩, w', hw', rfl⟩ := Language.mem_iSup.1 hw
  exact creating_part_calls hw'

/-- The secret is in the cell, or it is read, or it is created, or it is read after somebody else has created it. -/
def loading (ns : String) : Leg where
  calls := 1 + (reading ns).calls + (reading ns).calls * (creating ns).calls +
    (reading ns).calls * ((creating ns).calls * (reading ns).calls)
  whole := 1 + (reading ns).whole + absent ns * (creating ns).whole + absent ns * (outrun ns * (reading ns).whole)
  part e := refused (.getSecret ns objectName) e +
    brought (.getSecret ns objectName) (fun (found : Option Secret) => found ≠ none ∧ held ns found = .error e) +
    absent ns * (only (e.isConflict = false) * (creating ns).part e) + absent ns * (outrun ns * (reading ns).part e)
  exists_calls := ⟨[], .inl (.inl (.inl rfl))⟩
  whole_calls := by
    rintro w (((rfl | hw) | ⟨w₁, h₁, w₂, h₂, rfl⟩) | ⟨w₁, h₁, _, ⟨w₂, h₂, w₃, h₃, rfl⟩, rfl⟩)
    · exact .inl (.inl (.inl rfl))
    · exact .inl (.inl (.inr ((reading ns).whole_calls w hw)))
    · have made := (creating ns).whole_calls w₂ h₂
      exact .inl (.inr ((callsOf_append w₁ w₂).symm ▸ Language.append_mem_mul (callsOf_of_absent h₁) made))
    · have read := (reading ns).whole_calls w₃ h₃
      have late := Language.append_mem_mul (callsOf_of_outrun h₂) read
      rw [← callsOf_append] at late
      exact .inr ((callsOf_append w₁ _).symm ▸ Language.append_mem_mul (callsOf_of_absent h₁) late)
  part_calls := by
    rintro e w (((rfl | ⟨found, -, rfl⟩) | ⟨w₁, h₁, _, ⟨_, ⟨-, rfl⟩, w₂, h₂, rfl⟩, rfl⟩) |
      ⟨w₁, h₁, _, ⟨w₂, h₂, w₃, h₃, rfl⟩, rfl⟩)
    · exact .of_mem (.inl (.inl (.inr rfl)))
    · exact .of_mem (.inl (.inl (.inr rfl)))
    · have made := Language.append_mem_mul (callsOf_of_absent h₁) (creating_part_calls h₂)
      rw [← callsOf_append] at made
      exact .of_mem (.inl (.inr made))
    · have read := ((reading ns).part_calls e w₃ h₃).mul_left (callsOf_of_outrun h₂)
      have late := read.mul_left (callsOf_of_absent h₁)
      rw [← callsOf_append, ← callsOf_append] at late
      exact late.mono le_sup_right

theorem createOrRead_runs {ns value : String} {h : History Operator} {o : Outcome String}
    (run : Program.Runs (createOrRead ns value) h o) :
    (∀ v, o = .ok v → h.answered ∈ (creating ns).whole + outrun ns * (reading ns).whole) ∧
      ∀ e, o = .error e →
        h.answered ∈ only (e.isConflict = false) * (creating ns).part e + outrun ns * (reading ns).part e := by
  have follows : Follows [reading ns] (reread ns) := .check _ _
  rcases Action.runs_attempt_bind_iff.1 run with
    ⟨_, h₁, h₂, rfl, called, rest⟩ | ⟨e, h₁, h₂, rfl, called, rest⟩ | ⟨rfl, -⟩
  · obtain rfl := Routine.runs_call_iff.1 called
    obtain ⟨rfl, rfl⟩ := Action.runs_pure_iff.1 rest
    exact ⟨fun _ _ => .inl (Language.mem_iSup.2 ⟨value, granted_mem (.createSecret _) _⟩), nofun⟩
  · obtain rfl := Routine.runs_call_iff.1 called
    have failed : [⟨.createSecret (buildSecret ns value), .error e⟩] ∈ (creating ns).part e :=
      Language.mem_iSup.2 ⟨value, refused_mem _ e⟩
    have adopting : Program.Runs (adopt ns e) h₂ o := rest
    unfold adopt at adopting
    by_cases conflict : e.isConflict = true
    · rw [if_pos conflict] at adopting
      have lost : [⟨.createSecret (buildSecret ns value), .error e⟩] ∈ outrun ns :=
        Language.mem_iSup.2 ⟨e, mem_only_mul conflict failed⟩
      rw [History.answered_append]
      refine ⟨fun v hv => .inr ?_, fun e' he => .inr ?_⟩
      · subst hv
        have read := follows.completes h₂ v adopting
        rw [completed_singleton] at read
        exact Language.append_mem_mul lost read
      · subst he
        have read := follows.stops h₂ e' adopting
        rw [stopped_singleton] at read
        exact Language.append_mem_mul lost read
    · rw [if_neg conflict] at adopting
      obtain ⟨rfl, rfl⟩ := Action.runs_fail_iff.1 adopting
      refine ⟨nofun, fun e' he => .inl ?_⟩
      cases he
      exact mem_only_mul (by simpa using conflict) failed
  · exact ⟨nofun, nofun⟩

theorem loadOrCreate_runs {ns : String} {h : History Operator} {o : Outcome String}
    (run : Program.Runs (loadOrCreate ns) h o) :
    (∀ v, o = .ok v → h.answered ∈ (loading ns).whole) ∧ ∀ e, o = .error e → h.answered ∈ (loading ns).part e := by
  rw [loadOrCreate_eq] at run
  rcases Action.runs_bind_iff.1 run with ⟨found, h₁, h₂, rfl, called, rest⟩ | ⟨e, rfl, called⟩ | ⟨rfl, -⟩
  · obtain rfl := Routine.runs_call_iff.1 called
    change Option Secret at found
    cases found with
    | some secret =>
      obtain ⟨rfl, rfl⟩ := Program.runs_done_iff.1 rest
      cases hr : required secret ns with
      | ok v => exact ⟨fun _ _ => .inl (.inl (.inr ⟨some secret, ⟨v, hr⟩, rfl⟩)), nofun⟩
      | error e =>
        refine ⟨nofun, fun e' he => .inl (.inl (.inr ⟨some secret, ⟨nofun, ?_⟩, rfl⟩))⟩
        cases he
        exact hr
    | none =>
      obtain ⟨choices, h₃, rfl, created⟩ := Action.runs_request_bind_iff.1 rest
      have missing : [⟨.getSecret ns objectName, .ok (none : Option Secret)⟩] ∈ absent ns := ⟨none, rfl, rfl⟩
      obtain ⟨good, bad⟩ := createOrRead_runs created
      refine ⟨fun v hv => ?_, fun e he => ?_⟩
      · rcases good v hv with made | adopted
        · exact .inl (.inr (Language.append_mem_mul missing made))
        · exact .inr (Language.append_mem_mul missing adopted)
      · rcases bad e he with made | adopted
        · exact .inl (.inr (Language.append_mem_mul missing made))
        · exact .inr (Language.append_mem_mul missing adopted)
  · obtain rfl := Routine.runs_call_iff.1 called
    refine ⟨nofun, fun e' he => ?_⟩
    cases he
    exact .inl (.inl (.inl rfl))
  · exact ⟨nofun, nofun⟩

theorem settle_runs {loaded : Outcome String} {h : History Operator} {o : Outcome String}
    (run : Program.Runs (settle loaded) h o) : h.answered = [] ∧ o = loaded := by
  cases loaded with
  | ok v =>
    obtain ⟨_, rfl, rfl⟩ := Program.runs_ask_done_iff.1 run
    exact ⟨rfl, rfl⟩
  | error e =>
    obtain ⟨_, rfl, rfl⟩ := Program.runs_ask_done_iff.1 run
    exact ⟨rfl, rfl⟩
  | panic =>
    obtain ⟨_, rfl, rfl⟩ := Program.runs_ask_done_iff.1 run
    exact ⟨rfl, rfl⟩

theorem fill_runs {ns : String} {h : History Operator} {o : Outcome String} (run : Program.Runs (fill ns) h o) :
    ∃ h', h.answered = History.answered h' ∧ Program.Runs (loadOrCreate ns) h' o := by
  rw [fill_eq] at run
  obtain ⟨o', h₁, h₂, rfl, loaded, rest⟩ := Program.runs_bind_iff.1 run
  obtain ⟨silent, rfl⟩ := settle_runs rest
  refine ⟨h₁, ?_, loaded⟩
  rw [History.answered_append, silent, List.append_nil]

theorem get_follows (ns : String) : Follows [loading ns] (get ns) where
  completes h v run := by
    rw [completed_singleton]
    obtain ⟨cached, h', rfl, rest⟩ := Action.runs_request_bind_iff.1 run
    cases cached with
    | some value =>
      obtain ⟨rfl, -⟩ := Action.runs_pure_iff.1 rest
      exact .inl (.inl (.inl rfl))
    | none =>
      obtain ⟨h'', hh, loaded⟩ := fill_runs rest
      have same : History.answered (⟨.enterCell, none⟩ :: h') = h''.answered := hh
      rw [same]
      exact (loadOrCreate_runs loaded).1 v rfl
  stops h e run := by
    rw [stopped_singleton]
    obtain ⟨cached, h', rfl, rest⟩ := Action.runs_request_bind_iff.1 run
    cases cached with
    | some value => cases (Action.runs_pure_iff.1 rest).2
    | none =>
      obtain ⟨h'', hh, loaded⟩ := fill_runs rest
      have same : History.answered (⟨.enterCell, none⟩ :: h') = h''.answered := hh
      rw [same]
      exact (loadOrCreate_runs loaded).2 e rfl

end CookieSecret

/-! ## The proxy -/

instance : Nonempty Secret := ⟨{}⟩

instance : Nonempty Deployment := ⟨{}⟩

instance : Nonempty Service := ⟨{}⟩

namespace Proxy

/-- What a look at the upstream service comes to. -/
def lookUp (sso : Sso) (ns : String) (client : OidcClient) (cookieSecret : String) :
    Option Service → Except Error Bundle
  | some upstream => plan sso client cookieSecret upstream
  | none => .error (.serviceNotFound ns sso.spec.upstreamService)

/-- The upstream service, and the objects of a proxy in front of it. -/
def locate (sso : Sso) (ns : String) (client : OidcClient) (cookieSecret : String) : Routine Bundle := do
  let found ← Routine.call (.getService ns sso.spec.upstreamService)
  Action.ofExcept (lookUp sso ns client cookieSecret found)

/-- The wait for the pods of a proxy. -/
def podsLeg (config : Config) (sso : Sso) (ns : String) : Leg :=
  .poll (.listPods ns (Labels.podSelector sso.name)) (fun _ _ => False)
    (.timeout s!"pods {Labels.podSelector sso.name} in {ns} to be running" config.timeouts.pods.limit)

/-- The wait for the service of a proxy. -/
def serviceLeg (config : Config) (sso : Sso) (ns : String) : Leg :=
  .poll (.getService ns sso.name) (fun _ _ => False)
    (.timeout s!"service {ns}/{sso.name} to exist" config.timeouts.service.limit)

/-- The look at the upstream service, for some client and cookie secret. -/
def upstreamLeg (sso : Sso) (ns : String) : Leg :=
  .any fun known : OidcClient × String =>
    .check (.getService ns sso.spec.upstreamService) (lookUp sso ns known.1 known.2)

/-- The upstream service is looked up, the objects are applied, and the service and the pods are waited for. -/
def deployLegs (config : Config) (sso : Sso) (ns : String) : List Leg :=
  [upstreamLeg sso ns,
    .any fun secret => .call (.applySecret secret),
    .any fun deployment => .call (.applyDeployment deployment),
    .any fun service => .call (.applyService service),
    serviceLeg config sso ns,
    podsLeg config sso ns]

/-- The wait for the deployment of a proxy, which must not be gone. -/
def deploymentLeg (config : Config) (sso : Sso) (ns : String) : Leg :=
  let name := deploymentName sso ns
  .poll (.getDeployment ns name)
    (fun (found : Option Deployment) e =>
      found = none ∧ e = .waitFailed s!"deployment {ns}/{name}" "deployment was deleted")
    (.timeout s!"deployment {ns}/{name} to stabilize" config.timeouts.deployment.limit)

/-- The objects that carry the configuration are applied, and the deployment and the pods are waited for. -/
def updateLegs (config : Config) (sso : Sso) (ns : String) : List Leg :=
  [.any fun secret => .call (.applySecret secret),
    .any fun deployment => .call (.applyDeployment deployment),
    deploymentLeg config sso ns,
    podsLeg config sso ns]

variable {config : Config} {sso : Sso} {client : OidcClient} {cookieSecret ns : String}

/-- The objects of a proxy are found again by names that depend on the SSO alone. -/
theorem buildBundle_names {app url : String} {data : KeyMap String} {bundle : Bundle}
    (hns : sso.requireNamespace = .ok ns) (built : buildBundle sso app url data = .ok bundle) :
    bundle.service.metadata.nameAny = sso.name ∧ bundle.deployment.metadata.nameAny = deploymentName sso ns := by
  obtain ⟨ns', home, rfl⟩ := exists_of_buildBundle built
  obtain rfl := Except.ok.inj (home.symm.trans hns)
  exact ⟨rfl, rfl⟩

theorem plan_names {upstream : Service} {bundle : Bundle} (hns : sso.requireNamespace = .ok ns)
    (planned : plan sso client cookieSecret upstream = .ok bundle) : bundle.service.metadata.nameAny = sso.name := by
  obtain ⟨rendered, -, built⟩ := plan_built planned
  exact (buildBundle_names hns built).1

theorem revise_names {bundle updated : Bundle} (hns : sso.requireNamespace = .ok ns)
    (revised : revise sso client cookieSecret bundle = .ok updated) :
    updated.deployment.metadata.nameAny = deploymentName sso ns := by
  obtain ⟨rendered, -, built⟩ := Except.bind_eq_ok revised
  exact (buildBundle_names hns built).2

theorem deploy_eq (hns : sso.requireNamespace = .ok ns) :
    deploy config sso client cookieSecret =
      locate sso ns client cookieSecret >>= fun bundle =>
        applyAndWait config sso ns bundle >>= fun _ => pure bundle := by
  unfold deploy locate
  rw [hns]
  refine Eq.trans ?_ (Action.bind_assoc _ _ _).symm
  refine congrArg (Action.bind _) (funext fun (found : Option Service) => ?_)
  cases found with
  | none => rfl
  | some upstream => rfl

theorem not_fatal_of_readyIf {condition : Bool} {e : Error} : Verdict.readyIf condition ≠ .fatal e := by
  cases condition with
  | true => exact nofun
  | false => exact nofun

theorem forPods_follows (accepts : Pod → Bool) :
    Follows [podsLeg config sso ns]
      (Waiting.forCurrentPods ns (Labels.podSelector sso.name) accepts config.timeouts.pods) := by
  exact Waiting.wait_follows fun pods e he => not_fatal_of_readyIf he

theorem forService_follows :
    Follows [serviceLeg config sso ns] (Waiting.forService ns sso.name true config.timeouts.service) := by
  have text : s!"service {ns}/{sso.name} to exist" = s!"service {ns}/{sso.name} to " ++ "exist" := by
    simp only [String.append_assoc]
    rfl
  unfold serviceLeg
  rw [text]
  exact Waiting.wait_follows fun found e he => not_fatal_of_readyIf he

theorem applyAndWait_follows {bundle : Bundle} (hb : bundle.service.metadata.nameAny = sso.name) :
    Follows (deployLegs config sso ns).tail (applyAndWait config sso ns bundle) := by
  unfold applyAndWait
  rw [hb]
  refine (Follows.any bundle.secret (.call _)).bind fun _ _ _ => ?_
  refine (Follows.any bundle.deployment (.call _)).bind fun _ _ _ => ?_
  refine (Follows.any bundle.service (.call _)).bind fun _ _ _ => ?_
  exact forService_follows.bind fun _ _ _ => forPods_follows _

theorem locate_follows : Follows [upstreamLeg sso ns] (locate sso ns client cookieSecret) :=
  .any (client, cookieSecret) (.check _ _)

theorem locate_planned {bundle : Bundle} {h : History Operator}
    (run : Program.Runs (locate sso ns client cookieSecret) h (.ok bundle)) :
    ∃ upstream, plan sso client cookieSecret upstream = .ok bundle := by
  obtain ⟨found, h', rfl, planned⟩ := Routine.runs_call_bind_ok_iff.1 run
  have made := (Program.runs_done_iff.1 planned).2
  change Option Service at found
  cases found with
  | none => cases made
  | some upstream =>
    refine ⟨upstream, ?_⟩
    cases hp : plan sso client cookieSecret upstream with
    | error e => rw [lookUp, hp] at made; cases made
    | ok bundle' => rw [lookUp, hp] at made; cases made; rfl

theorem deploy_planned {bundle : Bundle} {h : History Operator} (hns : sso.requireNamespace = .ok ns)
    (run : Program.Runs (deploy config sso client cookieSecret) h (.ok bundle)) :
    ∃ upstream, plan sso client cookieSecret upstream = .ok bundle := by
  rw [deploy_eq hns] at run
  obtain ⟨bundle', h₁, h₂, rfl, found, applied⟩ := Action.runs_bind_ok_iff.1 run
  obtain ⟨_, h₃, h₄, rfl, -, last⟩ := Action.runs_bind_ok_iff.1 applied
  obtain ⟨rfl, ho⟩ := Action.runs_pure_iff.1 last
  cases ho
  exact locate_planned found

theorem deploy_follows (hns : sso.requireNamespace = .ok ns) :
    Follows (deployLegs config sso ns) (deploy config sso client cookieSecret) := by
  rw [deploy_eq hns]
  refine locate_follows.bind fun bundle h run => ?_
  obtain ⟨upstream, planned⟩ := locate_planned run
  exact (applyAndWait_follows (plan_names hns planned)).bind_pure fun _ => bundle

theorem forDeployment_follows :
    Follows [deploymentLeg config sso ns]
      (Waiting.forDeployment ns (deploymentName sso ns) config.timeouts.deployment) := by
  refine Waiting.wait_follows fun (found : Option Deployment) e he => ?_
  cases found with
  | none => exact ⟨rfl, (Verdict.fatal.inj he).symm⟩
  | some d => exact absurd he not_fatal_of_readyIf

/-- A bundle that can be given another configuration is waited for under the names of the SSO. -/
theorem update_follows {bundle updated : Bundle} (hns : sso.requireNamespace = .ok ns)
    (revised : revise sso client cookieSecret bundle = .ok updated) :
    Follows (updateLegs config sso ns) (update config sso client cookieSecret bundle) := by
  have name := revise_names hns revised
  refine .ofExcept_bind hns (.ofExcept_bind revised ?_)
  rw [name]
  refine (Follows.any updated.secret (.call _)).bind fun _ _ _ => ?_
  refine (Follows.any updated.deployment (.call _)).bind fun _ _ _ => ?_
  exact forDeployment_follows.bind fun _ _ _ => (forPods_follows _).bind_pure fun _ => updated

end Proxy

/-! ## Exposures and hosts -/

namespace Exposure

/-- The creation of a job, which is deleted if it was there already. -/
def creation (ns : String) (job : Job) : Leg where
  calls := {[.createJob job]}
  whole := granted (.createJob job)
  part e := only (e.isConflict = false) * refused (.createJob job) e +
    only (e.isConflict = true) * (refused (.createJob job) e * granted (.deleteJob ns job.metadata.nameAny)) +
    ⨆ conflict : Error, only (conflict.isConflict = true) *
      (refused (.createJob job) conflict * refused (.deleteJob ns job.metadata.nameAny) e)
  exists_calls := ⟨_, rfl⟩
  whole_calls := by
    rintro w ⟨found, rfl⟩
    rfl
  part_calls := by
    have aside : ComesAlong {[.createJob job]} [.createJob job, .deleteJob ns job.metadata.nameAny] :=
      ⟨_, rfl, [_], [_], rfl, List.prefix_rfl, .inr ⟨_, _, rfl, .deleteJob job ns _, rfl⟩⟩
    rintro e w ((⟨_, ⟨-, rfl⟩, _, rfl, rfl⟩ | ⟨_, ⟨-, rfl⟩, _, ⟨_, rfl, _, ⟨found, rfl⟩, rfl⟩, rfl⟩) | turned)
    · exact .of_mem rfl
    · exact aside
    · obtain ⟨conflict, _, ⟨-, rfl⟩, _, ⟨_, rfl, _, rfl, rfl⟩, rfl⟩ := Language.mem_iSup.1 turned
      exact aside

/-- The wait for a job, which may have failed. -/
def jobLeg (ns name : String) (polling : Polling) : Leg :=
  .poll (.getJob ns name)
    (fun (found : Option Job) e => ∃ job, found = some job ∧ Waiting.jobVerdict job = .fatal e)
    (.timeout s!"job {ns}/{name} to complete" polling.limit)

/-- The configuration is applied, the job is created for some service account and waited for, and both are deleted. -/
def legs (config : Config) (sso : Sso) (ns : String) (mode : Mode) : List Leg :=
  let name := jobName sso ns mode
  [.call (.applyConfigMap (buildConfigMap sso ns sso.name)),
    .any fun account => creation ns (buildJob sso ns sso.name account mode),
    jobLeg ns name (mode.polling config.timeouts),
    .call (.deleteJob ns name),
    .call (.deleteConfigMap ns (configMapName sso))]

theorem createJob_runs {ns : String} {job : Job} {h : History Operator} {o : Outcome Unit}
    (run : Program.Runs (createJob ns job) h o) :
    (o = .ok () → h.answered ∈ (creation ns job).whole) ∧
      ∀ e, o = .error e → h.answered ∈ (creation ns job).part e := by
  rcases Action.runs_attempt_bind_iff.1 run with
    ⟨_, h₁, h₂, rfl, called, rest⟩ | ⟨conflict, h₁, h₂, rfl, called, rest⟩ | ⟨rfl, -⟩
  · obtain rfl := Routine.runs_call_iff.1 called
    obtain ⟨rfl, rfl⟩ := Action.runs_pure_iff.1 rest
    exact ⟨fun _ => ⟨_, rfl⟩, nofun⟩
  · obtain rfl := Routine.runs_call_iff.1 called
    dsimp only at rest
    by_cases hc : conflict.isConflict = true
    · rw [if_pos hc] at rest
      rcases Action.runs_bind_iff.1 rest with ⟨_, h₃, h₄, rfl, deleted, failed⟩ | ⟨e, rfl, deleted⟩ | ⟨rfl, -⟩
      · obtain rfl := Routine.runs_call_iff.1 deleted
        obtain ⟨rfl, rfl⟩ := Action.runs_fail_iff.1 failed
        refine ⟨nofun, fun e he => .inl (.inr ?_)⟩
        cases he
        exact mem_only_mul hc (Language.append_mem_mul (refused_mem _ _) (granted_mem (.deleteJob _ _) _))
      · obtain rfl := Routine.runs_call_iff.1 deleted
        refine ⟨nofun, fun e' he => .inr (Language.mem_iSup.2 ⟨conflict, ?_⟩)⟩
        cases he
        exact mem_only_mul hc (Language.append_mem_mul (refused_mem _ _) (refused_mem _ _))
      · exact ⟨nofun, nofun⟩
    · rw [if_neg hc] at rest
      obtain ⟨rfl, rfl⟩ := Action.runs_fail_iff.1 rest
      refine ⟨nofun, fun e he => .inl (.inl ?_)⟩
      cases he
      exact mem_only_mul (by simpa using hc) (refused_mem _ _)
  · exact ⟨nofun, nofun⟩

theorem createJob_follows (ns : String) (job : Job) : Follows [creation ns job] (createJob ns job) where
  completes h u run := by
    rw [completed_singleton]
    exact (createJob_runs run).1 rfl
  stops h e run := by
    rw [stopped_singleton]
    exact (createJob_runs run).2 e rfl

theorem forJob_follows {ns name : String} {polling : Polling} :
    Follows [jobLeg ns name polling] (Waiting.forJob ns name polling) := by
  refine Waiting.wait_follows fun (found : Option Job) e he => ?_
  cases found with
  | none => cases he
  | some job => exact ⟨job, rfl, he⟩

theorem run_follows {config : Config} {sso : Sso} {ns : String} (mode : Mode) (account : String)
    (hns : sso.requireNamespace = .ok ns) :
    Follows (legs config sso ns mode) (run config mode sso sso.name account) := by
  refine .ofExcept_bind hns ?_
  refine (Follows.call _).bind fun _ _ _ => ?_
  refine (Follows.any account (createJob_follows ns _)).bind fun _ _ _ => ?_
  exact forJob_follows.bind fun _ _ _ => (Follows.call _).bind fun _ _ _ => .call _

end Exposure

namespace Provision

/-- What the hosts of an application come to. -/
def published (ns app : String) : List String → Except Error (List String)
  | [] => .error (.noIngressHosts ns app)
  | host :: others => .ok (host :: others)

def hostsLeg (ns : String) : Leg := .any fun app => .check (.ingressHosts ns app) (published ns app)

theorem resolveHosts_eq (ns app : String) :
    resolveHosts ns app =
      Routine.call (.ingressHosts ns app) >>= fun (hosts : List String) =>
        Action.ofExcept (published ns app hosts) := by
  unfold resolveHosts
  refine congrArg (Action.bind _) (funext fun (hosts : List String) => ?_)
  cases hosts with
  | nil => rfl
  | cons host others => rfl

theorem resolveHosts_follows (ns app : String) : Follows [hostsLeg ns] (resolveHosts ns app) := by
  rw [resolveHosts_eq]
  exact .any app (.check _ _)

end Provision
end SignOnOperator
