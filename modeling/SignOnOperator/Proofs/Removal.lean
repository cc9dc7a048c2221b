import SignOnOperator.Proofs.Cleanup
import SignOnOperator.Proofs.Listing
import SignOnOperator.Proofs.Members
import SignOnOperator.Proofs.Residue
import SignOnOperator.Proofs.Revision
/-!
# Exposure and its removal

The service of a proxy is published while an SSO is provisioned, and withdrawn while the SSO is being deleted.  The two
take the name of the service from different places: provisioning from the service that it has applied
(`Provision.Deployed`), the clean-up from the SSO (`Finalizer.cleanup_asks_exposure`).  They meet all the same, since
what is left of a run of the exposing controller does not tell which of the two it was for
(`removal_addresses_exposure`).
-/
namespace SignOnOperator

open Kubernetes

variable {config : Config} {mode : Exposure.Mode} {sso later : Sso} {ns service account : String} {map : ConfigMap}
  {job : Job} {c : Call} {h : History Operator}

/-! ## Jobs, and the configuration that they are told to read -/

namespace Kubernetes

/-- What an argument of the form `--option=value` gives for the option. -/
def optionValue? (option arg : String) : Option String :=
  (Text.strip? ("--" ++ option ++ "=").toList arg.toList).map String.ofList

/-- The values that the arguments give for an option. -/
def Container.options (container : Container) (option : String) : List String :=
  (container.args.getD []).filterMap (optionValue? option)

def Job.podSpec? (job : Job) : Option PodSpec := job.template.bind (·.spec)

/-- The values that are given for an option in any container. -/
def Job.options (job : Job) (option : String) : List String :=
  (job.podSpec?.elim [] (·.containers)).flatMap (·.options option)

def Container.unnamed (container : Container) : Container := { container with name := "", args := none }

def PodSpec.unnamed (spec : PodSpec) : PodSpec := { spec with containers := spec.containers.map Container.unnamed }

/-- The job without its name and without the names and the arguments of its containers. -/
def Job.unnamed (job : Job) : Job :=
  { job with
    metadata := { job.metadata with name := none }
    template := job.template.map fun t => { t with spec := t.spec.map PodSpec.unnamed } }

/-- The one container of the job is told to read its configuration from a file of the map, in the directory in which it
has the files of the map. -/
def Job.ReadsFrom (job : Job) (map : ConfigMap) : Prop :=
  ∃ spec container volume mount file content, job.podSpec? = some spec ∧ spec.containers = [container] ∧
    spec.volumes = some [volume] ∧ volume.source = .configMap map.metadata.nameAny ∧
    job.metadata.namespaceName = map.metadata.namespaceName ∧
    container.volumeMounts = some [mount] ∧ mount.name = volume.name ∧
    container.options "config" = [mount.mountPath ++ "/" ++ file] ∧
    map.data.bind (·.get? file) = some content

/-- The only file of the map has one list of services, which is this one, and lists nothing else. -/
def ConfigMap.Lists (map : ConfigMap) (services : List String) : Prop :=
  ∃ file members before after, map.data = some (.ofList [(file, (Yaml.map members).render)]) ∧
    members.filter (·.1 = "services") = [("services", .seq (services.map .str))] ∧
    (Yaml.map members).render = before ++ "\nservices:\n" ++ String.join (services.map Yaml.item) ++ after ∧
    Yaml.Unlisted before ∧ Yaml.Unlisted after

end Kubernetes

namespace Exposure

theorem optionValue?_append (option value : String) :
    optionValue? option ("--" ++ option ++ "=" ++ value) = some value := by
  have split : ("--" ++ option ++ "=" ++ value).toList = ("--" ++ option ++ "=").toList ++ value.toList :=
    String.toList_append
  rw [optionValue?, split, Text.strip?_append, Option.map_some, String.ofList_toList]

theorem options_config (mode : Mode) :
    (buildContainer sso ns service mode).options "config" = [configDir ++ "/" ++ configFile] := by
  cases mode with
  | expose =>
    have args : Mode.expose.args service = ["--config=/etc/exposecontroller/config.yml", "--v", "4"] := rfl
    change (Mode.expose.args service).filterMap (optionValue? "config") = _
    rw [args]
    decide
  | cleanup =>
    have other : optionValue? "config" ("--filter=" ++ service) = none := by
      have split : ("--filter=" ++ service).toList = "--filter=".toList ++ service.toList := String.toList_append
      rw [optionValue?, split]
      rfl
    have given : ["--config=/etc/exposecontroller/config.yml", "--cleanup"].filterMap (optionValue? "config") =
        [configDir ++ "/" ++ configFile] := by decide
    change (["--config=/etc/exposecontroller/config.yml", "--cleanup"] ++ ["--filter=" ++ service]).filterMap _ = _
    rw [List.filterMap_append, given, List.filterMap_cons_none other]
    rfl

theorem options_filter : (buildContainer sso ns service .cleanup).options "filter" = [service] := by
  have given : optionValue? "filter" ("--filter=" ++ service) = some service := optionValue?_append "filter" service
  have others : ["--config=/etc/exposecontroller/config.yml", "--cleanup"].filterMap (optionValue? "filter") = [] := by
    decide
  change (["--config=/etc/exposecontroller/config.yml", "--cleanup"] ++ ["--filter=" ++ service]).filterMap _ = _
  rw [List.filterMap_append, others, List.filterMap_cons_some given]
  rfl

theorem buildJob_options (sso : Sso) (ns service account : String) (mode : Mode) (option : String) :
    (buildJob sso ns service account mode).options option = (buildContainer sso ns service mode).options option :=
  List.flatMap_singleton ..

theorem buildJob_readsFrom (sso : Sso) (ns service account : String) (mode : Mode) :
    (buildJob sso ns service account mode).ReadsFrom (buildConfigMap sso ns service) := by
  have found (content : String) : (KeyMap.ofList [(configFile, content)]).get? configFile = some content := by
    have names : ([(configFile, content)].map (·.1)).Nodup := List.nodup_singleton configFile
    exact (KeyMap.get?_ofList_eq_some_iff names).2 (List.mem_singleton.2 rfl)
  have together : (buildJob sso ns service account mode).metadata.namespaceName = some ns := rfl
  exact ⟨_, _, _, _, configFile, _, rfl, rfl, rfl, rfl, together, rfl, rfl, options_config mode, found _⟩

/-- What the controller is told for every SSO. -/
def alwaysTold : List (String × Yaml) :=
  [("exposer", .str "Ingress"), ("path-mode", .str ""), ("http", .bool false), ("tls-acme", .bool true)]

theorem toYaml_forService (sso : Sso) (service : String) :
    ∃ domain template, (Instructions.forService sso service).toYaml =
        .map (domain ++ alwaysTold ++ ("services", .seq [.str service]) :: template) ∧
      ∀ m ∈ domain ++ template, m.1 ∈ ["domain", "urltemplate"] ∧ m.2.isLeaf = true := by
  refine ⟨_, _, congrArg Yaml.map (List.append_assoc ..), fun m mem => ?_⟩
  rcases List.mem_append.1 mem with inDomain | inTemplate
  · split at inDomain
    · cases inDomain
    · obtain rfl := List.mem_singleton.1 inDomain
      exact ⟨by simp, rfl⟩
  · split at inTemplate
    · obtain rfl := List.mem_singleton.1 inTemplate
      exact ⟨by simp, rfl⟩
    · cases inTemplate

theorem buildConfigMap_lists (sso : Sso) (ns service : String) : (buildConfigMap sso ns service).Lists [service] := by
  obtain ⟨domain, template, told, others⟩ := toYaml_forService sso service
  have apart : ∀ name ∈ ["domain", "urltemplate"], name ≠ "services" ∧ Yaml.Unlisted (Yaml.scalar 0 name) := by decide
  have unlisted : ∀ members, members ⊆ domain ++ template → Yaml.Unlisted (Yaml.renderMembers 0 members) :=
    fun members inside => Yaml.unlisted_renderMembers fun m mem =>
      have ⟨name, leaf⟩ := others m (inside mem)
      ⟨(apart _ name).2, leaf⟩
  obtain ⟨always, alwaysLines, plain⟩ :
      ∃ always, Yaml.renderMembers 0 alwaysTold = always ++ "\n" ∧ Yaml.Unlisted always :=
    ⟨"exposer: Ingress\npath-mode: ''\nhttp: false\ntls-acme: true", by decide, by decide⟩
  have lines : "\nservices:\n" = "\n" ++ ("services" ++ ":\n") := by decide
  have away (members) (inside : members ⊆ domain ++ template) : members.filter (·.1 = "services") = [] :=
    List.filter_eq_nil_iff.2 fun m mem => by simpa using (apart _ (others m (inside mem)).1).1
  refine ⟨configFile, domain ++ alwaysTold ++ ("services", .seq [.str service]) :: template,
    Yaml.renderMembers 0 domain ++ always, Yaml.renderMembers 0 template, ?_, ?_, ?_, ?_, ?_⟩
  · rw [← told]
    rfl
  · rw [List.filter_append, List.filter_append, away domain (by simp), List.filter_cons_of_pos (by simp),
      away template (by simp)]
    rfl
  · have listed := @Yaml.render_listing "services" (domain ++ alwaysTold) template [service] (by decide) (by simp)
    refine listed.trans ?_
    rw [Yaml.renderMembers_append, alwaysLines, lines]
    simp only [String.append_assoc]
  · exact (unlisted domain (by simp)).append plain
  · exact unlisted template (by simp)

/-- Without names and arguments, the job is the same whatever it is to do, and with which service. -/
theorem unnamed_buildJob (sso : Sso) (ns service service' account : String) (mode mode' : Mode) :
    (buildJob sso ns service account mode).unnamed = (buildJob sso ns service' account mode').unnamed := by
  simp only [Job.unnamed, PodSpec.unnamed, Container.unnamed, buildJob, buildContainer, objectMeta, Option.map_some,
    List.map_cons, List.map_nil]

end Exposure

/-! ## An SSO at two times -/

/-- The SSO that is asked for is the same, although its status has changed, or what the cluster notes about it. -/
structure Sso.SameRequest (sso later : Sso) : Prop where
  name : later.metadata.name = sso.metadata.name
  generateName : later.metadata.generateName = sso.metadata.generateName
  namespaceName : later.metadata.namespaceName = sso.metadata.namespaceName
  uid : later.metadata.uid = sso.metadata.uid
  spec : later.spec = sso.spec

namespace Sso.SameRequest

theorem nameAny (same : sso.SameRequest later) : later.name = sso.name := by
  rw [Sso.name, Sso.name, ObjectMeta.nameAny, ObjectMeta.nameAny, same.name, same.generateName]

theorem requireNamespace (same : sso.SameRequest later) : later.requireNamespace = sso.requireNamespace := by
  rw [Sso.requireNamespace, Sso.requireNamespace, same.namespaceName, same.nameAny]

theorem objectMeta (same : sso.SameRequest later) (name ns : String) :
    Exposure.objectMeta later name ns = Exposure.objectMeta sso name ns := by
  have owner : later.ownerReference? = sso.ownerReference? := by
    rw [Sso.ownerReference?, Sso.ownerReference?, same.name, same.uid]
  rw [Exposure.objectMeta, Exposure.objectMeta, owner]

theorem buildConfigMap (same : sso.SameRequest later) (ns service : String) :
    Exposure.buildConfigMap later ns service = Exposure.buildConfigMap sso ns service := by
  have instructions : Exposure.Instructions.forService later service = Exposure.Instructions.forService sso service :=
    by rw [Exposure.Instructions.forService, Exposure.Instructions.forService, same.spec]
  rw [Exposure.buildConfigMap, Exposure.buildConfigMap, instructions, Exposure.configMapName, same.nameAny,
    same.objectMeta, Exposure.configMapName]

theorem buildJob (same : sso.SameRequest later) (ns service account : String) (mode : Exposure.Mode) :
    Exposure.buildJob later ns service account mode = Exposure.buildJob sso ns service account mode := by
  have container : Exposure.buildContainer later ns service mode = Exposure.buildContainer sso ns service mode := by
    rw [Exposure.buildContainer, Exposure.buildContainer, same.nameAny]
  rw [Exposure.buildJob, Exposure.buildJob, container, Exposure.jobName, same.nameAny, same.objectMeta,
    Exposure.configMapName, same.nameAny, Exposure.configMapName, Exposure.jobName]

end Sso.SameRequest

/-! ## What is asked for of an exposure, and after what -/

/-- The service account that the cluster has named for the jobs. -/
def Turn.account? : Turn Operator → Option String
  | ⟨.call (.ensureClusterRoleBinding _ _), .ok account⟩ => some account
  | _ => none

theorem Turn.kind_of_account? {t : Turn Operator} (ht : t.account? = some account) :
    t.kind = .call .ensureClusterRoleBinding := by
  unfold account? at ht
  split at ht
  · rfl
  · cases ht

def History.accounts (h : History Operator) : List String := h.filterMap Turn.account?

theorem History.accounts_eq_nil {kinds : List RequestKind} (hh : ∀ t ∈ h, t.kind ∈ kinds)
    (hk : .call .ensureClusterRoleBinding ∉ kinds) : History.accounts h = [] :=
  filterMap_eq_nil_of_kind hh Turn.kind_of_account? hk

namespace Exposure

theorem run_asks_applyConfigMap
    (asked : Program.Asks (run config mode sso service account) h (.call (.applyConfigMap map))) :
    ∃ ns, sso.requireNamespace = .ok ns ∧ map = buildConfigMap sso ns service := by
  obtain ⟨ns, home, -⟩ := Action.asks_ofExcept_bind_iff.1 asked
  cases run_asks home asked with
  | applyConfigMap => exact ⟨ns, home, rfl⟩

/-- A job is created right after its configuration map has been applied, at the beginning of a run. -/
theorem run_asks_createJob
    (asked : Program.Asks (run config mode sso service account) h (.call (.createJob job))) :
    ∃ ns, sso.requireNamespace = .ok ns ∧ job = buildJob sso ns service account mode ∧
      h = [⟨.call (.applyConfigMap (buildConfigMap sso ns service)), .ok ()⟩] := by
  obtain ⟨ns, home, opening⟩ := Action.asks_ofExcept_bind_iff.1 asked
  rcases Routine.asks_call_bind_iff.1 opening with ⟨-, ⟨⟩⟩ | ⟨⟨⟩, h₁, rfl, applied⟩
  rcases Action.asks_bind_iff.1 applied with creating | ⟨_, h₂, h₃, rfl, -, created⟩
  · rcases createJob_asks creating with ⟨none, same⟩ | other
    · exact ⟨ns, home, Call.createJob.inj same, congrArg _ none⟩
    · cases other
  · -- The rest of the run only looks for the job and sweeps up.
    rcases Action.asks_bind_iff.1 created with waiting | ⟨_, h₄, h₅, -, -, complete⟩
    · cases Waiting.asks_wait waiting
    rcases Routine.asks_call_bind_iff.1 complete with ⟨-, ⟨⟩⟩ | ⟨_, h₆, -, sweeping⟩
    cases (Routine.asks_call_iff.1 sweeping).2

end Exposure

namespace Finalizer

/-- What a clean-up asks for of an exposure, it asks for in the withdrawal of the service that bears the SSO's name. -/
theorem cleanup_asks_exposure (asked : Program.Asks (cleanup config sso) h (.call c))
    (hc : .call c.kind ∈ Exposure.footprint) :
    ∃ (ns account : String) (h' : History Operator), sso.requireNamespace = .ok ns ∧
      h = ⟨.call (.ensureClusterRoleBinding config.clusterRoleName ns), .ok account⟩ :: h' ∧
      Program.Asks (Exposure.run config .cleanup sso sso.name account) h' (.call c) := by
  have apart : ∀ k ∈ Exposure.footprint,
      k ∉ letGoFootprint ∧ k ∉ [.call .deleteClient] ∧ k ≠ .call .ensureClusterRoleBinding := by decide
  obtain ⟨notLetGo, notDisposed, other⟩ := apart _ hc
  rw [cleanup_eq] at asked
  split at asked
  case isFalse => exact absurd asked Program.not_asks_done
  obtain ⟨ns, home, undoing⟩ := Action.asks_ofExcept_bind_iff.1 asked
  rcases Action.asks_bind_iff.1 undoing with undone | ⟨result, _, _, -, -, lettingGo⟩
  case inr => exact absurd lettingGo ((letGo_confined sso result).not_asks _ rfl notLetGo)
  unfold undo at undone
  split at undone
  case isFalse => exact absurd undone Program.not_asks_done
  rw [teardown_eq] at undone
  rcases Action.asks_bind_iff.1 undone with concealing | ⟨withdrawn, _, _, -, -, disposing⟩
  case inr =>
    have confined := (dispose_confined sso ns).bind fun deleted => .pure (firstFailure withdrawn deleted)
    exact absurd disposing (confined.not_asks _ rfl notDisposed)
  unfold conceal at concealing
  split at concealing
  case isTrue => exact absurd concealing Program.not_asks_done
  have withdrawing := Action.asks_mapError_iff.1 (Action.asks_attempt_iff.1 concealing)
  rcases Routine.asks_call_bind_iff.1 withdrawing with ⟨-, same⟩ | ⟨account, h', rfl, exposing⟩
  · obtain rfl := OperatorRequest.call.inj same
    exact absurd rfl other
  · exact ⟨ns, account, h', home, rfl, exposing⟩

end Finalizer

namespace Provision

/-- The proxy has been set up for a new client, and nothing has happened since but an exposure. -/
structure Deployed (config : Config) (sso : Sso) where
  ground : Groundwork
  client : OidcClient
  bundle : Proxy.Bundle
  early : History Operator
  deployed : History Operator
  late : History Operator
  prepared : Program.Runs (prepare config sso) early (.ok ground)
  deploying : Program.Runs (Proxy.deploy config sso client ground.cookieSecret) deployed (.ok bundle)
  aside : ∀ t ∈ late, t.kind ∈ Exposure.footprint

def Deployed.history (d : Deployed config sso) : History Operator :=
  d.early ++ creation sso (.ok d.client) :: (d.deployed ++ d.late)

theorem resolveHosts_asks {ns app : String} {r : OperatorRequest} (asked : Program.Asks (resolveHosts ns app) h r) :
    h = [] ∧ r = .call (.ingressHosts ns app) := by
  rcases Routine.asks_call_bind_iff.1 asked with found | ⟨hosts, _, -, checked⟩
  · exact found
  · split at checked
    · exact absurd checked Program.not_asks_done
    · exact absurd checked Program.not_asks_done

theorem prepare_accounts {g : Groundwork} (run : Program.Runs (prepare config sso) h (.ok g)) :
    History.accounts h = [g.account] := by
  obtain ⟨ns, -, binding⟩ := Action.runs_ofExcept_bind_ok_iff.1 run
  obtain ⟨account, h₁, h₂, rfl, bound, loading⟩ := Action.runs_bind_ok_iff.1 binding
  obtain ⟨cookieSecret, h₃, h₄, rfl, loaded, last⟩ := Action.runs_bind_ok_iff.1 loading
  obtain rfl := Routine.runs_call_iff.1 (Action.runs_mapError_ok_iff.1 bound)
  obtain ⟨rfl, ⟨⟩⟩ := Action.runs_pure_iff.1 last
  have silent : History.accounts h₃ = [] := History.accounts_eq_nil
    ((CookieSecret.get_confined _).turns (Action.runs_mapError_ok_iff.1 loaded)) (by decide)
  rw [List.append_nil]
  exact congrArg (account :: ·) silent

namespace Deployed

theorem home (d : Deployed config sso) : sso.requireNamespace = .ok d.ground.ns := (prepare_ok d.prepared).1

theorem accounts (d : Deployed config sso) : History.accounts d.history = [d.ground.account] := by
  have early := prepare_accounts d.prepared
  have deployed := History.accounts_eq_nil ((Proxy.deploy_confined ..).turns d.deploying) (by decide)
  have late := History.accounts_eq_nil d.aside (by decide)
  have created : (creation sso (.ok d.client)).account? = none := rfl
  unfold History.accounts at *
  rw [history, List.filterMap_append, List.filterMap_cons_none created, List.filterMap_append, early, deployed, late]
  rfl

/-- The service of the bundle has been applied, and no other. -/
theorem applied (d : Deployed config sso) :
    d.history.ofKind (.call .applyService) = [⟨.call (.applyService d.bundle.service), .ok ()⟩] := by
  obtain ⟨ns, upstream, waits, -, -, deployed, waited⟩ := Proxy.deploy_history d.deploying
  have early := History.ofKind_eq_nil ((prepare_confined config sso).turns d.prepared)
    (by decide : .call .applyService ∉ _)
  have late := History.ofKind_eq_nil d.aside (by decide : .call .applyService ∉ _)
  have waiting := History.ofKind_eq_nil waited (by decide : .call .applyService ∉ _)
  have whole : d.history = (d.early ++ [creation sso (.ok d.client),
      ⟨.call (.getService ns sso.spec.upstreamService), .ok (some upstream)⟩,
      ⟨.call (.applySecret d.bundle.secret), .ok ()⟩, ⟨.call (.applyDeployment d.bundle.deployment), .ok ()⟩]) ++
        ⟨.call (.applyService d.bundle.service), .ok ()⟩ :: (waits ++ d.late) := by
    rw [history, deployed, List.append_assoc]
    rfl
  rw [whole]
  refine History.ofKind_eq_singleton rfl ?_ ?_
  · rw [History.ofKind_append, early]
    rfl
  · rw [History.ofKind_append, waiting, late]
    rfl

/-- After the proxy has been set up, an exposure of its service follows, unless it is to be left out. -/
theorem asks {r : OperatorRequest} (d : Deployed config sso) (visible : sso.spec.skipExposeService = false)
    (exposing : Program.Asks
      (Exposure.run config .expose sso d.bundle.service.metadata.nameAny d.ground.account) d.late r) :
    Program.Asks (run config sso) d.history r := by
  have publishing : Program.Asks
      (publish config sso d.ground.ns d.ground.account d.bundle.service.metadata.nameAny) d.late r := by
    unfold publish
    rw [if_neg (by simp [visible])]
    exact Action.asks_mapError_iff.2 exposing
  have arranging : Program.Asks
      (arrange config sso d.ground.ns d.ground.account d.ground.cookieSecret d.client) (d.deployed ++ d.late) r :=
    Action.asks_bind_iff.2 (.inr ⟨d.bundle, d.deployed, d.late, rfl, Action.runs_mapError_ok_iff.2 d.deploying,
      Action.asks_bind_iff.2 (.inl publishing)⟩)
  have configuring : Program.Asks
      (configure config sso d.ground.ns d.ground.account d.ground.cookieSecret d.client) (d.deployed ++ d.late) r := by
    rw [configure_eq]
    exact Action.asks_bind_iff.2 (.inl arranging)
  rw [run_eq]
  refine Action.asks_bind_iff.2 (.inr ⟨d.ground, d.early, _, rfl, d.prepared, ?_⟩)
  refine Action.asks_bind_iff.2 (.inr ⟨d.client, [_], _, rfl, create_runs_iff.2 ⟨.ok d.client, rfl, rfl⟩, ?_⟩)
  exact Action.asks_bind_iff.2 (.inl (Action.asks_attempt_iff.2 configuring))

theorem service_eq (d : Deployed config sso) :
    d.bundle.service = Proxy.buildService sso d.ground.ns d.bundle.appName := by
  obtain ⟨_, upstream, _, -, planned, -, -⟩ := Proxy.deploy_history d.deploying
  obtain ⟨rendered, -, built⟩ := Proxy.plan_built planned
  obtain ⟨ns, home, made⟩ := Proxy.exists_of_buildBundle built
  obtain rfl := Except.ok.inj (home.symm.trans d.home)
  exact congrArg (·.service) made

end Deployed

/-- What provisioning does to make its proxy known. -/
def publicFootprint : List RequestKind := [.call .applyConfigMap, .call .createJob, .call .ingressHosts]

/-- The service in front of the proxy has been applied by the time that provisioning makes it known, and it is made
known as that. -/
theorem asks_public (asked : Program.Asks (run config sso) h (.call c)) (hc : .call c.kind ∈ publicFootprint) :
    ∃ d : Deployed config sso, h = d.history ∧ (c = .ingressHosts d.ground.ns d.bundle.appName ∨
      Program.Asks (Exposure.run config .expose sso d.bundle.service.metadata.nameAny d.ground.account) d.late
        (.call c)) := by
  have apart : ∀ k ∈ publicFootprint,
      k ∉ prepareFootprint ++ compensateFootprint ++ [.call .createClient, .call .patchSsoStatus] ∧
        k ∉ Proxy.deployFootprint ∧ k ∉ Proxy.updateFootprint ∧ k ≠ .call .updateClient := by decide
  obtain ⟨outside, notDeployed, notUpdated, other⟩ := apart _ hc
  obtain ⟨ground, client, early, arranged, rfl, prepared, arranging⟩ := asks_arrange asked outside
  rcases Action.asks_bind_iff.1 arranging with deploying | ⟨bundle, deployed, late, rfl, deploying, publishing⟩
  · exact absurd (Action.asks_mapError_iff.1 deploying) ((Proxy.deploy_confined ..).not_asks _ rfl notDeployed)
  have deploying := Action.runs_mapError_ok_iff.1 deploying
  rcases Action.asks_bind_iff.1 publishing with exposing | ⟨_, published, rest, rfl, exposed, resolving⟩
  · unfold publish at exposing
    split at exposing
    case isTrue => exact absurd exposing Program.not_asks_done
    have running := Action.asks_mapError_iff.1 exposing
    have aside := (Exposure.run_confined ..).turns running.choose_spec
    exact ⟨⟨ground, client, bundle, early, deployed, late, prepared, deploying, aside⟩, rfl, .inr running⟩
  rcases Action.asks_bind_iff.1 resolving with looking | ⟨_, _, _, -, -, telling⟩
  · obtain ⟨rfl, same⟩ := resolveHosts_asks (Action.asks_mapError_iff.1 looking)
    rw [List.append_nil]
    have aside := (publish_confined ..).turns exposed
    exact ⟨⟨ground, client, bundle, early, deployed, published, prepared, deploying, aside⟩, rfl,
      .inl (OperatorRequest.call.inj same)⟩
  rcases Action.asks_bind_iff.1 telling with registering | ⟨_, _, _, -, -, updating⟩
  · obtain ⟨-, same⟩ := Routine.asks_call_iff.1 (Action.asks_mapError_iff.1 registering)
    obtain rfl := OperatorRequest.call.inj same
    exact absurd rfl other
  rcases Action.asks_bind_iff.1 updating with again | ⟨_, _, _, -, -, ended⟩
  · exact absurd (Action.asks_mapError_iff.1 again) ((Proxy.update_confined ..).not_asks _ rfl notUpdated)
  · exact absurd ended Program.not_asks_done

/-- An exposure is run for the service of the bundle, which bears the name of the SSO. -/
theorem asks_exposure (asked : Program.Asks (run config sso) h (.call c))
    (hc : .call c.kind ∈ [RequestKind.call .applyConfigMap, .call .createJob]) :
    ∃ d : Deployed config sso, h = d.history ∧ d.bundle.service.metadata.nameAny = sso.name ∧
      Program.Asks (Exposure.run config .expose sso sso.name d.ground.account) d.late (.call c) := by
  have apart : ∀ k ∈ [RequestKind.call .applyConfigMap, .call .createJob],
      k ∈ publicFootprint ∧ k ≠ .call .ingressHosts := by decide
  obtain ⟨isPublic, other⟩ := apart _ hc
  obtain ⟨d, whole, rfl | exposing⟩ := asks_public asked isPublic
  · exact absurd rfl other
  · have named : d.bundle.service.metadata.nameAny = sso.name := by
      rw [d.service_eq]
      rfl
    exact ⟨d, whole, named, named ▸ exposing⟩

theorem asks_ingressHosts {ns app : String} (asked : Program.Asks (run config sso) h (.call (.ingressHosts ns app))) :
    ∃ d : Deployed config sso, h = d.history ∧ ns = d.ground.ns ∧ app = d.bundle.appName := by
  obtain ⟨d, whole, found | exposing⟩ := asks_public asked (by simp [publicFootprint])
  · exact ⟨d, whole, Call.ingressHosts.inj found⟩
  · exact absurd exposing ((Exposure.run_confined ..).not_asks (.call .ingressHosts) rfl (by decide))

end Provision

namespace Exposure

/-- How the exposure of an SSO and its removal, at a later time, correspond.  What a configuration map lists, where a job
looks for its configuration, and which ingress is asked for, are all said of the objects that have been applied. -/
structure Corresponds (config config' : Config) (sso later : Sso) : Prop where
  maps : ∀ {h h' map map'}, Program.Asks (Provision.run config sso) h (.call (.applyConfigMap map)) →
    Program.Asks (Finalizer.cleanup config' later) h' (.call (.applyConfigMap map')) → map' = map
  jobs : ∀ {h h' job job'}, Program.Asks (Provision.run config sso) h (.call (.createJob job)) →
    Program.Asks (Finalizer.cleanup config' later) h' (.call (.createJob job')) →
    History.accounts h' = History.accounts h → job'.unnamed = job.unnamed
  filter : ∀ {h h' service job'}, Program.Asks (Provision.run config sso) h (.call (.applyService service)) →
    Program.Asks (Finalizer.cleanup config' later) h' (.call (.createJob job')) →
    job'.options "filter" = [service.metadata.nameAny]
  listed : ∀ {h map}, Program.Asks (Provision.run config sso) h (.call (.applyConfigMap map)) →
    ∃ service, h.ofKind (.call .applyService) = [⟨.call (.applyService service), .ok ()⟩] ∧
      map.Lists [service.metadata.nameAny]
  mounted : ∀ {h job}, Program.Asks (Provision.run config sso) h (.call (.createJob job)) ∨
      Program.Asks (Finalizer.cleanup config' later) h (.call (.createJob job)) →
    ∃ early map, h = early ++ [⟨.call (.applyConfigMap map), .ok ()⟩] ∧ job.ReadsFrom map
  ingress : ∀ {h ns app}, Program.Asks (Provision.run config sso) h (.call (.ingressHosts ns app)) →
    ∃ service, h.ofKind (.call .applyService) = [⟨.call (.applyService service), .ok ()⟩] ∧
      service.metadata.namespaceName = some ns ∧
      service.metadata.annotations.bind (·.get? "fabric8.io/ingress.name") = some app

/-- **An exposure and its removal address the same.**  As long as an SSO is asked for as before, the clean-up applies
the same configuration map as provisioning has done, and its job is that of provisioning but for names and arguments, of
which the filter is the name of the service that provisioning has applied.  That service is the only one in the
configuration map, which either job finds where it is told to look, and the hosts are those of the ingress that the
service names. -/
theorem removal_addresses_exposure (config config' : Config) (same : sso.SameRequest later) :
    Corresponds config config' sso later where
  maps asked asked' := by
    obtain ⟨d, -, -, exposing⟩ := Provision.asks_exposure asked (by simp)
    obtain ⟨ns, home, rfl⟩ := run_asks_applyConfigMap exposing
    obtain ⟨_, _, _, -, -, withdrawing⟩ := Finalizer.cleanup_asks_exposure asked' (by simp [footprint])
    obtain ⟨ns', home', rfl⟩ := run_asks_applyConfigMap withdrawing
    obtain rfl := Except.ok.inj (home'.symm.trans (same.requireNamespace.trans home))
    rw [same.buildConfigMap, same.nameAny]
  jobs asked asked' accounts := by
    obtain ⟨d, rfl, -, exposing⟩ := Provision.asks_exposure asked (by simp)
    obtain ⟨ns, home, rfl, -⟩ := run_asks_createJob exposing
    obtain ⟨_, account, h', -, rfl, withdrawing⟩ := Finalizer.cleanup_asks_exposure asked' (by simp [footprint])
    obtain ⟨ns', home', rfl, rfl⟩ := run_asks_createJob withdrawing
    obtain rfl := Except.ok.inj (home'.symm.trans (same.requireNamespace.trans home))
    obtain rfl : account = d.ground.account := List.head_eq_of_cons_eq (accounts.trans d.accounts)
    rw [same.buildJob]
    exact unnamed_buildJob ..
  filter asked asked' := by
    obtain ⟨client, cookieSecret, _, _, -, deploying⟩ := Provision.asks_applyService asked
    have front := (Proxy.deploy_asks_applyService deploying).1
    obtain ⟨_, _, _, -, -, withdrawing⟩ := Finalizer.cleanup_asks_exposure asked' (by simp [footprint])
    obtain ⟨ns, -, rfl, -⟩ := run_asks_createJob withdrawing
    rw [buildJob_options, options_filter, same.nameAny]
    exact congrArg (fun address => [address.2]) front.symm
  listed asked := by
    obtain ⟨d, rfl, named, exposing⟩ := Provision.asks_exposure asked (by simp)
    obtain ⟨ns, -, rfl⟩ := run_asks_applyConfigMap exposing
    exact ⟨d.bundle.service, d.applied, named ▸ buildConfigMap_lists ..⟩
  mounted asked := by
    rcases asked with asked | asked
    · obtain ⟨d, rfl, -, exposing⟩ := Provision.asks_exposure asked (by simp)
      obtain ⟨ns, -, rfl, late⟩ := run_asks_createJob exposing
      refine ⟨d.early ++ Provision.creation sso (.ok d.client) :: d.deployed, _, ?_, buildJob_readsFrom ..⟩
      rw [Provision.Deployed.history, late, List.append_assoc, List.cons_append]
    · obtain ⟨_, account, h', -, rfl, withdrawing⟩ := Finalizer.cleanup_asks_exposure asked (by simp [footprint])
      obtain ⟨ns, -, rfl, rfl⟩ := run_asks_createJob withdrawing
      exact ⟨[_], _, rfl, buildJob_readsFrom ..⟩
  ingress asked := by
    obtain ⟨d, rfl, rfl, rfl⟩ := Provision.asks_ingressHosts asked
    refine ⟨d.bundle.service, d.applied, ?_, ?_⟩
    · rw [d.service_eq]
      rfl
    · rw [d.service_eq]
      exact (KeyMap.get?_ofList_eq_some_iff (by simp)).2 (by simp)

/-! ### A service that is published and withdrawn -/

def shown : Sso := { Provision.sample with spec := { Provision.sample.spec with skipExposeService := false } }

/-- The same SSO when it has been provisioned and is being deleted. -/
def departing : Sso :=
  { shown with
    metadata := { shown.metadata with
      deletionTimestamp := some "2024-01-01T00:00:00Z", finalizers := some [Finalizer.name] }
    status := some { clientId := some "client", initialized := true } }

theorem shown_withdrawn :
    ∃ h h' job job', Program.Asks (Provision.run Provision.sampleConfig shown) h (.call (.createJob job)) ∧
      Program.Asks (Finalizer.cleanup Provision.sampleConfig departing) h' (.call (.createJob job')) ∧
      job'.unnamed = job.unnamed ∧ job'.options "filter" = ["app"] := by
  obtain ⟨bundle, planned⟩ : ∃ bundle,
      Proxy.plan shown Provision.sampleClient "secret" Provision.sampleService = .ok bundle := ⟨_, rfl⟩
  have running : Waiting.podsRunning (fun _ => true) [Provision.samplePod none] = true := rfl
  have deploying := Proxy.deploy_runs Provision.sampleConfig Provision.sampleService
    (rfl : shown.requireNamespace = .ok "jx") planned running 0 0
  let d : Provision.Deployed Provision.sampleConfig shown := {
    ground := ⟨"jx", "account", "secret"⟩, client := Provision.sampleClient, bundle
    early := [⟨.call (.ensureClusterRoleBinding "role" "jx"), .ok "account"⟩, ⟨.enterCell, some "secret"⟩]
    deployed := _
    late := [⟨.call (.applyConfigMap (buildConfigMap shown "jx" bundle.service.metadata.nameAny)), .ok ()⟩]
    prepared := .turn (.turn (.here _)), deploying
    aside := List.forall_mem_singleton.2 (by simp [Turn.kind, footprint]) }
  have provisioning : Program.Asks (Provision.run Provision.sampleConfig shown) d.history _ :=
    d.asks rfl ⟨_, .turn (.here _)⟩
  have cleaning : Program.Asks (Finalizer.cleanup Provision.sampleConfig departing)
      [⟨.call (.ensureClusterRoleBinding "role" "jx"), .ok "account"⟩,
        ⟨.call (.applyConfigMap (buildConfigMap departing "jx" "app")), .ok ()⟩]
      (.call (.createJob (buildJob departing "jx" "app" "account" .cleanup))) := ⟨_, .turn (.turn (.here _))⟩
  have corresponds := removal_addresses_exposure Provision.sampleConfig Provision.sampleConfig
    (⟨rfl, rfl, rfl, rfl, rfl⟩ : shown.SameRequest departing)
  have named : bundle.service.metadata.nameAny = "app" := congrArg (·.2) (Proxy.plan_front planned)
  have filtered := corresponds.filter (Provision.asks_plannedService rfl planned) cleaning
  rw [named] at filtered
  exact ⟨_, _, _, _, provisioning, cleaning, corresponds.jobs provisioning cleaning d.accounts.symm, filtered⟩

end Exposure
end SignOnOperator
