import SignOnOperator.Proofs.CookieLoading
import SignOnOperator.Proofs.Members
import SignOnOperator.Proofs.Revision
import SignOnOperator.Proofs.Template
import SignOnOperator.Proofs.UpstreamService
/-!
# How the objects of a proxy fit together

The secret, the deployment and the service of a bundle refer to each other: by labels and selectors, by the name of the
secret, by a key of its data, by a port and by a fingerprint.  What these references have in common is gathered in the
`Fittings` of a bundle, and `Fits` says that all of them meet there, whatever the SSO is called and whatever data the
bundle is built on.
-/
namespace SignOnOperator

open Kubernetes

/-! ## Maps within maps -/

namespace KeyMap

variable {α β : Type} {name : String}

/-- Every entry of the first map is one of the second. -/
def Within (m n : KeyMap α) : Prop := ∀ key value, m.get? key = some value → n.get? key = some value

/-- By induction on the entries, each of which has a key that comes before all later ones. -/
theorem get?_foldl_insert : ∀ {entries : List (String × α)} {m : KeyMap α}, entries.Pairwise (fun a b => a.1 < b.1) →
    (entries.foldl (fun m e => m.insert e.1 e.2) m).get? name =
      ((entries.find? fun e => e.1 = name).map (·.2)).or (m.get? name)
  | [], _, _ => rfl
  | (key, value) :: rest, m, sorted => by
    obtain ⟨first, others⟩ := List.pairwise_cons.1 sorted
    rw [List.foldl_cons, get?_foldl_insert others, get?_insert, List.find?_cons]
    by_cases same : key = name
    · subst same
      have absent : (rest.find? fun e => e.1 = key) = none := by
        rw [List.find?_eq_none]
        intro e mem found
        have less : key < e.1 := first e mem
        rw [of_decide_eq_true found] at less
        exact String.lt_irrefl _ less
      simp [absent]
    · simp [same]

theorem get?_union (m n : KeyMap α) : (m.union n).get? name = (n.get? name).or (m.get? name) :=
  get?_foldl_insert n.sorted

theorem within_union (m n : KeyMap α) : n.Within (m.union n) := by
  intro key value found
  rw [get?_union, found]
  rfl

theorem keys_map (f : α → β) (m : KeyMap α) : (m.map f).keys = m.keys := List.map_map ..

end KeyMap

namespace Labels

/-- A query that asks for the value of a label, on objects with these labels. -/
def Selects (query : String) (labels : KeyMap String) : Prop :=
  ∃ key value, '=' ∉ key.toList ∧ query = key ++ "=" ++ value ∧ labels.get? key = some value

theorem proxySelector_within (ssoName appName : String) :
    (proxySelector ssoName appName).Within (proxy ssoName appName) :=
  KeyMap.within_union _ _

theorem get?_sso_proxySelector (ssoName appName : String) :
    (proxySelector ssoName appName).get? sso = some ssoName := by
  unfold proxySelector KeyMap.ofList
  rw [List.foldl_cons, List.foldl_cons, List.foldl_nil, KeyMap.get?_insert, if_pos rfl]

theorem podSelector_selects (ssoName appName : String) : Selects (podSelector ssoName) (proxy ssoName appName) :=
  ⟨sso, ssoName, by decide, rfl, proxySelector_within _ _ _ _ (get?_sso_proxySelector ssoName appName)⟩

end Labels

theorem Bytes.map_toString?_map_ofString (data : KeyMap String) :
    (data.map Bytes.ofString).map Bytes.toString? = data.map some := by
  refine KeyMap.ext ((List.map_map ..).trans (List.map_congr_left fun e _ => ?_))
  exact congrArg (e.1, ·) (Bytes.toString?_eq_some_iff.2 rfl)

theorem Sso.ownerReference?_of_name_of_uid {sso : Sso} {name uid : String} (named : sso.metadata.name = some name)
    (identified : sso.metadata.uid = some uid) :
    sso.ownerReference? = some ⟨apiVersion, none, some true, kind, name, uid⟩ := by
  unfold ownerReference?
  rw [named, identified]
  rfl

/-! ## What the objects have in common -/

namespace Kubernetes

def Deployment.templateLabels? (d : Deployment) : Option (KeyMap String) :=
  d.spec.bind fun s => s.template.metadata.bind (·.labels)

def Deployment.selector? (d : Deployment) : Option (KeyMap String) := d.spec.bind (·.matchLabels)

def Service.selector? (s : Service) : Option (KeyMap String) := s.spec.bind (·.selector)

end Kubernetes

namespace Proxy

/-- Where the references between the objects of a proxy meet. -/
structure Fittings where
  container : Container
  mount : VolumeMount
  labels : KeyMap String
  port : Int

def Bundle.metadata (b : Bundle) : List ObjectMeta := [b.secret.metadata, b.deployment.metadata, b.service.metadata]

/-- The objects of the bundle fit together and belong to the SSO. -/
structure Fits (sso : Sso) (ns : String) (data : KeyMap String) (b : Bundle) (f : Fittings) : Prop where
  fingerprint : deployedFingerprint? b.deployment = some (Proxy.fingerprint data)
  pods : ∀ pod : Pod, pod.spec = b.deployment.podSpec? → podFingerprint? pod = some (Proxy.fingerprint data)
  labels : b.deployment.templateLabels? = some f.labels
  matched : ∃ selector, b.deployment.selector? = some selector ∧ selector.Within f.labels
  served : ∃ selector, b.service.selector? = some selector ∧ selector.Within f.labels
  container : b.deployment.podSpec?.map (·.containers) = some [f.container]
  mount : f.container.volumeMounts = some [f.mount]
  volume : ∃ secretName, b.secret.metadata.name = some secretName ∧
    b.deployment.podSpec?.bind (·.volumes) = some [⟨f.mount.name, .secret secretName⟩]
  decoded : b.secret.data.map (KeyMap.map Bytes.toString?) = some (data.map some)
  configured : ∀ rendered, data = secretData rendered →
    ∃ bytes key, b.secret.data = some bytes ∧ key ∈ bytes.keys ∧
      f.container.args = some ["--config=" ++ f.mount.mountPath ++ "/" ++ key]
  ports : f.container.ports.map (List.map (·.containerPort)) = some [f.port]
  targets : (b.service.spec.bind (·.ports)).map (List.map (·.targetPort)) = some [some f.port]
  probed : f.container.livenessProbe.map (·.port) = some f.port ∧ f.container.readinessProbe.map (·.port) = some f.port
  placed : ∀ m ∈ b.metadata, m.namespaceName = some ns ∧ m.labels = some f.labels
  owned : ∀ name uid, sso.metadata.name = some name → sso.metadata.uid = some uid →
    ∃ owner : OwnerReference, (owner.apiVersion = Sso.apiVersion ∧ owner.kind = Sso.kind ∧ owner.name = name ∧
      owner.uid = uid) ∧ ∀ m ∈ b.metadata, m.ownerReferences = some [owner]

/-- The fittings of the bundles of an SSO. -/
def fittings (sso : Sso) (appName : String) (data : KeyMap String) : Fittings where
  container := buildContainer sso (fingerprint data)
  mount := { name := volumeName, mountPath := mountPath, readOnly := some true }
  labels := Labels.proxy sso.name appName
  port := port

variable {config : Config} {sso : Sso} {client : OidcClient} {cookieSecret ns app url text : String}
  {data : KeyMap String} {bundle : Bundle} {h : History Operator} {c : Call}

theorem podFingerprint?_of_template {pod : Pod} {d : Deployment} (template : pod.spec = d.podSpec?) :
    podFingerprint? pod = deployedFingerprint? d := by
  unfold podFingerprint? deployedFingerprint?
  rw [template]

theorem fits_of_built (home : sso.metadata.namespaceName = some ns)
    (built : buildBundle sso app url data = .ok bundle) : Fits sso ns data bundle (fittings sso app data) := by
  obtain ⟨ns', required, rfl⟩ := exists_of_buildBundle built
  obtain rfl := Except.ok.inj (required.symm.trans (Sso.requireNamespace_eq_ok_iff.2 home))
  have carried := deployedFingerprint?_buildDeployment sso ns' app (fingerprint data)
  exact {
    fingerprint := carried
    pods := fun pod template => (podFingerprint?_of_template template).trans carried
    labels := rfl
    matched := ⟨_, rfl, Labels.proxySelector_within _ _⟩
    served := ⟨_, rfl, Labels.proxySelector_within _ _⟩
    container := rfl
    mount := rfl
    volume := ⟨_, rfl, rfl⟩
    decoded := congrArg some (Bytes.map_toString?_map_ofString data)
    configured := by
      rintro rendered rfl
      refine ⟨_, configFile, rfl, ?_, rfl⟩
      rw [KeyMap.keys_map]
      exact List.mem_singleton.2 rfl
    ports := rfl
    targets := rfl
    probed := ⟨rfl, rfl⟩
    placed := by
      intro m mem
      simp only [Bundle.metadata, List.mem_cons, List.not_mem_nil, or_false] at mem
      rcases mem with rfl | rfl | rfl
      · exact ⟨rfl, rfl⟩
      · exact ⟨rfl, rfl⟩
      · exact ⟨rfl, rfl⟩
    owned := by
      intro name uid named identified
      have reference := Sso.ownerReference?_of_name_of_uid named identified
      refine ⟨⟨Sso.apiVersion, none, some true, Sso.kind, name, uid⟩, ⟨rfl, rfl, rfl, rfl⟩, fun m mem => ?_⟩
      simp only [Bundle.metadata, List.mem_cons, List.not_mem_nil, or_false] at mem
      rcases mem with rfl | rfl | rfl
      · exact congrArg (Option.map fun owner => [owner]) reference
      · exact congrArg (Option.map fun owner => [owner]) reference
      · exact congrArg (Option.map fun owner => [owner]) reference }

/-! ## What is rolled out -/

/-- What is rolled out, first or later, is a bundle on the configuration with the port of the proxy. -/
theorem rolled_out (asked : Program.Asks (deploy config sso client cookieSecret) h (.call c) ∨
      Program.Asks (update config sso client cookieSecret bundle) h (.call c)) :
    ∃ ns, sso.requireNamespace = .ok ns ∧ (c = .getService ns sso.spec.upstreamService ∨
      ∃ url app text rolled h', Recipe.render ⟨sso, client, cookieSecret, url, port⟩ = .ok text ∧
        buildBundle sso app url (secretData text) = .ok rolled ∧ RollingOut sso ns rolled h' c) := by
  rcases asked with deploying | updating
  · obtain ⟨ns, home, ⟨-, found⟩ | ⟨upstream, bundle, h', -, planned, rolling⟩⟩ := deploy_asks deploying
    · exact ⟨ns, home, .inl found⟩
    · obtain ⟨text, rendered, built⟩ := plan_built planned
      exact ⟨ns, home, .inr ⟨_, _, text, bundle, h', rendered, built, rolling⟩⟩
  · obtain ⟨ns, updated, home, revised, rolling, -⟩ := update_asks updating
    obtain ⟨text, rendered, built⟩ := revise_built revised
    exact ⟨ns, home, .inr ⟨_, _, text, updated, h, rendered, built, rolling⟩⟩

/-- **The objects of a proxy fit together.**  For every SSO with a namespace and whatever the application, the upstream
address and the data are, there is a bundle, and its objects fit.  Whenever a secret is applied to set up or to update
the proxy of the SSO, it holds a configuration with the port at which the objects meet, and whenever pods are listed, it
is by a selector for the labels of the pods that they make. -/
theorem bundle_fits (home : sso.metadata.namespaceName = some ns) (app url : String) (data : KeyMap String) :
    ∃ b f, buildBundle sso app url data = .ok b ∧ Fits sso ns data b f ∧
      ∀ {config : Config} {client : OidcClient} {cookieSecret : String} {bundle : Bundle} {h : History Operator}
        {c : Call}, Program.Asks (deploy config sso client cookieSecret) h (.call c) ∨
          Program.Asks (update config sso client cookieSecret bundle) h (.call c) →
        (∀ s, c = .applySecret s → ∃ text, s.Carries (secretData text) ∧
          ("http_address = \":" ++ toString f.port ++ "\"\n").toList <+: text.toList) ∧
        ∀ ns' selector, c = .listPods ns' selector → ns' = ns ∧ Labels.Selects selector f.labels := by
  have required : sso.requireNamespace = .ok ns := Sso.requireNamespace_eq_ok_iff.2 home
  obtain ⟨b, built⟩ : ∃ b, buildBundle sso app url data = .ok b := by
    unfold buildBundle
    rw [required]
    exact ⟨_, rfl⟩
  refine ⟨b, fittings sso app data, built, fits_of_built home built, fun asked => ?_⟩
  obtain ⟨ns', required', found⟩ := rolled_out asked
  obtain rfl := Except.ok.inj (required.symm.trans required')
  refine ⟨fun s applied => ?_, fun ns' selector listed => ?_⟩
  · subst applied
    obtain ⟨⟨⟩⟩ | ⟨url, app, text, rolled, h', rendered, made, rolling⟩ := found
    cases rolling with
    | secret =>
      have shown := Recipe.render_port rendered
      exact ⟨text, buildBundle_carries made, shown⟩
  · subst listed
    obtain ⟨⟨⟩⟩ | ⟨url', app', text, rolled, h', rendered, made, rolling⟩ := found
    cases rolling with
    | pods => exact ⟨rfl, Labels.podSelector_selects sso.name app⟩

/-- The SSO of the sample as it is stored. -/
def stored : Sso :=
  { Provision.sample with metadata := { name := some "app", namespaceName := some "jx", uid := some "1f" } }

open Provision in
theorem stored_bundle_fits :
    ∃ b f, buildBundle stored "web" "http://web.jx:80" (secretData "text") = .ok b ∧
      Fits stored "jx" (secretData "text") b f ∧
      (∃ owner : OwnerReference, owner.uid = "1f" ∧ ∀ m ∈ b.metadata, m.ownerReferences = some [owner]) ∧
      ∃ (bundle : Bundle) (text : String), Program.Asks (deploy sampleConfig stored sampleClient "secret")
          [⟨.call (.getService "jx" "web"), .ok (some sampleService)⟩] (.call (.applySecret bundle.secret)) ∧
        bundle.secret.Carries (secretData text) ∧
        ("http_address = \":" ++ toString f.port ++ "\"\n").toList <+: text.toList := by
  obtain ⟨bundle, planned⟩ : ∃ bundle, plan stored sampleClient "secret" sampleService = .ok bundle := ⟨_, rfl⟩
  have asked : Program.Asks (deploy sampleConfig stored sampleClient "secret")
      [⟨.call (.getService "jx" "web"), .ok (some sampleService)⟩] (.call (.applySecret bundle.secret)) := by
    unfold deploy
    refine Action.asks_ofExcept_bind_iff.2 ⟨"jx", rfl, ?_⟩
    refine Routine.asks_call_bind_iff.2 (.inr ⟨some sampleService, [], rfl, ?_⟩)
    refine Action.asks_require_bind_iff.2 ⟨sampleService, rfl, ?_⟩
    refine Action.asks_ofExcept_bind_iff.2 ⟨bundle, planned, ?_⟩
    exact Action.asks_bind_iff.2 (.inl (Routine.asks_call_bind_iff.2 (.inl ⟨rfl, rfl⟩)))
  have home : stored.metadata.namespaceName = some "jx" := rfl
  obtain ⟨b, f, built, fits, rolled⟩ := bundle_fits home "web" "http://web.jx:80" (secretData "text")
  obtain ⟨owner, ⟨-, -, -, uid⟩, owned⟩ := fits.owned "app" "1f" rfl rfl
  obtain ⟨text, carries, shown⟩ := (@rolled sampleConfig sampleClient "secret" bundle _ _ (.inl asked)).1 _ rfl
  exact ⟨b, f, built, fits, ⟨owner, uid, owned⟩, bundle, text, asked, carries, shown⟩

end Proxy
end SignOnOperator
