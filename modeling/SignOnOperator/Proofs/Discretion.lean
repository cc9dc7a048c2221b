import SignOnOperator.Proofs.Agreement
import SignOnOperator.Proofs.Concealment
/-!
# Secrets go into secrets alone

Two provisionings of one SSO that are told different secrets make the same calls at the same times, apart from what the
calls put into secrets and the fingerprint of the configuration, and they end alike.
-/
namespace SignOnOperator

open Kubernetes

variable {f : Fingerprints} {config : Config} {sso : Sso} {client client' : OidcClient}
  {cookieSecret cookieSecret' : String}

/-! ## Calls -/

/-- A call of both runs that gives nothing sensitive back. -/
theorem call_concealed {c c' : Call} {R : Fingerprints → c.Result → c'.Result → Prop}
    (alike : c.concealed = c'.concealed)
    (results : ∀ a a', c.ResultsAlike f c' a a' → R (f.after (.call c) (.call c')) a a') :
    Action.Coupled concealing R f (Routine.call c) (Routine.call c') :=
  .ask alike fun _ _ given => .done (given.1.imp results)

theorem call_alike {c c' : Call} (alike : c.concealed = c'.concealed) :
    Action.Coupled concealing (fun f' _ _ => f' = f.after (.call c) (.call c')) f (Routine.call c) (Routine.call c') :=
  call_concealed alike fun _ _ _ => rfl

/-! ## The cookie secret -/

namespace CookieSecret

/-- What is found of the secret's object goes together: it is the same, or both times it holds a value. -/
theorem required_alike {secret secret' : Secret} (ns : String)
    (alike : secret = secret' ∨ ∃ value value', Holds secret value ∧ Holds secret' value') :
    Outcome.Alike (fun _ _ => True) (.ofExcept (required secret ns)) (.ofExcept (required secret' ns)) := by
  rcases alike with rfl | ⟨value, value', holds, holds'⟩
  · exact (Outcome.alike_eq_iff.2 rfl).imp fun _ _ _ => trivial
  · rw [required_eq_ok_iff.2 holds, required_eq_ok_iff.2 holds']
    exact trivial

theorem held_alike {found found' : Option Secret} (ns : String)
    (alike : Call.ResultsAlike f (.getSecret ns objectName) (.getSecret ns objectName) found found') :
    Outcome.Alike (fun _ _ => True) (.ofExcept (held ns found)) (.ofExcept (held ns found')) := by
  rcases alike with rfl | ⟨secret, secret', value, value', rfl, rfl, holds⟩
  · exact (Outcome.alike_eq_iff.2 rfl).imp fun _ _ _ => trivial
  · exact required_alike ns (.inr ⟨value, value', holds⟩)

/-- The routines come to values together. -/
abbrev Loads (f : Fingerprints) (x x' : Routine String) : Prop :=
  Action.Coupled concealing (fun _ _ _ => True) f x x'

theorem adopt_alike (ns : String) (e : Error) : Loads f (adopt ns e) (adopt ns e) := by
  unfold adopt
  split
  · refine Action.coupled_bind (R := fun f' => Call.ResultsAlike f' _ _) ?_ fun f' found found' given => ?_
    · exact call_concealed rfl fun _ _ given => given
    · exact .done (held_alike ns given)
  · exact .done rfl

theorem createOrRead_alike (ns value value' : String) : Loads f (createOrRead ns value) (createOrRead ns value') := by
  refine Action.coupled_bind (Action.coupled_attempt (call_alike (by rfl))) fun f' result result' given => ?_
  rcases result with e | ⟨⟩ <;> rcases result' with e' | ⟨⟩ <;> try exact False.elim given
  · obtain rfl : e = e' := given
    exact adopt_alike ns e
  · change Loads f' (pure value) (pure value')
    exact .done trivial

theorem loadOrCreate_alike (ns : String) : Loads f (loadOrCreate ns) (loadOrCreate ns) := by
  rw [loadOrCreate_eq]
  refine Action.coupled_bind (R := fun f' => Call.ResultsAlike f' _ _) ?_ fun f' found found' given => ?_
  · exact call_concealed rfl fun _ _ given => given
  · change Option Secret at found found'
    rcases given with rfl | ⟨secret, secret', value, value', rfl, rfl, holds⟩
    · cases found with
      | some secret => exact .done (required_alike ns (.inl rfl))
      | none => exact .ask rfl fun choices choices' _ => createOrRead_alike ns _ _
    · exact .done (required_alike ns (.inr ⟨value, value', holds⟩))

theorem get_alike (ns : String) : Loads f (get ns) (get ns) := by
  refine .ask rfl fun held held' given => ?_
  have same : Option.isSome (show Option String from held) = Option.isSome (show Option String from held') := given.1
  cases held <;> cases held' <;> try cases same
  · change Action.Coupled concealing _ f (fill ns) (fill ns)
    rw [fill_eq]
    refine Program.Coupled.bind (loadOrCreate_alike ns) fun f' o o' ended => ?_
    cases o <;> cases o' <;> try exact ended.elim
    · exact .ask trivial fun _ _ _ => .done trivial
    · exact .ask rfl fun _ _ _ => .done ended
    · exact .ask rfl fun _ _ _ => .done trivial
  · exact .done trivial

end CookieSecret

/-! ## Waits -/

/-- What comes to the same in both runs may be a part of longer routines. -/
theorem Program.Coupled.part {α : Type} {x x' : Routine α}
    (coupled : Program.Coupled concealing (fun f' o o' => f' = f ∧ o = o') f x x') :
    Action.Coupled concealing (fun f' a a' => f' = f ∧ a = a') f x x' := by
  refine coupled.imp ?_
  rintro f' o _ ⟨rfl, rfl⟩
  cases o with
  | ok _ => exact ⟨rfl, rfl⟩
  | error _ => exact rfl
  | panic => exact trivial

/-- A routine of both runs that asks for nothing sensitive. -/
theorem Confined.alike {α : Type} {kinds : List RequestKind} {x : Routine α} (confined : Confined kinds x)
    (plain : ∀ k ∈ kinds, k ∉ sensitive) : Action.Coupled concealing (fun f' a a' => f' = f ∧ a = a') f x x :=
  (confined.concealed plain).part

theorem call_plain {c : Call} (plain : .call c.kind ∉ sensitive) :
    Action.Coupled concealing (fun f' a a' => f' = f ∧ a = a') f (Routine.call c) (Routine.call c) :=
  Confined.alike (.call (List.mem_singleton_self _)) (by simpa using plain)

namespace Waiting

/-- The same pods, apart from the fingerprints, are accepted of both runs. -/
theorem forCurrentPods_alike {ns selector : String} {accepts accepts' : Pod → Bool} {polling : Polling}
    (judged : ∀ pod pod', (Proxy.podFingerprint? pod = f.1 ↔ Proxy.podFingerprint? pod' = f.2) →
      accepts pod = accepts' pod') :
    Program.Coupled concealing (fun f' o o' => f' = f ∧ o = o') f (forCurrentPods ns selector accepts polling)
      (forCurrentPods ns selector accepts' polling) := by
  refine wait_coupled concealing_keeping (ask_coupled rfl rfl fun o o' given => ?_)
  refine given.1.imp fun pods pods' (alike : List.Forall₂ _ pods pods') => ?_
  have running : podsRunning accepts pods = podsRunning accepts' pods' := by
    have all : (pods.all fun pod => accepts pod && pod.phase = "Running") =
        pods'.all fun pod => accepts' pod && pod.phase = "Running" := by
      induction alike with
      | nil => rfl
      | cons first _ ih => rw [List.all_cons, List.all_cons, judged _ _ first.2, first.1, ih]
    have empty : pods.isEmpty = pods'.isEmpty := by
      cases alike <;> rfl
    unfold podsRunning
    rw [empty, all]
  exact congrArg Verdict.readyIf running

/-- Whether a deployment has settled does not depend on the fingerprint. -/
theorem deploymentStable_of_concealed {d d' : Deployment} (alike : d.concealed = d'.concealed) :
    deploymentStable d = deploymentStable d' := by
  have stable (d : Deployment) : deploymentStable d.concealed = deploymentStable d := by
    unfold deploymentStable Deployment.concealed
    cases d.spec <;> rfl
  rw [← stable d, alike, stable d']

theorem forDeployment_alike {ns name : String} {polling : Polling} :
    Program.Coupled concealing (fun f' o o' => f' = f ∧ o = o') f (forDeployment ns name polling)
      (forDeployment ns name polling) := by
  refine wait_coupled concealing_keeping (ask_coupled rfl rfl fun o o' given => ?_)
  refine given.1.imp fun (found : Option Deployment) (found' : Option Deployment) alike => ?_
  change found.map _ = found'.map _ at alike
  cases found <;> cases found' <;> try cases alike
  · rfl
  · exact congrArg Verdict.readyIf (deploymentStable_of_concealed (Option.some.inj alike))

end Waiting

/-! ## Configurations and objects -/

namespace Proxy

/-- The bundles are the same apart from the configuration and its fingerprint. -/
structure Bundle.Alike (bundle bundle' : Bundle) : Prop where
  appName : bundle.appName = bundle'.appName
  upstreamUrl : bundle.upstreamUrl = bundle'.upstreamUrl
  secret : bundle.secret.concealed = bundle'.secret.concealed
  deployment : bundle.deployment.concealed = bundle'.deployment.concealed
  service : bundle.service = bundle'.service

/-- Whether a configuration can be made, and why not, has nothing to do with the secrets. -/
theorem render_alike (alike : client.concealed = client'.concealed) (upstreamUrl : String) (port : Int) :
    Outcome.Alike (fun _ _ => True) (.ofExcept (render sso client cookieSecret upstreamUrl port))
      (.ofExcept (render sso client' cookieSecret' upstreamUrl port)) := by
  have uris : client.redirectUris = client'.redirectUris := client.concealed_eq_iff.1 alike |>.2.1
  unfold render settings
  rw [uris]
  dsimp only
  split
  · exact rfl
  · cases client'.redirectUris with
    | nil => exact rfl
    | cons uri rest => exact trivial

theorem buildDeployment_concealed (ns app fingerprint fingerprint' : String) :
    (buildDeployment sso ns app fingerprint).concealed = (buildDeployment sso ns app fingerprint').concealed := rfl

theorem buildBundle_alike {app url rendered rendered' : String} :
    Outcome.Alike Bundle.Alike (.ofExcept (buildBundle sso app url (secretData rendered)))
      (.ofExcept (buildBundle sso app url (secretData rendered'))) := by
  unfold buildBundle
  cases sso.requireNamespace with
  | error e => exact rfl
  | ok ns => exact ⟨rfl, rfl, rfl, buildDeployment_concealed ns app _ _, rfl⟩

theorem plan_alike (alike : client.concealed = client'.concealed) (upstream : Service) :
    Outcome.Alike Bundle.Alike (.ofExcept (plan sso client cookieSecret upstream))
      (.ofExcept (plan sso client' cookieSecret' upstream)) := by
  unfold plan
  refine Outcome.Alike.except_bind (Outcome.alike_eq_iff.2 rfl) ?_
  rintro url _ rfl
  exact (render_alike alike url port).except_bind fun _ _ _ => buildBundle_alike

theorem revise_alike (alike : client.concealed = client'.concealed) {bundle bundle' : Bundle}
    (bundles : bundle.Alike bundle') :
    Outcome.Alike Bundle.Alike (.ofExcept (revise sso client cookieSecret bundle))
      (.ofExcept (revise sso client' cookieSecret' bundle')) := by
  unfold revise
  rw [← bundles.appName, ← bundles.upstreamUrl]
  exact (render_alike alike _ port).except_bind fun _ _ _ => buildBundle_alike

theorem applySecret_alike {secret secret' : Secret} (alike : secret.concealed = secret'.concealed) :
    Action.Coupled concealing (fun f' _ _ => f' = f) f (Routine.call (.applySecret secret))
      (Routine.call (.applySecret secret')) := by
  have written : (Call.applySecret secret).concealed = (Call.applySecret secret').concealed :=
    congrArg Call.applySecret alike
  exact call_alike written

/-- From now on the fingerprints are those of these deployments. -/
theorem applyDeployment_alike {d d' : Deployment} (alike : d.concealed = d'.concealed) :
    Action.Coupled concealing (fun f' _ _ => f' = (deployedFingerprint? d, deployedFingerprint? d')) f
      (Routine.call (.applyDeployment d)) (Routine.call (.applyDeployment d')) := by
  have written : (Call.applyDeployment d).concealed = (Call.applyDeployment d').concealed :=
    congrArg Call.applyDeployment alike
  exact call_alike written

theorem applyAndWait_alike {ns : String} {bundle bundle' : Bundle} (bundles : bundle.Alike bundle') :
    Action.Coupled concealing (fun _ _ _ => True) f (applyAndWait config sso ns bundle)
      (applyAndWait config sso ns bundle') := by
  refine Action.coupled_bind (applySecret_alike bundles.secret) fun _ _ _ _ => ?_
  refine Action.coupled_bind (applyDeployment_alike bundles.deployment) fun _ _ _ _ => ?_
  rw [bundles.service]
  refine Action.coupled_bind (call_plain (c := .applyService _) (by simp [sensitive])) fun _ _ _ _ => ?_
  refine Action.coupled_bind ((Waiting.forService_confined _ _ _ _).alike (by decide)) fun _ _ _ _ => ?_
  exact (Waiting.forCurrentPods_alike fun _ _ _ => rfl).part.imp fun _ _ _ ended => ended.imp fun _ _ _ => trivial

theorem deploy_alike (alike : client.concealed = client'.concealed) :
    Action.Coupled concealing (fun _ => Bundle.Alike) f (deploy config sso client cookieSecret)
      (deploy config sso client' cookieSecret') := by
  refine Action.coupled_ofExcept_bind fun ns _ => ?_
  refine Action.coupled_bind (call_plain (by simp [sensitive])) ?_
  rintro f found _ ⟨-, rfl⟩
  refine Action.coupled_require_bind fun upstream _ => ?_
  refine Action.coupled_bind (R := fun _ => Bundle.Alike) (.done (plan_alike alike upstream)) ?_
  intro f bundle bundle' bundles
  exact Action.coupled_bind (applyAndWait_alike bundles) fun _ _ _ _ => Action.coupled_pure bundles

/-- The pods that are waited for are those that carry the fingerprint of their run. -/
theorem update_alike (alike : client.concealed = client'.concealed) {bundle bundle' : Bundle}
    (bundles : bundle.Alike bundle') :
    Action.Coupled concealing (fun _ _ _ => True) f (update config sso client cookieSecret bundle)
      (update config sso client' cookieSecret' bundle') := by
  refine Action.coupled_ofExcept_bind fun ns _ => ?_
  refine Action.coupled_bind (R := fun _ => Bundle.Alike) (.done (revise_alike alike bundles)) ?_
  intro f updated updated' updates
  refine Action.coupled_bind (applySecret_alike updates.secret) fun _ _ _ _ => ?_
  refine Action.coupled_bind (applyDeployment_alike updates.deployment) ?_
  rintro _ _ _ rfl
  have name : updated.deployment.metadata = updated'.deployment.metadata :=
    (congrArg Deployment.metadata updates.deployment :)
  rw [name]
  refine Action.coupled_bind Waiting.forDeployment_alike.part ?_
  rintro _ _ _ ⟨rfl, -⟩
  refine Action.coupled_bind (Waiting.forCurrentPods_alike fun pod pod' carried => ?_).part
    fun _ _ _ _ => Action.coupled_pure trivial
  exact Bool.eq_iff_iff.2 (by simpa using carried)

end Proxy
/-! ## Provisioning -/

namespace Provision

/-- The groundwork is the same apart from the cookie secret. -/
def Groundwork.Alike (g g' : Groundwork) : Prop := g.ns = g'.ns ∧ g.account = g'.account

theorem prepare_alike :
    Action.Coupled concealing (fun _ => Groundwork.Alike) f (prepare config sso) (prepare config sso) := by
  refine Action.coupled_ofExcept_bind fun ns _ => ?_
  refine Action.coupled_bind (Action.coupled_mapError (call_plain (by simp [sensitive]))) ?_
  rintro f account _ ⟨-, rfl⟩
  exact Action.coupled_bind (Action.coupled_mapError (CookieSecret.get_alike _)) fun _ _ _ _ =>
    Action.coupled_pure ⟨rfl, rfl⟩

theorem create_alike {g g' : Groundwork} (grounds : g.Alike g') :
    Action.Coupled concealing (fun _ client client' => client.concealed = client'.concealed) f (create sso g)
      (create sso g') := by
  unfold create Step.run
  rw [grounds.1]
  have created : (Call.createClient [Proxy.placeholderRedirectUrl] [] false sso.name "").concealed =
    (Call.createClient [Proxy.placeholderRedirectUrl] [] false sso.name "").concealed := rfl
  exact Action.coupled_mapError (call_concealed created fun _ _ given => given)

theorem arrange_alike {ns account : String} (alike : client.concealed = client'.concealed) :
    Action.Coupled concealing (fun _ _ _ => True) f (arrange config sso ns account cookieSecret client)
      (arrange config sso ns account cookieSecret' client') := by
  refine Action.coupled_bind (Action.coupled_mapError (Proxy.deploy_alike alike)) fun f bundle bundle' bundles => ?_
  rw [bundles.service, bundles.appName]
  refine Action.coupled_bind ((publish_confined _ _ _ _ _).alike (by decide)) fun f _ _ _ => ?_
  refine Action.coupled_bind (Action.coupled_mapError ((resolveHosts_confined _ _).alike (by decide))) ?_
  rintro f hosts _ ⟨-, rfl⟩
  obtain ⟨id, -, trustedPeers, isPublic, name, logoUrl⟩ := OidcClient.concealed_eq_iff.1 alike
  dsimp only
  rw [id, trustedPeers, logoUrl]
  refine Action.coupled_bind (Action.coupled_mapError (call_plain (c := .updateClient _ _ _ _ _) (by simp [sensitive])))
    fun f _ _ _ => ?_
  refine Action.coupled_bind (Action.coupled_mapError (Proxy.update_alike ?_ bundles)) fun f _ _ _ =>
    Action.coupled_pure trivial
  exact OidcClient.concealed_eq_iff.2 ⟨rfl, rfl, rfl, isPublic, name, rfl⟩

theorem complete_alike {g g' : Groundwork} (grounds : g.Alike g') (alike : client.concealed = client'.concealed) :
    Action.Coupled concealing (fun _ => Eq) f (complete config sso g client) (complete config sso g' client') := by
  obtain ⟨id, -⟩ := OidcClient.concealed_eq_iff.1 alike
  have configured : Action.Coupled concealing (fun _ => Eq) f
      (configure config sso g.ns g.account g.cookieSecret client)
      (configure config sso g'.ns g'.account g'.cookieSecret client') := by
    rw [grounds.1, grounds.2, configure_eq, configure_eq]
    refine Action.coupled_bind (arrange_alike alike) fun f _ _ _ => ?_
    unfold conclude finalStatus
    rw [id]
    exact Action.coupled_mapError ((call_plain (c := .patchSsoStatus _ _ _) (by simp [sensitive])).imp
      fun _ _ _ ended => ended.imp fun _ _ => And.right)
  refine Action.coupled_bind (Action.coupled_attempt configured) fun f result result' given => ?_
  rcases result with e | ⟨⟩ <;> rcases result' with e' | ⟨⟩ <;> try exact False.elim given
  · obtain rfl : e = e' := given
    change Action.Coupled concealing _ f (Action.bind (compensate client.id) fun _ => Action.fail e)
      (Action.bind (compensate client'.id) fun _ => Action.fail e)
    rw [id]
    exact Action.coupled_bind ((compensate_confined _).alike (by decide)) fun _ _ _ _ => Action.coupled_fail e
  · exact Action.coupled_pure rfl

theorem run_alike : Action.Coupled concealing (fun _ => Eq) f (run config sso) (run config sso) := by
  rw [run_eq]
  refine Action.coupled_bind prepare_alike fun f g g' grounds => ?_
  exact Action.coupled_bind (create_alike grounds) fun f client client' alike => complete_alike grounds alike

end Provision
/-! ## Two runs -/

namespace OperatorRequest.Alike

variable {r r' : OperatorRequest}

theorem recorded (alike : r.Alike r') (now : Nat) :
    (r.recorded now).map Rehearsal.Recorded.concealed = (r'.recorded now).map Rehearsal.Recorded.concealed := by
  rcases alike.cases with rfl | ⟨c, c', rfl, rfl, same⟩ | ⟨value, value', rfl, rfl⟩
  · rfl
  · exact congrArg (fun call => [(⟨now, call⟩ : Rehearsal.Recorded)]) same
  · rfl

theorem duration (alike : r.Alike r') (delay : Nat) : r'.duration delay = r.duration delay := by
  rcases alike.cases with rfl | ⟨c, c', rfl, rfl, -⟩ | ⟨value, value', rfl, rfl⟩ <;> rfl

theorem isCall (alike : r.Alike r') : r'.isCall = r.isCall := by
  rcases alike.cases with rfl | ⟨c, c', rfl, rfl, -⟩ | ⟨value, value', rfl, rfl⟩ <;> rfl

end OperatorRequest.Alike

/-- Programs that go side by side make the same calls at the same times, apart from what is concealed, if they are given
alike replies. -/
theorem Program.Coupled.abreast {α β : Type} {post : Fingerprints → α → β → Prop} {p : Program Operator α}
    {q : Program Operator β} {supply supply' : Supply} {m m' ended ended' : Moment} {h h' : History Operator} {a : α}
    {b : β} (coupled : Program.Coupled concealing post f p q) (run : p.Runs h a) (run' : q.Runs h' b)
    (attended : Attended supply m h ended) (attended' : Attended supply' m' h' ended')
    (delays : supply'.delay = supply.delay) (abreast : m.Abreast 0 m') (alike : RepliesAlike f h h') :
    (timetable supply.delay m.now m.calls h).map Rehearsal.Recorded.concealed =
        (timetable supply'.delay m'.now m'.calls h').map Rehearsal.Recorded.concealed ∧
      (∃ f', post f' a b) ∧ ended.now = ended'.now := by
  induction coupled generalizing m m' h h' with
  | done final =>
    obtain ⟨rfl, rfl⟩ := Program.runs_done_iff.1 run
    obtain ⟨rfl, rfl⟩ := Program.runs_done_iff.1 run'
    cases attended
    cases attended'
    exact ⟨rfl, ⟨_, final⟩, abreast.now.symm⟩
  | @ask f r r' next next' pair _ ih =>
    obtain ⟨reply, h, rfl, later⟩ := Program.runs_ask_iff.1 run
    obtain ⟨reply', h', rfl, later'⟩ := Program.runs_ask_iff.1 run'
    cases attended with
    | turn answered attended =>
      cases attended' with
      | turn answered' attended' =>
        have pair : OperatorRequest.Alike r r' := pair
        have given : concealing.gives f r r' reply reply' := ⟨alike.1 pair, answered.clocksDiffer answered' abreast⟩
        have onward := answered.abreast answered' abreast delays pair.duration pair.isCall
        obtain ⟨calls, final, same⟩ := ih reply reply' given later later' attended attended' onward alike.2
        refine ⟨?_, final, same⟩
        have now : m'.now = m.now := abreast.now
        rw [answered.timetable_cons, answered'.timetable_cons, List.map_append, List.map_append, calls, now,
          pair.recorded]

/-- **The client secret and the cookie secret go into secrets alone.**  Two provisionings of one SSO that are told the
same apart from these, while the pods that are listed carry the fingerprint of their run in both or in neither, make the
same calls at the same times, apart from the data of secrets and the fingerprint in deployments, and end alike. -/
theorem secrets_go_into_secrets {supply supply' : Supply} {shared shared' : Shared} {now : Nat} {ended ended' : Moment}
    {h h' : History Operator} {o o' : Outcome Unit} (run : Program.Runs (Provision.run config sso) h o)
    (run' : Program.Runs (Provision.run config sso) h' o') (attended : Attended supply ⟨shared, now, 0, 0⟩ h ended)
    (attended' : Attended supply' ⟨shared', now, 0, 0⟩ h' ended') (delays : supply'.delay = supply.delay)
    (alike : RepliesAlike (none, none) h h') :
    (timetable supply.delay now 0 h).map Rehearsal.Recorded.concealed =
        (timetable supply'.delay now 0 h').map Rehearsal.Recorded.concealed ∧
      o = o' ∧ ended.now = ended'.now := by
  have coupled : Action.Coupled concealing (fun _ => Eq) (none, none) (Provision.run config sso)
      (Provision.run config sso) := Provision.run_alike
  obtain ⟨calls, ⟨f, same⟩, time⟩ := coupled.abreast run run' attended attended' delays ⟨rfl, rfl⟩ alike
  exact ⟨calls, Outcome.alike_eq_iff.1 same, time⟩

/-! ### Two runs with different secrets -/

def obligedClient (clientSecret : String) : OidcClient := { Provision.sampleClient with secret := clientSecret }

/-- Every call works at once, and the pods that are listed carry the first fingerprint until the proxy is updated, and
then the last. -/
def obliging (clientSecret : String) (first last : Option String) : Supply where
  outcome n
    | .ensureClusterRoleBinding _ _ => .ok "account"
    | .createClient _ _ _ _ _ => .ok (obligedClient clientSecret)
    | .getService _ _ => .ok (some Provision.sampleService)
    | .getDeployment _ _ => .ok (some Provision.sampleDeployment)
    | .listPods _ _ => .ok [Provision.samplePod (if n < 8 then first else last)]
    | .ingressHosts _ _ => .ok ["app.jx"]
    | .applySecret _ | .applyDeployment _ | .applyService _ | .updateClient _ _ _ _ _ | .patchSsoStatus _ _ _ => .ok ()
    | _ => .error (.config "refused")
  delay _ := 0
  choices _ _ := ⟨0, alphabetSize_pos⟩

namespace Provision

/-- The course of a provisioning for which every call works, with the objects that it applies. -/
def fulfilled (clientSecret cookieSecret : String) (bundle updated : Proxy.Bundle) : History Operator :=
  [⟨.call (.ensureClusterRoleBinding "role" "jx"), .ok "account"⟩, ⟨.enterCell, some cookieSecret⟩] ++
    creation sample (.ok (obligedClient clientSecret)) ::
    ([⟨.call (.getService "jx" "web"), .ok (some sampleService)⟩,
      ⟨.call (.applySecret bundle.secret), .ok ()⟩, ⟨.call (.applyDeployment bundle.deployment), .ok ()⟩,
      ⟨.call (.applyService bundle.service), .ok ()⟩, ⟨.clock, Nat.zero⟩,
      ⟨.call (.getService "jx" bundle.service.metadata.nameAny), .ok (some sampleService)⟩, ⟨.clock, Nat.zero⟩,
      ⟨.call (.listPods "jx" (Labels.podSelector "app")),
        .ok [samplePod (Proxy.deployedFingerprint? bundle.deployment)]⟩,
      ⟨.call (.ingressHosts "jx" bundle.appName), .ok ["app.jx"]⟩,
      ⟨.call (.updateClient "client" (Proxy.hostRedirectUrls ["app.jx"]) [] "app" ""), .ok ()⟩,
      ⟨.call (.applySecret updated.secret), .ok ()⟩, ⟨.call (.applyDeployment updated.deployment), .ok ()⟩,
      ⟨.clock, Nat.zero⟩,
      ⟨.call (.getDeployment "jx" updated.deployment.metadata.nameAny), .ok (some sampleDeployment)⟩,
      ⟨.clock, Nat.zero⟩,
      ⟨.call (.listPods "jx" (Labels.podSelector "app")),
        .ok [samplePod (Proxy.deployedFingerprint? updated.deployment)]⟩] ++
      [conclusion sample "jx" (obligedClient clientSecret) (.ok ())])

theorem exists_fulfilled (clientSecret cookieSecret : String) :
    ∃ bundle updated,
      Program.Runs (run sampleConfig sample) (fulfilled clientSecret cookieSecret bundle updated) (.ok ()) := by
  obtain ⟨bundle, planned⟩ : ∃ bundle,
      Proxy.plan sample (obligedClient clientSecret) cookieSecret sampleService = .ok bundle := ⟨_, rfl⟩
  obtain ⟨updated, revised⟩ : ∃ updated, Proxy.revise sample
      { obligedClient clientSecret with redirectUris := Proxy.hostRedirectUrls ["app.jx"] } cookieSecret bundle =
        .ok updated := ⟨_, rfl⟩
  have running :
      Waiting.podsRunning (fun _ => true) [samplePod (Proxy.deployedFingerprint? bundle.deployment)] = true := rfl
  have current : Waiting.podsRunning
      (fun pod => Proxy.podFingerprint? pod == Proxy.deployedFingerprint? updated.deployment)
      [samplePod (Proxy.deployedFingerprint? updated.deployment)] = true :=
    Waiting.podsRunning_iff.2 ⟨List.cons_ne_nil _ _, List.forall_mem_singleton.2 ⟨beq_self_eq_true _, rfl⟩⟩
  have deployed := Proxy.deploy_runs sampleConfig sampleService rfl planned running Nat.zero Nat.zero
  have placed : sample.requireNamespace = .ok "jx" := rfl
  have settled : Waiting.deploymentStable sampleDeployment = true := rfl
  have rolledOut := Proxy.update_runs sampleConfig placed revised settled current Nat.zero Nat.zero
  have prepared : Program.Runs (prepare sampleConfig sample)
      [⟨.call (.ensureClusterRoleBinding "role" "jx"), .ok "account"⟩, ⟨.enterCell, some cookieSecret⟩]
      (.ok ⟨"jx", "account", cookieSecret⟩) := .turn (.turn (.here _))
  exact ⟨bundle, updated, runs_of_arranged prepared (arrange_ok_iff.2
    ⟨bundle, ["app.jx"], updated, _, [], _, rfl, deployed, .here _, List.cons_ne_nil _ _, rolledOut⟩)⟩

theorem fulfilled_attended (clientSecret cookieSecret : String) (bundle updated : Proxy.Bundle) :
    Attended (obliging clientSecret (Proxy.deployedFingerprint? bundle.deployment)
        (Proxy.deployedFingerprint? updated.deployment))
      ⟨{ cell := .filled cookieSecret }, 0, 0, 0⟩ (fulfilled clientSecret cookieSecret bundle updated)
      ⟨{ cell := .filled cookieSecret }, 0, 15, 0⟩ :=
  .turn ⟨rfl, rfl⟩ <| .turn ⟨_, ⟨rfl, rfl⟩, rfl⟩ <| .turn ⟨rfl, rfl⟩ <| .turn ⟨rfl, rfl⟩ <| .turn ⟨rfl, rfl⟩ <|
    .turn ⟨rfl, rfl⟩ <| .turn ⟨rfl, rfl⟩ <| .turn ⟨rfl, rfl⟩ <| .turn ⟨rfl, rfl⟩ <| .turn ⟨rfl, rfl⟩ <|
    .turn ⟨rfl, rfl⟩ <| .turn ⟨rfl, rfl⟩ <| .turn ⟨rfl, rfl⟩ <| .turn ⟨rfl, rfl⟩ <| .turn ⟨rfl, rfl⟩ <|
    .turn ⟨rfl, rfl⟩ <| .turn ⟨rfl, rfl⟩ <| .turn ⟨rfl, rfl⟩ <| .turn ⟨rfl, rfl⟩ <| .turn ⟨rfl, rfl⟩ <| .none _

/-- The courses of two provisionings with different secrets are given alike replies. -/
theorem fulfilled_repliesAlike (bundle updated bundle' updated' : Proxy.Bundle) :
    RepliesAlike (none, none) (fulfilled "one" "first" bundle updated) (fulfilled "two" "second" bundle' updated') := by
  have carried (bundle bundle' : Proxy.Bundle) :
      List.Forall₂ (fun pod pod' : Pod => pod.phase = pod'.phase ∧
          (Proxy.podFingerprint? pod = Proxy.deployedFingerprint? bundle.deployment ↔
            Proxy.podFingerprint? pod' = Proxy.deployedFingerprint? bundle'.deployment))
        [samplePod (Proxy.deployedFingerprint? bundle.deployment)]
        [samplePod (Proxy.deployedFingerprint? bundle'.deployment)] :=
    .cons ⟨rfl, fun _ => rfl, fun _ => rfl⟩ .nil
  exact ⟨fun _ => HEq.rfl, fun _ => rfl, fun _ => rfl, fun _ => HEq.rfl, fun _ => HEq.rfl, fun _ => HEq.rfl,
    fun _ => HEq.rfl, fun _ => trivial, fun _ => HEq.rfl, fun _ => trivial, fun _ => carried bundle bundle',
    fun _ => HEq.rfl, fun _ => HEq.rfl, fun _ => HEq.rfl, fun _ => HEq.rfl, fun _ => trivial, fun _ => rfl,
    fun _ => trivial, fun _ => carried updated updated', fun _ => HEq.rfl, trivial⟩

theorem different_secrets_kept :
    ∃ bundle updated bundle' updated',
      Program.Runs (run sampleConfig sample) (fulfilled "one" "first" bundle updated) (.ok ()) ∧
      Program.Runs (run sampleConfig sample) (fulfilled "two" "second" bundle' updated') (.ok ()) ∧
      (timetable (fun _ => 0) 0 0 (fulfilled "one" "first" bundle updated)).map Rehearsal.Recorded.concealed =
        (timetable (fun _ => 0) 0 0 (fulfilled "two" "second" bundle' updated')).map Rehearsal.Recorded.concealed := by
  obtain ⟨bundle, updated, run⟩ := exists_fulfilled "one" "first"
  obtain ⟨bundle', updated', run'⟩ := exists_fulfilled "two" "second"
  refine ⟨bundle, updated, bundle', updated', run, run', ?_⟩
  exact (secrets_go_into_secrets run run' (fulfilled_attended _ _ _ _) (fulfilled_attended _ _ _ _) rfl
    (fulfilled_repliesAlike _ _ _ _)).1

end Provision
end SignOnOperator
