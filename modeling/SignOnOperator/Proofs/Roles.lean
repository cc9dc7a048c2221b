import SignOnOperator.Proofs.Joining
import SignOnOperator.Proofs.Removal
/-!
# Names with different roles

The names of jobs and secrets end in a suffix that says what the object is for.  A suffix that takes at most half of the
room is kept whole, with its dash, behind whatever is left of the base (`joinFragments_of_small`), so objects with
different roles never have one name, however long the names are of which theirs are made (`roles_never_meet`).
-/
namespace SignOnOperator

namespace Naming

variable {base suffix : List Char}

/-- Of any two texts, if the second one is small and ends in no dash. -/
theorem joinFragments_of_small (small : byteCount suffix ≤ (maxLength - 1) / 2) (last : suffix.getLast? ≠ some '-') :
    ∃ front, front <+: base ∧ joinFragments base suffix = front ++ '-' :: suffix := by
  unfold joinFragments shares
  dsimp only
  by_cases fits : byteCount base + byteCount suffix + 1 ≤ maxLength
  · rw [if_pos fits]
    exact ⟨base, List.prefix_rfl, rfl⟩
  · rw [if_neg fits, if_pos small]
    dsimp only
    rw [truncate_of_length_le last (length_le_byteCount suffix)]
    exact ⟨_, truncate_initial, rfl⟩

/-- A suffix by which all names that end in it can be known. -/
structure IsMark (suffix : String) : Prop where
  small : byteCount suffix.toList ≤ (maxLength - 1) / 2
  last : suffix.toList.getLast? ≠ some '-'

theorem IsMark.ends {suffix : String} (mark : IsMark suffix) (base : String) :
    '-' :: suffix.toList <:+ (buildName base suffix).toList := by
  obtain ⟨front, -, joined⟩ := @joinFragments_of_small base.toList _ mark.small mark.last
  rw [toList_buildName, joined]
  exact List.suffix_append front _

/-- Two marks of which neither ends in the other are never on the same name. -/
theorem IsMark.buildName_ne {suffix suffix' : String} (mark : IsMark suffix) (mark' : IsMark suffix')
    (apart : ¬ '-' :: suffix.toList <:+ '-' :: suffix'.toList)
    (apart' : ¬ '-' :: suffix'.toList <:+ '-' :: suffix.toList) (base base' : String) :
    buildName base suffix ≠ buildName base' suffix' := by
  intro same
  have ends := mark.ends base
  rw [same] at ends
  exact (List.suffix_or_suffix_of_suffix ends (mark'.ends base')).elim apart apart'

end Naming

open Naming

variable {config : Config} {a b : Sso} {c : Call} {h : History Operator}

/-! ## Jobs that publish and jobs that withdraw -/

namespace Exposure

theorem jobName_ne (a b : Sso) (n m : String) : jobName a n .expose ≠ jobName b m .cleanup := by
  have exposes : IsMark Mode.expose.name := ⟨by decide, by decide⟩
  have cleansUp : IsMark Mode.cleanup.name := ⟨by decide, by decide⟩
  exact exposes.buildName_ne cleansUp (by decide) (by decide) _ _

end Exposure

theorem Call.kind_of_job? {address : Address} (about : c.job? = some address) : .call c.kind ∈ Exposure.footprint := by
  unfold job? at about
  split at about
  · simp [Exposure.footprint]
  · simp [Exposure.footprint]
  · simp [Exposure.footprint]
  · cases about

/-- A clean-up is about one job, that which withdraws the service. -/
theorem Finalizer.cleanup_asks_job {address : Address} (asked : Program.Asks (cleanup config b) h (.call c))
    (about : c.job? = some address) : ∃ ns, address = (some ns, Exposure.jobName b ns .cleanup) := by
  obtain ⟨ns, account, h', home, -, withdrawing⟩ := cleanup_asks_exposure asked (Call.kind_of_job? about)
  exact ⟨ns, (Exposure.run_asks home withdrawing).address.1 about⟩

/-! ## Secrets of proxies and that of the operator -/

namespace Proxy

variable {client : OidcClient} {cookieSecret url app ns : String} {bundle : Bundle} {s : Kubernetes.Secret}

theorem secretName_ne (a : Sso) : secretName a ≠ CookieSecret.objectName := by
  have mark : IsMark "proxy-config" := ⟨by decide, by decide⟩
  have apart : ¬ '-' :: "proxy-config".toList <:+ CookieSecret.objectName.toList := by decide
  intro same
  have ends := mark.ends a.name
  exact apart (same ▸ ends)

theorem buildBundle_secret {data : KeyMap String} (built : buildBundle a app url data = .ok bundle) :
    bundle.secret.metadata.nameAny = secretName a := by
  obtain ⟨ns, -, rfl⟩ := exists_of_buildBundle built
  rfl

end Proxy

/-- Provisioning applies the secret of the proxy and no other. -/
theorem Provision.asks_applySecret {s : Kubernetes.Secret}
    (asked : Program.Asks (run config a) h (.call (.applySecret s))) : s.metadata.nameAny = Proxy.secretName a := by
  have apart : RequestKind.call .applySecret ∉ asideFootprint := by decide
  obtain ⟨client, cookieSecret, early, late, -, deploying | ⟨bundle, updating⟩⟩ := asks_rollout asked apart
  · obtain ⟨ns, -, ⟨-, ⟨⟩⟩ | ⟨upstream, bundle, _, -, planned, rolling⟩⟩ := Proxy.deploy_asks deploying
    obtain ⟨rendered, -, built⟩ := Proxy.plan_built planned
    cases rolling with
    | secret => exact Proxy.buildBundle_secret built
  · obtain ⟨ns, updated, -, revised, rolling, -⟩ := Proxy.update_asks updating
    obtain ⟨rendered, -, built⟩ := Proxy.revise_built revised
    cases rolling with
    | secret => exact Proxy.buildBundle_secret built

/-- **Names with different roles never meet.**  Whatever two SSOs are called, in whatever namespaces, the job that
publishes the one is not called as the job that withdraws the other, and no secret of a proxy is called as that of the
operator.  So a clean-up never creates, looks for, or deletes a job that publishes, and provisioning never applies the
operator's secret. -/
theorem roles_never_meet (config : Config) (a b : Sso) :
    (∀ n m, Exposure.jobName a n .expose ≠ Exposure.jobName b m .cleanup) ∧
      Proxy.secretName a ≠ CookieSecret.objectName ∧
      (∀ {h c address}, Program.Asks (Finalizer.cleanup config b) h (.call c) → c.job? = some address →
        ∀ n, address.2 ≠ Exposure.jobName a n .expose) ∧
      ∀ {h s}, Program.Asks (Provision.run config a) h (.call (.applySecret s)) →
        s.metadata.nameAny ≠ CookieSecret.objectName := by
  refine ⟨Exposure.jobName_ne a b, Proxy.secretName_ne a, fun asked about n same => ?_, fun asked same => ?_⟩
  · obtain ⟨m, rfl⟩ := Finalizer.cleanup_asks_job asked about
    exact Exposure.jobName_ne a b n m same.symm
  · exact Proxy.secretName_ne a ((Provision.asks_applySecret asked).symm.trans same)

/-! ### A clean-up that waits for its job, and the secret of a proxy -/

theorem sample_roles_apart :
    ∃ h h' s, Program.Asks (Finalizer.cleanup Provision.sampleConfig Exposure.departing) h
        (.call (.getJob "jx" (Exposure.jobName Exposure.departing "jx" .cleanup))) ∧
      Exposure.jobName Exposure.departing "jx" .cleanup ≠ Exposure.jobName Exposure.shown "jx" .expose ∧
      Program.Asks (Provision.run Provision.sampleConfig Exposure.shown) h' (.call (.applySecret s)) ∧
      s.metadata.nameAny ≠ CookieSecret.objectName := by
  have waiting : Program.Asks (Finalizer.cleanup Provision.sampleConfig Exposure.departing)
      [⟨.call (.ensureClusterRoleBinding "role" "jx"), .ok "account"⟩,
        ⟨.call (.applyConfigMap (Exposure.buildConfigMap Exposure.departing "jx" "app")), .ok ()⟩,
        ⟨.call (.createJob (Exposure.buildJob Exposure.departing "jx" "app" "account" .cleanup)), .ok ()⟩,
        ⟨.clock, (0 : Nat)⟩]
      (.call (.getJob "jx" (Exposure.jobName Exposure.departing "jx" .cleanup))) :=
    ⟨_, .turn (.turn (.turn (.turn (.here _))))⟩
  obtain ⟨bundle, planned⟩ : ∃ bundle,
      Proxy.plan Exposure.shown Provision.sampleClient "secret" Provision.sampleService = .ok bundle := ⟨_, rfl⟩
  obtain ⟨_, led⟩ := Provision.asks_plannedService rfl planned
  have applying : Program.Asks (Provision.run Provision.sampleConfig Exposure.shown) _
      (.call (.applySecret bundle.secret)) :=
    Program.Leads.asks (h := [_, _, _, _]) led
  obtain ⟨-, -, cleansUp, provisions⟩ := roles_never_meet Provision.sampleConfig Exposure.shown Exposure.departing
  exact ⟨_, _, _, waiting, cleansUp waiting rfl "jx", applying, provisions applying⟩

end SignOnOperator
