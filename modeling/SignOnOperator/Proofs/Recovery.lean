import SignOnOperator.Proofs.Fulfilment
/-!
# Recovery

What becomes of an SSO once the cluster is faithful, whatever earlier attempts have left behind.  Only a job that was
left over can be in the way.  An attempt that meets one deletes it and fails, and leaves the SSO as ready as it was
(`attend_meets_job`); an attempt whose way is clear initializes the SSO (`attend_initializes`).
-/
namespace SignOnOperator

open Kubernetes
open Rehearsal (Cell)
open Holdings (assures_call assures_call_bind)

variable {config : Config} {event sso : Sso} {key : SsoKey} {shared : Shared} {H : Holdings}

/-- The SSO tells that it is provisioned, under a client that exists. -/
def Holdings.Initialized (H : Holdings) (key : SsoKey) : Prop :=
  ∃ sso id, H.ssos key = some sso ∧ sso.status = some { clientId := some id, initialized := true } ∧
    id ∈ H.clients.map (·.id)

/-! ## The finalizer -/

namespace Finalizer

/-- The SSO with the operator's mark on it. -/
def marked (sso : Sso) : Sso :=
  if isHeld sso then sso else sso.withFinalizers (sso.metadata.finalizerList ++ [name])

/-- The mark shows in the finalizers alone. -/
theorem marked_keeps {β : Type} (f : Sso → β) (keeps : ∀ finalizers, f (sso.withFinalizers finalizers) = f sso) :
    f (marked sso) = f sso := by
  unfold marked
  split
  · rfl
  · exact keeps _

theorem ensure_assures (own : SsoKey.ofSso sso = .ok key) (stored : H.ssos key = some sso) :
    Program.Assures faithful event
      (Outcome.Yields fun _ shared' H' => shared' = shared ∧ H' = H.put key (marked sso))
      (ensure sso) shared H := by
  obtain ⟨home, name⟩ := SsoKey.ofSso_eq_ok_iff.1 own
  unfold ensure marked
  by_cases held : isHeld sso = true
  · rw [if_pos held, if_pos held, Holdings.put_eq_self stored]
    exact ⟨rfl, rfl⟩
  · rw [if_neg held, if_neg held, ← Holdings.edit_eq_put stored fun sso => sso.withFinalizers _]
    refine Action.assures_ofExcept_bind home (assures_call id fun _ _ => ⟨rfl, ?_⟩)
    rw [name]
    rfl

end Finalizer

/-! ## Reconciliation -/

/-- An SSO that is to be provisioned, and can be as far as that does not depend on jobs. -/
structure Recoverable (config : Config) (key : SsoKey) (sso : Sso) (cell : Cell) (H : Holdings) : Prop where
  stored : H.ssos key = some sso
  own : SsoKey.ofSso sso = .ok key
  live : sso.metadata.isDeleted = false
  pending : sso.isInitialized = false
  accepts : Proxy.Accepts sso
  upstream : H.Offers (key.namespaceName, sso.spec.upstreamService)
  secret : CookieSecret.Available config.operatorNamespace cell H

/-- What is provisioned is the SSO as it was read, which in the meantime has got the operator's mark. -/
theorem Recoverable.feasible_marked {cell : Cell} (ready : Recoverable config key sso cell H) :
    Provision.Feasible config sso key.namespaceName cell (H.put key (Finalizer.marked sso)) :=
  ⟨(SsoKey.ofSso_eq_ok_iff.1 ready.own).1, ready.accepts, ready.upstream, ready.secret⟩

namespace Reconcile

open Provision (IsClear exposure)

theorem apply_assures (ready : Recoverable config key sso shared.cell H) (clear : IsClear sso key.namespaceName H) :
    Program.Assures faithful event
      (Outcome.Yields fun followup _ H' => followup = .awaitChange ∧ H'.Initialized key)
      (apply config sso) shared H := by
  obtain ⟨-, name⟩ := SsoKey.ofSso_eq_ok_iff.1 ready.own
  unfold apply
  rw [ready.pending]
  refine Action.assures_bind_yields (Finalizer.ensure_assures ready.own ready.stored) ?_
  rintro _ shared _ ⟨rfl, rfl⟩
  refine Action.assures_bind_yields (Provision.run_assures ready.feasible_marked clear) ?_
  rintro _ shared' H' ⟨id, made, ssos⟩
  have stored : H'.ssos key =
      some ((Finalizer.marked sso).withStatus { clientId := some id, initialized := true }) := by
    rw [ssos, name, Holdings.edit_eq_put (H.put_ssos key _), Holdings.put_ssos]
  refine Routine.assures_request_bind (r := .count .provisioned) (fun _ _ => Iff.rfl) ⟨(), _, rfl⟩ ?_
  rintro _ _ rfl
  exact ⟨rfl, _, id, stored, rfl, made⟩

theorem apply_assures_of_job (ready : Recoverable config key sso shared.cell H)
    (exposed : sso.spec.skipExposeService = false)
    (left : (H.jobs (exposure sso key.namespaceName)).isSome = true) :
    Program.Assures faithful event
      (Outcome.Fails fun e shared' H' => e.IsExposureConflict key.namespaceName key.name ∧
        Recoverable config key (Finalizer.marked sso) shared'.cell H' ∧
        IsClear (Finalizer.marked sso) key.namespaceName H')
      (apply config sso) shared H := by
  obtain ⟨-, name⟩ := SsoKey.ofSso_eq_ok_iff.1 ready.own
  unfold apply
  rw [ready.pending]
  refine Action.assures_bind_yields (Finalizer.ensure_assures ready.own ready.stored) ?_
  rintro _ shared _ ⟨rfl, rfl⟩
  refine Action.assures_bind_fails ((Provision.run_assures_of_job ready.feasible_marked exposed left).imp
    fun _ _ _ => Outcome.Fails.imp ?_)
  rintro e ⟨conflict, known, cleared⟩
  refine ⟨name ▸ conflict, ?_, .inr ?_⟩
  · constructor
    case stored => rw [cleared.ssos, Holdings.put_ssos]
    case own => exact (Finalizer.marked_keeps SsoKey.ofSso fun _ => rfl).trans ready.own
    case live => exact (Finalizer.marked_keeps (·.metadata.isDeleted) fun _ => rfl).trans ready.live
    case pending => exact (Finalizer.marked_keeps Sso.isInitialized fun _ => rfl).trans ready.pending
    case accepts => exact (Finalizer.marked_keeps Proxy.Accepts fun _ => rfl).mpr ready.accepts
    case upstream =>
      refine cleared.offers _ ?_
      rw [Finalizer.marked_keeps (·.spec.upstreamService) fun _ => rfl]
      exact ready.upstream
    case secret => exact .inl known
  · rw [cleared.jobs, Finalizer.marked_keeps (fun sso => exposure sso _) fun _ => rfl]
    exact Function.update_self ..

/-- An SSO that is live is provisioned. -/
theorem admitted_assures {post : Outcome Followup → Shared → Holdings → Prop}
    (ready : Recoverable config key sso shared.cell H)
    (applied : Program.Assures faithful event post (apply config sso) shared H) :
    Program.Assures faithful event post (admitted config key) shared H := by
  refine assures_call_bind id ?_
  rintro _ rfl
  have stored : H.ssos ⟨key.namespaceName, key.name⟩ = some sso := ready.stored
  have demand : demandOf sso = .apply := if_neg (by simp [ready.live])
  rw [stored]
  dsimp only
  rw [demand]
  exact applied

/-- A reconciliation whose key is free does its work with the key in flight, and gives it back. -/
theorem run_assures {post : Outcome Followup → Shared → Holdings → Prop} (own : SsoKey.ofSso event = .ok key)
    (free : key ∉ shared.inFlight.keys)
    (work : ∀ inside : Shared, inside.cell = shared.cell → Program.Assures faithful event
      (fun o shared' => post o { shared' with inFlight := shared'.inFlight.release key }) (admitted config key)
      inside H) :
    Program.Assures faithful event post (run config event) shared H := by
  rw [run_eq]
  refine Routine.assures_ask (r := .count .reconciled) (fun _ _ => Iff.rfl) ⟨(), _, rfl⟩ ?_
  rintro _ _ rfl
  unfold entrance
  rw [own]
  have answered := Shared.exists_answers_acquire (s := { shared with metrics := shared.metrics.count .reconciled })
    (iff_of_true rfl free)
  refine Routine.assures_ask (r := .acquire key) (fun _ _ => Iff.rfl) ⟨true, answered⟩ fun free' inside answers => ?_
  rcases answers.acquire with ⟨rfl, -, -⟩ | ⟨-, taken, -⟩
  · have cell := answers.cell_eq nofun nofun nofun
    refine Program.assures_bind_iff.2 ((work inside cell).imp fun o shared' H' ended => ?_)
    refine Routine.assures_ask (r := .release key) (fun _ _ => Iff.rfl) ⟨(), _, rfl⟩ ?_
    rintro _ _ rfl
    exact ended
  · exact absurd taken free

/-- That a failure is counted changes nothing else. -/
theorem attend_assures {post : Outcome Followup → Shared → Holdings → Prop}
    (ran : Program.Assures faithful event (fun o shared' H' => ∀ metrics, post o { shared' with metrics } H')
      (run config event) shared H) :
    Program.Assures faithful event post (attend config event) shared H := by
  refine Program.assures_bind_iff.2 (ran.imp fun o shared' H' ended => ?_)
  cases o with
  | ok _ => exact ended shared'.metrics
  | panic => exact ended shared'.metrics
  | error e =>
    refine Routine.assures_ask (r := .count .failed) (fun _ _ => Iff.rfl) ⟨(), _, rfl⟩ ?_
    rintro _ _ rfl
    exact ended _

/-- An attempt has initialized the SSO. -/
def HasInitialized (key : SsoKey) (o : Outcome Followup) (H : Holdings) : Prop :=
  o = .ok .awaitChange ∧ H.Initialized key

/-- An attempt has failed since the exposure met a conflict. -/
def HasMetConflict (key : SsoKey) (o : Outcome Followup) : Prop :=
  ∃ e : Error, o = .error e ∧ e.IsExposureConflict key.namespaceName key.name

/-- **An attempt whose way is clear** initializes the SSO. -/
theorem attend_initializes (ready : Recoverable config key sso shared.cell H) (own : SsoKey.ofSso event = .ok key)
    (free : key ∉ shared.inFlight.keys) (clear : IsClear sso key.namespaceName H) :
    Program.Assures faithful event (fun o _ H' => HasInitialized key o H') (attend config event) shared H := by
  refine attend_assures (run_assures own free fun inside cell => ?_)
  have ready' : Recoverable config key sso inside.cell H := cell ▸ ready
  refine admitted_assures ready' ((apply_assures ready' clear).imp fun o _ _ ended _ => ?_)
  cases o with
  | ok followup => exact ⟨congrArg Outcome.ok ended.1, ended.2⟩
  | error _ => exact ended.elim
  | panic => exact ended.elim

/-- **An attempt that meets a job** fails, and the SSO is as ready as it was, with its way clear. -/
theorem attend_meets_job (ready : Recoverable config key sso shared.cell H) (own : SsoKey.ofSso event = .ok key)
    (free : key ∉ shared.inFlight.keys) (exposed : sso.spec.skipExposeService = false)
    (left : (H.jobs (exposure sso key.namespaceName)).isSome = true) :
    Program.Assures faithful event
      (Outcome.Fails fun e shared' H' => e.IsExposureConflict key.namespaceName key.name ∧
        key ∉ shared'.inFlight.keys ∧ Recoverable config key (Finalizer.marked sso) shared'.cell H' ∧
        IsClear (Finalizer.marked sso) key.namespaceName H')
      (attend config event) shared H := by
  refine attend_assures (run_assures own free fun inside cell => ?_)
  have ready' : Recoverable config key sso inside.cell H := cell ▸ ready
  refine admitted_assures ready' ((apply_assures_of_job ready' exposed left).imp fun _ shared' _ ended _ =>
    ended.imp fun _ failed => ?_)
  exact ⟨failed.1, shared'.inFlight.nodup.not_mem_erase, failed.2⟩

/-- **Failed attempts never block an SSO for good.**  Once the cluster is faithful, the next attempt initializes the
SSO, unless the service is to be exposed and a job has been left over that has the name of the one that is to do it:
then, and only then, the attempt fails with that conflict, and the one after it initializes the SSO. -/
theorem failed_attempts_never_block (ready : Recoverable config key sso shared.cell H)
    (own : SsoKey.ofSso event = .ok key) (free : key ∉ shared.inFlight.keys) :
    (attend config event).Sure faithful event (fun o shared' H' =>
      (HasInitialized key o H' ∨ HasMetConflict key o) ∧
        (HasMetConflict key o ↔ sso.spec.skipExposeService = false ∧
          (H.jobs (key.namespaceName, Exposure.jobName sso key.namespaceName .expose)).isSome = true) ∧
        (HasMetConflict key o → ∀ event', SsoKey.ofSso event' = .ok key →
          (attend config event').Sure faithful event' (fun o' _ H'' => HasInitialized key o' H'') shared' H'))
      shared H := by
  refine Program.Assures.sure ?_
  by_cases clear : IsClear sso key.namespaceName H
  · refine (attend_initializes ready own free clear).imp fun o _ H' initialized => ?_
    have unmet : ¬HasMetConflict key o := by
      rintro ⟨_, failed, -⟩
      cases initialized.1.symm.trans failed
    exact ⟨.inl initialized, iff_of_false unmet (Provision.not_isClear_iff.not_right.1 clear),
      fun met => absurd met unmet⟩
  · obtain ⟨exposed, left⟩ := Provision.not_isClear_iff.1 clear
    refine (attend_meets_job ready own free exposed left).imp fun o shared' H' failed => ?_
    cases o with
    | ok _ => exact failed.elim
    | panic => exact failed.elim
    | error e =>
      obtain ⟨conflict, free', ready', clear'⟩ := failed
      have met : HasMetConflict key (.error e) := ⟨e, rfl, conflict⟩
      exact ⟨.inr met, iff_of_true met ⟨exposed, left⟩,
        fun _ event' own' => (attend_initializes ready' own' free' clear').sure⟩

/-! ### An SSO whose way is not clear -/

def exposedSample : Sso :=
  { Provision.sample with spec := { Provision.sample.spec with skipExposeService := false } }

/-- An SSO and its upstream service, and a job that an earlier attempt has left behind. -/
def cluttered : Holdings where
  ssos key := if key = ⟨"jx", "app"⟩ then some exposedSample else none
  services location := if location = ("jx", "web") then some Provision.sampleService else none
  secrets _ := none
  deployments _ := none
  template := none
  jobs location := if location = exposure exposedSample "jx" then some {} else none
  clients := []

theorem cluttered_recoverable : Recoverable Provision.sampleConfig ⟨"jx", "app"⟩ exposedSample .empty cluttered where
  stored := by simp [cluttered]
  own := rfl
  live := rfl
  pending := rfl
  accepts := ⟨Provision.sampleClient, "secret", "http://web:80", _, rfl⟩
  upstream := ⟨Provision.sampleService, _, by simp [cluttered, exposedSample, Provision.sample], rfl⟩
  secret := .inr ⟨rfl, fun _ held => by cases held⟩

theorem cluttered_recovers :
    ∃ h o shared H, Program.Runs (attend Provision.sampleConfig exposedSample) h o ∧
      Serves faithful exposedSample {} cluttered h shared H ∧ HasMetConflict ⟨"jx", "app"⟩ o ∧
        ∃ h' o' shared' H', Program.Runs (attend Provision.sampleConfig Provision.sample) h' o' ∧
          Serves faithful Provision.sample shared H h' shared' H' ∧ HasInitialized ⟨"jx", "app"⟩ o' H' := by
  have own : SsoKey.ofSso exposedSample = .ok ⟨"jx", "app"⟩ := rfl
  have free : ⟨"jx", "app"⟩ ∉ ({} : Shared).inFlight.keys := List.not_mem_nil
  have sure := failed_attempts_never_block cluttered_recoverable own free
  obtain ⟨h, o, shared, H, run, serves⟩ := sure.ends (.here _) (.none _ _)
  obtain ⟨-, met_iff, again⟩ := sure.post run serves
  have met := met_iff.2 ⟨rfl, by simp [cluttered]⟩
  have second := again met Provision.sample rfl
  obtain ⟨h', o', shared', H', run', serves'⟩ := second.ends (.here _) (.none _ _)
  exact ⟨h, o, shared, H, run, serves, met, h', o', shared', H', run', serves', second.post run' serves'⟩

end Reconcile
end SignOnOperator
