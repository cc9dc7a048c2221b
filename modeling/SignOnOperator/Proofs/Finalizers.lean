import SignOnOperator.Proofs.Redelivery
/-!
# The mark among the finalizers

The operator makes no client for an SSO that does not bear its mark, so that no deletion passes it by
(`Reconcile.pursue_asks_createClient`).  And of the finalizers it adds and takes away only its mark: those of others
are still there, in their order, whatever the operator writes (`Stewarded.step`).
-/
namespace SignOnOperator

namespace Finalizer

/-! ## Lists of finalizers -/

/-- The finalizers that are not the operator's. -/
def others (finalizers : List String) : List String := finalizers.filter (· ≠ name)

variable {first finalizers : List String} {sso : Sso} {h : History Operator} {r : OperatorRequest}

theorem name_notMem_others : name ∉ others finalizers := by
  simp [others]

theorem others_eq_self (unmarked : name ∉ finalizers) : others finalizers = finalizers :=
  List.filter_eq_self.2 fun _ hf => decide_eq_true fun is => unmarked (is ▸ hf)

@[simp]
theorem others_others : others (others finalizers) = others finalizers := others_eq_self name_notMem_others

@[simp]
theorem others_concat : others (finalizers ++ [name]) = others finalizers := by
  simp [others]

/-- The finalizers that an SSO may have that had some at first, if only the operator changes them. -/
inductive Kept (first : List String) : List String → Prop where
  | first : Kept first first
  | marked : Kept first (others first ++ [name])
  | released : Kept first (others first)

namespace Kept

theorem others_eq (kept : Kept first finalizers) : others finalizers = others first := by
  cases kept with
  | first => rfl
  | marked => exact others_concat.trans others_others
  | released => exact others_others

/-- Where the mark is missing, adding it comes to the same. -/
theorem concat_eq (kept : Kept first finalizers) (unmarked : name ∉ finalizers) :
    finalizers ++ [name] = others first ++ [name] := by
  rw [← kept.others_eq, others_eq_self unmarked]

end Kept

/-! ## What is asked for -/

theorem asks_replace (asked : Program.Asks (replace sso finalizers) h r) :
    ∃ ns, sso.requireNamespace = .ok ns ∧ h = [] ∧ r = .call (.patchSsoFinalizers ns sso.name finalizers) := by
  obtain ⟨ns, home, asked⟩ := Action.asks_ofExcept_bind_iff.1 asked
  exact ⟨ns, home, Routine.asks_call_iff.1 asked⟩

theorem asks_ensure (asked : Program.Asks (ensure sso) h r) :
    name ∉ sso.metadata.finalizerList ∧ ∃ ns, sso.requireNamespace = .ok ns ∧ h = [] ∧
      r = .call (.patchSsoFinalizers ns sso.name (sso.metadata.finalizerList ++ [name])) := by
  unfold ensure at asked
  split at asked
  next _ => exact absurd asked Program.not_asks_done
  next unmarked => exact ⟨fun marked => unmarked (isHeld_iff.2 marked), asks_replace asked⟩

/-- Where the work goes on, the SSO bears the mark. -/
theorem marked_of_ensure (ran : Program.Runs (ensure sso) h (.ok ())) :
    name ∈ sso.metadata.finalizerList ∨ ∃ ns, sso.requireNamespace = .ok ns ∧
      h = [⟨.call (.patchSsoFinalizers ns sso.name (sso.metadata.finalizerList ++ [name])), .ok ()⟩] := by
  unfold ensure at ran
  split at ran
  next marked => exact .inl (isHeld_iff.1 marked)
  next _ =>
    obtain ⟨ns, home, called⟩ := Action.runs_ofExcept_bind_ok_iff.1 ran
    exact .inr ⟨ns, home, Routine.runs_call_iff.1 called⟩

end Finalizer

/-! ## Failures that are passed on -/

/-- A routine that ends with the error of any call of a kind that fails, as it is. -/
structure PassesOn {α : Type} (kind : CallKind) (x : Routine α) : Prop where
  ends : ∀ {h : History Operator} {c : Call}, c.kind = kind → Program.Asks x h (.call c) →
    ∀ e, Program.Runs x (h ++ [⟨.call c, .error e⟩]) (.error e)

namespace PassesOn

variable {α β : Type} {kind : CallKind}

theorem of_confined {x : Routine α} {kinds : List RequestKind} (confined : Confined kinds x)
    (other : .call kind ∉ kinds) : PassesOn kind x where
  ends hc asked := absurd asked (confined.not_asks (.call kind) (congrArg RequestKind.call hc) other)

theorem pure (a : α) : PassesOn kind (Pure.pure a : Routine α) := of_confined (.pure a) List.not_mem_nil

theorem fail (e : Error) : PassesOn kind (Action.fail e : Routine α) := of_confined (.fail e) List.not_mem_nil

theorem count (c : Counter) : PassesOn kind (Routine.count c) := by
  have confined : Confined [.count c] (Routine.count c) := .request (List.mem_singleton_self _)
  exact of_confined confined (by simp)

theorem ofExcept (result : Except Error α) : PassesOn kind (Action.ofExcept result : Routine α) :=
  of_confined (.ofExcept result) List.not_mem_nil

theorem call (c : Call) : PassesOn kind (Routine.call c) where
  ends hc asked e := by
    obtain ⟨rfl, same⟩ := Routine.asks_call_iff.1 asked
    cases same
    exact Routine.runs_call_iff.2 rfl

theorem bind {x : Routine α} {f : α → Routine β} (hx : PassesOn kind x) (hf : ∀ a, PassesOn kind (f a)) :
    PassesOn kind (x >>= f) where
  ends hc asked e := by
    rcases Action.asks_bind_iff.1 asked with first | ⟨a, h₁, h₂, rfl, ran, later⟩
    · exact Action.runs_bind_iff.2 (.inr (.inl ⟨e, rfl, hx.ends hc first e⟩))
    · exact Action.runs_bind_iff.2 (.inl ⟨a, h₁, _, List.append_assoc .., ran, (hf a).ends hc later e⟩)

theorem branch {c : Prop} [Decidable c] {x y : Routine α} (hx : PassesOn kind x) (hy : PassesOn kind y) :
    PassesOn kind (if c then x else y) := by
  split
  · exact hx
  · exact hy

end PassesOn

/-! ## What is done about an SSO that has been read -/

namespace Finalizer

variable (config : Config) (sso : Sso)

theorem replace_passesOn (finalizers : List String) : PassesOn .patchSsoFinalizers (replace sso finalizers) :=
  (PassesOn.ofExcept _).bind fun _ => .call _

theorem cleanup_passesOn : PassesOn .patchSsoFinalizers (cleanup config sso) := by
  rw [cleanup_eq]
  refine .branch ((PassesOn.ofExcept _).bind fun ns => ?_) (.pure _)
  refine (PassesOn.of_confined (undo_confined config sso ns) (by decide)).bind fun result => ?_
  refine (replace_passesOn sso _).bind fun _ => ?_
  cases result with
  | ok _ => exact (PassesOn.count .cleanedUp).bind fun _ => .pure _
  | error e => exact .fail e

variable {config sso} {h : History Operator} {ns n : String} {finalizers : List String}

theorem cleanup_asks_finalizers
    (asked : Program.Asks (cleanup config sso) h (.call (.patchSsoFinalizers ns n finalizers))) :
    SsoKey.ofSso sso = .ok ⟨ns, n⟩ ∧ finalizers = others sso.metadata.finalizerList := by
  rw [cleanup_eq] at asked
  split at asked
  next _ =>
    obtain ⟨ns', -, asked⟩ := Action.asks_ofExcept_bind_iff.1 asked
    rcases Action.asks_bind_iff.1 asked with undoing | ⟨result, _, h', -, -, asked⟩
    · exact absurd undoing ((undo_confined config sso ns').not_asks (.call .patchSsoFinalizers) rfl (by decide))
    rcases Action.asks_bind_iff.1 asked with removing | ⟨_, _, h', -, -, counting⟩
    · obtain ⟨ns'', home, -, same⟩ := asks_replace removing
      cases same
      exact ⟨SsoKey.ofSso_eq_ok_iff.2 ⟨home, rfl⟩, rfl⟩
    · cases result with
      | ok _ =>
        rcases Action.asks_bind_iff.1 counting with counted | ⟨_, _, _, -, -, ended⟩
        · have confined : Confined [.count .cleanedUp] (Routine.count .cleanedUp) := .request (by decide)
          exact absurd counted (confined.not_asks (.call .patchSsoFinalizers) rfl (by decide))
        · exact absurd ended Program.not_asks_done
      | error e => exact absurd counting Program.not_asks_done
  next _ => exact absurd asked Program.not_asks_done

end Finalizer

namespace Reconcile

variable {config : Config} {sso : Sso} {h : History Operator} {ns n : String} {finalizers : List String}

/-- Provisioning, once the SSO has the mark. -/
def provision (config : Config) (sso : Sso) : Routine Followup := do
  Provision.run config sso
  Routine.count .provisioned
  return .awaitChange

theorem apply_eq (config : Config) (sso : Sso) :
    apply config sso =
      if sso.isInitialized then pure .awaitChange else Finalizer.ensure sso >>= fun _ => provision config sso := rfl

theorem provision_confined (config : Config) (sso : Sso) :
    Confined (.count .provisioned :: Provision.runFootprint) (provision config sso) :=
  ((Provision.run_confined config sso).mono (by decide)).bind fun _ =>
    (Confined.request (r := .count .provisioned) (by decide)).bind fun _ => .pure _

theorem pursue_passesOn (config : Config) (sso : Sso) : PassesOn .patchSsoFinalizers (pursue config sso) := by
  unfold pursue
  cases demandOf sso with
  | cleanup => exact Finalizer.cleanup_passesOn config sso
  | apply =>
    rw [apply_eq]
    refine .branch (.pure _) (PassesOn.bind (.branch (.pure _) (Finalizer.replace_passesOn sso _)) fun _ => ?_)
    exact .of_confined (provision_confined config sso) (by decide)

theorem apply_asks {r : OperatorRequest} (asked : Program.Asks (apply config sso) h r) :
    Program.Asks (Finalizer.ensure sso) h r ∨
      ∃ h₁ h₂, h = h₁ ++ h₂ ∧ Program.Runs (Finalizer.ensure sso) h₁ (.ok ()) ∧
        Program.Asks (provision config sso) h₂ r := by
  rw [apply_eq] at asked
  split at asked
  · exact absurd asked Program.not_asks_done
  · refine (Action.asks_bind_iff.1 asked).imp_right ?_
    rintro ⟨⟨⟩, found⟩
    exact found

theorem pursue_asks_createClient {uris peers : List String} {isPublic : Bool} {url : String}
    (asked : Program.Asks (pursue config sso) h (.call (.createClient uris peers isPublic n url))) :
    Finalizer.name ∈ sso.metadata.finalizerList ∨ ∃ ns, sso.requireNamespace = .ok ns ∧
      ⟨.call (.patchSsoFinalizers ns sso.name (sso.metadata.finalizerList ++ [Finalizer.name])), .ok ()⟩ ∈ h := by
  unfold pursue at asked
  cases demand : demandOf sso with
  | cleanup =>
    rw [demand] at asked
    exact absurd asked ((Finalizer.cleanup_confined config sso).not_asks (.call .createClient) rfl (by decide))
  | apply =>
    rw [demand] at asked
    rcases apply_asks asked with marking | ⟨h₁, h₂, rfl, marked, -⟩
    · exact absurd marking ((Finalizer.ensure_confined sso).not_asks (.call .createClient) rfl (by decide))
    · refine (Finalizer.marked_of_ensure marked).imp_right ?_
      rintro ⟨ns, home, rfl⟩
      exact ⟨ns, home, List.mem_append_left _ (List.mem_singleton_self _)⟩

/-- The finalizers are written with the mark added where it was missing, or without it if the SSO is being deleted. -/
theorem pursue_asks_finalizers
    (asked : Program.Asks (pursue config sso) h (.call (.patchSsoFinalizers ns n finalizers))) :
    SsoKey.ofSso sso = .ok ⟨ns, n⟩ ∧
      (demandOf sso = .apply ∧ Finalizer.name ∉ sso.metadata.finalizerList ∧
          finalizers = sso.metadata.finalizerList ++ [Finalizer.name] ∨
        demandOf sso = .cleanup ∧ finalizers = Finalizer.others sso.metadata.finalizerList) := by
  unfold pursue at asked
  cases demand : demandOf sso with
  | cleanup =>
    rw [demand] at asked
    obtain ⟨own, written⟩ := Finalizer.cleanup_asks_finalizers asked
    exact ⟨own, .inr ⟨rfl, written⟩⟩
  | apply =>
    rw [demand] at asked
    rcases apply_asks asked with marking | ⟨_, h', -, -, later⟩
    · obtain ⟨unmarked, ns, home, -, same⟩ := Finalizer.asks_ensure marking
      cases same
      exact ⟨SsoKey.ofSso_eq_ok_iff.2 ⟨home, rfl⟩, .inl ⟨rfl, unmarked, rfl⟩⟩
    · exact absurd later ((provision_confined config sso).not_asks (.call .patchSsoFinalizers) rfl (by decide))

/-! ## Reconciliations -/

variable {event : Sso} {key : SsoKey} {c : Call}

/-- The turns of a reconciliation that has read an SSO. -/
def since (key : SsoKey) (sso : Sso) (h : History Operator) : History Operator :=
  opening key true ++ key.reading (.ok (some sso)) :: h

/-- Calls are made only by a reconciliation that has its key. -/
theorem Stage.of_call {next : Outcome c.Result → Program Operator (Outcome Followup)}
    (stage : Stage config event h (.ask (I := Operator) (.call c) next)) :
    ∃ key h', SsoKey.ofSso event = .ok key ∧ h = opening key true ++ h' ∧
      Program.Asks (admitted config key) h' (.call c) := by
  generalize hp : (Program.ask (.call c) next : Program Operator (Outcome Followup)) = p at stage
  cases stage with
  | fresh | homeless _ | waiting _ | refused _ | dropped _ | leaving _ _ | ended _ _ => cases hp
  | working hk led =>
    cases hp
    exact ⟨_, _, hk, rfl, _, led⟩

theorem admitted_asks_call (asked : Program.Asks (admitted config key) h (.call c)) :
    (h = [] ∧ c = .getSso key.namespaceName key.name) ∨
      ∃ sso h', h = key.reading (.ok (some sso)) :: h' ∧ Program.Asks (pursue config sso) h' (.call c) := by
  rcases Action.asks_bind_iff.1 asked with reading | ⟨(found : Option Sso), _, h', rfl, read, later⟩
  · obtain ⟨rfl, same⟩ := Routine.asks_call_iff.1 reading
    cases same
    exact .inl ⟨rfl, rfl⟩
  · obtain rfl := Routine.runs_call_iff.1 read
    cases found with
    | none => exact absurd later Program.not_asks_done
    | some sso => exact .inr ⟨sso, h', rfl, later⟩

theorem asks_since (asked : Program.Asks (run config event) (since key sso h) (.call c)) :
    SsoKey.ofSso event = .ok key ∧ Program.Asks (pursue config sso) h (.call c) := by
  obtain ⟨next, led⟩ := asked
  obtain ⟨key', h', own, same, inside⟩ := Stage.of_call ((Stage.start config event).later led)
  obtain ⟨rfl, rfl⟩ := opening_append_inj same
  obtain ⟨nothing, -⟩ | ⟨sso', h', same, asked⟩ := admitted_asks_call inside
  · cases nothing
  · obtain ⟨reading, rfl⟩ := List.cons.inj same
    injection reading with _ reply
    injection reply with found
    injection found with found
    exact ⟨own, found ▸ asked⟩

/-- Once it has done what the SSO asks for, a reconciliation gives its key back. -/
theorem leads_since {o : Outcome Followup} (own : SsoKey.ofSso event = .ok key)
    (ran : Program.Runs (pursue config sso) h o) :
    Program.Leads (run config event) (since key sso h) (leaving key o) := by
  have inside : Program.Runs (admitted config key) (key.reading (.ok (some sso)) :: h) o :=
    Action.runs_bind_iff.2 (.inl ⟨some sso, [_], h, rfl, Routine.runs_call_iff.2 rfl, ran⟩)
  exact (leads_opening own).append (Program.Leads.bind inside (leaving key))

end Reconcile

open Reconcile (since)

/-- **The mark of the operator guards the client** of an SSO that a reconciliation has read. -/
structure Finalizer.Guards (config : Config) (event : Sso) (key : SsoKey) (sso : Sso) : Prop where
  /-- There is no client unless the SSO had the mark when it was read, or has been given it since. -/
  client : ∀ {h : History Operator} {uris peers : List String} {isPublic : Bool} {n url : String},
    Program.Asks (Reconcile.run config event) (since key sso h) (.call (.createClient uris peers isPublic n url)) →
    name ∈ sso.metadata.finalizerList ∨ ∃ ns, sso.requireNamespace = .ok ns ∧
      ⟨.call (.patchSsoFinalizers ns sso.name (sso.metadata.finalizerList ++ [name])), .ok ()⟩ ∈ h
  /-- An SSO that has the mark is provisioned as it is. -/
  once : name ∈ sso.metadata.finalizerList → Reconcile.demandOf sso = .apply →
    ∀ {h : History Operator} {ns n : String} {finalizers : List String}, ¬Program.Asks (Reconcile.run config event)
      (since key sso h) (.call (.patchSsoFinalizers ns n finalizers))
  /-- If the finalizers cannot be written, the key is given back, and that is all. -/
  failed : ∀ {h : History Operator} {ns n : String} {finalizers : List String}, Program.Asks
      (Reconcile.run config event) (since key sso h) (.call (.patchSsoFinalizers ns n finalizers)) →
    ∀ e, Program.Leads (Reconcile.run config event)
      (since key sso (h ++ [⟨.call (.patchSsoFinalizers ns n finalizers), .error e⟩]))
      (.ask (I := Operator) (.release key) fun _ => .done (.error e))

theorem Finalizer.guards (config : Config) (event : Sso) (key : SsoKey) (sso : Sso) :
    Finalizer.Guards config event key sso where
  client asked := Reconcile.pursue_asks_createClient (Reconcile.asks_since asked).2
  once marked demand h ns n finalizers asked := by
    obtain ⟨-, ⟨-, unmarked, -⟩ | ⟨cleanup, -⟩⟩ := Reconcile.pursue_asks_finalizers (Reconcile.asks_since asked).2
    · exact unmarked marked
    · cases demand.symm.trans cleanup
  failed asked e := by
    obtain ⟨own, asked⟩ := Reconcile.asks_since asked
    exact Reconcile.leads_since own ((Reconcile.pursue_passesOn config sso).ends rfl asked e)

/-! ## Finalizers in a store -/

/-- The writing of the finalizers of an SSO. -/
def SsoKey.marking (key : SsoKey) (finalizers : List String) (reply : Outcome Unit) : Turn Operator :=
  ⟨.call (.patchSsoFinalizers key.namespaceName key.name finalizers), reply⟩

namespace SsoStore

/-- Others do anything, but do not write the finalizers of this SSO; they may remove it. -/
def Leaves (key : SsoKey) (store store' : SsoStore) : Prop :=
  store'.Consistent ∧ ∀ sso', store' key = some sso' →
    ∃ sso, store key = some sso ∧ sso'.metadata.finalizerList = sso.metadata.finalizerList

def yielding (key : SsoKey) : Surroundings SsoStore := ⟨Answers, Leaves key⟩

variable {store store' : SsoStore} {key : SsoKey} {event sso' : Sso} {c : Call} {outcome : Outcome c.Result}

theorem of_put {key' : SsoKey} {sso : Sso} (stored : store.put key' sso key = some sso') :
    key' = key ∧ sso' = sso ∨ store key = some sso' := by
  unfold put at stored
  rw [Function.update_apply] at stored
  split at stored
  next same => exact .inl ⟨same.symm, (Option.some.inj stored).symm⟩
  next _ => exact .inr stored

/-- The finalizers of a stored SSO are those of before, or they have just been written. -/
theorem Answers.finalizers_of (answered : Answers store event c outcome store') (stored' : store' key = some sso') :
    (∃ sso, store key = some sso ∧ sso'.metadata.finalizerList = sso.metadata.finalizerList) ∨
      c = .patchSsoFinalizers key.namespaceName key.name sso'.metadata.finalizerList := by
  cases answered with
  | read _ _ | other _ _ | failed _ => exact .inl ⟨sso', stored', rfl⟩
  | status stored _ =>
    rcases of_put stored' with ⟨rfl, rfl⟩ | stored'
    · exact .inl ⟨_, stored, rfl⟩
    · exact .inl ⟨sso', stored', rfl⟩
  | finalizers stored _ =>
    rcases of_put stored' with ⟨rfl, rfl⟩ | stored'
    · exact .inr rfl
    · exact .inl ⟨sso', stored', rfl⟩

theorem Answers.finalizers_written {finalizers : List String}
    (answered : Answers store event (.patchSsoFinalizers key.namespaceName key.name finalizers) (.ok ()) store') :
    ∃ sso', store' key = some sso' ∧ sso'.metadata.finalizerList = finalizers := by
  cases answered with
  | finalizers stored _ => exact ⟨_, put_self, rfl⟩
  | other hc _ => exact absurd (by simp [Attention.tracked]) hc
  | failed fails => exact absurd rfl (fails ())

end SsoStore

section

variable {config : Config} {key : SsoKey} {s s' : System SsoStore} {l : Label}

theorem Step.consistent (step : Step config (SsoStore.yielding key) s l s') (consistent : s.env.Consistent) :
    s'.env.Consistent := by
  cases step with
  | arrives event => exact consistent
  | drifts drift => exact drift.1
  | @proceeds _ _ r _ _ _ _ _ _ _ taken =>
    cases r with
    | call c => exact SsoStore.Answers.consistent taken consistent
    | _ =>
      cases taken
      exact consistent

theorem Step.finalizers_of {sso' : Sso} (step : Step config (SsoStore.yielding key) s l s')
    (stored' : s'.env key = some sso') :
    (∃ sso, s.env key = some sso ∧ sso'.metadata.finalizerList = sso.metadata.finalizerList) ∨
      ∃ i reply, l = .proceeds i (key.marking sso'.metadata.finalizerList reply) := by
  cases step with
  | arrives event => exact .inl ⟨sso', stored', rfl⟩
  | drifts drift => exact .inl (drift.2 sso' stored')
  | @proceeds i _ r _ reply _ _ _ _ _ taken =>
    cases r with
    | call c =>
      refine (SsoStore.Answers.finalizers_of taken stored').imp_right ?_
      rintro rfl
      exact ⟨i, reply, rfl⟩
    | _ =>
      cases taken
      exact .inl ⟨sso', stored', rfl⟩

end

/-- **An SSO whose finalizers nobody but the operator writes**: what is stored, and what has been read at any time, are
those that it had at first, or what the operator makes of them. -/
structure Stewarded (config : Config) (key : SsoKey) (first : List String) (s : System SsoStore) : Prop where
  staged : ∀ t ∈ s.tasks, t.Staged config
  consistent : s.env.Consistent
  stored : ∀ sso, s.env key = some sso → Finalizer.Kept first sso.metadata.finalizerList
  read : ∀ t ∈ s.tasks, ∀ key' sso, key'.reading (.ok (some sso)) ∈ t.history →
    SsoKey.ofSso sso = .ok key' ∧ (key' = key → Finalizer.Kept first sso.metadata.finalizerList)

namespace Stewarded

variable {config : Config} {key : SsoKey} {first finalizers : List String} {s s' : System SsoStore} {l : Label}
  {ls before later : List Label} {i : Nat} {reply : Outcome Unit}

theorem start {sso : Sso} (idle : s.tasks = []) (consistent : s.env.Consistent) (stored : s.env key = some sso) :
    Stewarded config key sso.metadata.finalizerList s := by
  refine ⟨?_, consistent, ?_, ?_⟩
  · rw [idle]
    exact List.forall_mem_nil _
  · intro sso' stored'
    cases stored.symm.trans stored'
    exact .first
  · rw [idle]
    exact List.forall_mem_nil _

/-- Whatever was read, the finalizers are written as those of others, with the mark or without it. -/
theorem written (stewarded : Stewarded config key first s)
    (step : Step config (SsoStore.yielding key) s (.proceeds i (key.marking finalizers reply)) s') :
    finalizers = Finalizer.others first ++ [Finalizer.name] ∨ finalizers = Finalizer.others first := by
  cases step with
  | @proceeds _ t _ _ _ _ _ ht asks _ _ =>
    have mem : t ∈ s.tasks := List.mem_of_getElem? ht
    have stage : Reconcile.Stage config t.event t.history t.rest := stewarded.staged t mem
    rw [asks] at stage
    obtain ⟨key', h, -, history, inside⟩ := stage.of_call
    obtain ⟨-, ⟨⟩⟩ | ⟨sso, h', rfl, asked⟩ := Reconcile.admitted_asks_call inside
    have reading : key'.reading (.ok (some sso)) ∈ t.history := by
      rw [history]
      exact List.mem_append_right _ List.mem_cons_self
    obtain ⟨own', kept⟩ := stewarded.read t mem key' sso reading
    obtain ⟨own, how⟩ := Reconcile.pursue_asks_finalizers asked
    have kept := kept (Except.ok.inj (own'.symm.trans own))
    rcases how with ⟨-, unmarked, rfl⟩ | ⟨-, rfl⟩
    · exact .inl (kept.concat_eq unmarked)
    · exact .inr kept.others_eq

theorem step (stewarded : Stewarded config key first s) (step : Step config (SsoStore.yielding key) s l s') :
    Stewarded config key first s' := by
  have stored : ∀ sso, s'.env key = some sso → Finalizer.Kept first sso.metadata.finalizerList := by
    intro sso' stored'
    rcases step.finalizers_of stored' with ⟨sso, stored, same⟩ | ⟨i, reply, rfl⟩
    · exact same ▸ stewarded.stored sso stored
    · rcases stewarded.written step with written | written
      · exact written ▸ .marked
      · exact written ▸ .released
  have consistent := step.consistent stewarded.consistent
  cases step with
  | arrives event =>
    refine ⟨?_, consistent, stored, ?_⟩
    · exact List.forall_mem_append.2
        ⟨stewarded.staged, List.forall_mem_singleton.2 (Task.staged_start config event)⟩
    · exact List.forall_mem_append.2 ⟨stewarded.read, List.forall_mem_singleton.2 fun _ _ => nofun⟩
  | drifts _ => exact ⟨stewarded.staged, consistent, stored, stewarded.read⟩
  | @proceeds i t r next reply shared env ht asks answered taken =>
    have mem : t ∈ s.tasks := List.mem_of_getElem? ht
    refine ⟨fun u hu => ?_, consistent, stored, fun u hu key' sso reading => ?_⟩
    · rcases List.mem_or_eq_of_mem_set hu with old | rfl
      · exact stewarded.staged u old
      · exact (stewarded.staged t mem).after asks reply
    · rcases List.mem_or_eq_of_mem_set hu with old | rfl
      · exact stewarded.read u old key' sso reading
      rcases List.mem_append.1 reading with before | now
      · exact stewarded.read t mem key' sso before
      · -- What has just been read is what is stored.
        cases List.mem_singleton.1 now
        obtain ⟨rfl, found⟩ := SsoStore.Answers.of_getSso taken
        have found := (found _ rfl).symm
        exact ⟨stewarded.consistent _ _ found, fun same => stewarded.stored sso (same ▸ found)⟩

theorem run (stewarded : Stewarded config key first s) (run : Run config (SsoStore.yielding key) s ls s') :
    Stewarded config key first s' :=
  run.keeps (fun stewarded step => stewarded.step step) stewarded

/-- Whether the mark is added or taken away, each time the same is written. -/
theorem written_eq (stewarded : Stewarded config key first s) (run : Run config (SsoStore.yielding key) s ls s')
    (mem : .proceeds i (key.marking finalizers reply) ∈ ls) :
    finalizers = if Finalizer.name ∈ finalizers then Finalizer.others first ++ [Finalizer.name]
      else Finalizer.others first := by
  obtain ⟨_, m, _, _, earlier, step, -⟩ := run_of_mem run mem
  rcases (stewarded.run earlier).written step with rfl | rfl
  · exact (if_pos (by simp)).symm
  · exact (if_neg Finalizer.name_notMem_others).symm

theorem unchanged (run : Run config (SsoStore.yielding key) s ls s')
    (same : ∀ i finalizers' reply, .proceeds i (key.marking finalizers' reply) ∈ ls → finalizers' = finalizers)
    (there : ∀ sso, s.env key = some sso → sso.metadata.finalizerList = finalizers) :
    ∀ sso, s'.env key = some sso → sso.metadata.finalizerList = finalizers := by
  induction run with
  | none _ => exact there
  | step first _ ih =>
    refine ih (fun i finalizers' reply mem => same i finalizers' reply (List.mem_cons_of_mem _ mem)) ?_
    intro sso' stored'
    rcases first.finalizers_of stored' with ⟨sso, stored, kept⟩ | ⟨i, reply, rfl⟩
    · exact kept.trans (there sso stored)
    · exact same i _ reply List.mem_cons_self

/-- What has been written last is there, however often it was written. -/
theorem lasts (stewarded : Stewarded config key first s)
    (run : Run config (SsoStore.yielding key) s (before ++ .proceeds i (key.marking finalizers (.ok ())) :: later) s')
    (alike : ∀ j finalizers' reply, .proceeds j (key.marking finalizers' reply) ∈ later →
      (Finalizer.name ∈ finalizers' ↔ Finalizer.name ∈ finalizers)) :
    ∀ sso, s'.env key = some sso → sso.metadata.finalizerList = finalizers := by
  obtain ⟨m, earlier, rest⟩ := run_append_iff.1 run
  have stewarded := stewarded.run earlier
  have same : ∀ j finalizers' reply, .proceeds j (key.marking finalizers' reply) ∈ later →
      finalizers' = finalizers := by
    intro j finalizers' reply mem
    have now := stewarded.written_eq rest List.mem_cons_self
    have again := stewarded.written_eq rest (List.mem_cons_of_mem _ mem)
    rw [again, now]
    exact if_congr (alike j finalizers' reply mem) rfl rfl
  rcases rest with _ | ⟨step, rest⟩
  refine unchanged rest same ?_
  cases step with
  | proceeds _ _ _ taken =>
    obtain ⟨sso', stored', written⟩ := SsoStore.Answers.finalizers_written taken
    intro sso stored
    cases stored.symm.trans stored'
    exact written

end Stewarded

/-- **The finalizers of others survive** in a run that begins while an SSO has these ones. -/
structure Finalizer.Survive (key : SsoKey) (first : List String) (ls : List Label) (s : System SsoStore) : Prop where
  /-- They are there at any time, in their order. -/
  kept : ∀ sso, s.env key = some sso → others sso.metadata.finalizerList = others first
  /-- Whenever the operator writes finalizers, it writes those of others, and nothing but its mark besides. -/
  written : ∀ i finalizers reply, .proceeds i (key.marking finalizers reply) ∈ ls →
    finalizers = if name ∈ finalizers then others first ++ [name] else others first
  /-- Once the mark has been added, adding it again changes nothing. -/
  marked : ∀ before i finalizers later, ls = before ++ .proceeds i (key.marking finalizers (.ok ())) :: later →
    name ∈ finalizers → (∀ j again reply, .proceeds j (key.marking again reply) ∈ later → name ∈ again) →
    ∀ sso, s.env key = some sso → sso.metadata.finalizerList = others first ++ [name]
  /-- Once it has been taken away, what is there is what others have put there. -/
  released : ∀ before i finalizers later, ls = before ++ .proceeds i (key.marking finalizers (.ok ())) :: later →
    name ∉ finalizers → (∀ j again reply, .proceeds j (key.marking again reply) ∈ later → name ∉ again) →
    ∀ sso, s.env key = some sso → sso.metadata.finalizerList = others first

/-- **The mark guards the client, and the finalizers of others survive.**  A reconciliation makes a client only for an
SSO that bears the mark, whatever it is answered.  And in every session over a store in which nobody else writes the
finalizers of an SSO, whichever calls fail, the operator leaves those of others as they are. -/
theorem mark_guards_and_others_survive (config : Config) :
    (∀ (event : Sso) (key : SsoKey) (sso : Sso), Finalizer.Guards config event key sso) ∧
    ∀ (key : SsoKey) (sso : Sso) (start s : System SsoStore) (ls : List Label),
      start.tasks = [] → start.env.Consistent → start.env key = some sso →
      Run config (SsoStore.yielding key) start ls s → Finalizer.Survive key sso.metadata.finalizerList ls s := by
  refine ⟨Finalizer.guards config, fun key sso start s ls idle consistent stored run => ?_⟩
  have stewarded : Stewarded config key sso.metadata.finalizerList start := .start idle consistent stored
  constructor
  case kept => exact fun sso stored => ((stewarded.run run).stored sso stored).others_eq
  case written => exact fun i finalizers reply mem => stewarded.written_eq run mem
  case marked =>
    rintro before i finalizers later rfl added again sso stored
    have there := stewarded.lasts run (fun j _ reply mem => iff_of_true (again j _ reply mem) added) sso stored
    have now := stewarded.written_eq run (List.mem_append_right _ List.mem_cons_self)
    exact there.trans (now.trans (if_pos added))
  case released =>
    rintro before i finalizers later rfl removed again sso stored
    have there := stewarded.lasts run (fun j _ reply mem => iff_of_false (again j _ reply mem) removed) sso stored
    have now := stewarded.written_eq run (List.mem_append_right _ List.mem_cons_self)
    exact there.trans (now.trans (if_neg removed))

/-! ### An SSO that others hold up too, one of them twice -/

namespace Finalizer

def twice : List String := ["first", "last", "first"]

def live : Sso :=
  { Provision.sample with metadata := { Provision.sample.metadata with finalizers := some twice } }

/-- The SSO with the mark, when somebody has asked for its deletion. -/
def condemned : Sso :=
  { live with
    metadata := { live.withFinalizers (twice ++ [name]) |>.metadata with
      deletionTimestamp := some "2024-01-01T00:00:00Z" } }

def shelved (sso : Sso) : SsoStore := SsoStore.put (fun _ => none) sampleKey sso

theorem shelved_consistent {sso : Sso} (own : SsoKey.ofSso sso = .ok sampleKey) : (shelved sso).Consistent := by
  have empty : SsoStore.Consistent fun _ => none := fun _ _ => nofun
  exact empty.put own

theorem shelved_self (sso : Sso) : shelved sso sampleKey = some sso := SsoStore.put_self

theorem shelved_read (sso : Sso) :
    (shelved sso).Answers Provision.sample (.getSso "jx" "app") (.ok (some sso)) (shelved sso) :=
  shelved_self sso ▸ .read "jx" "app"

def shelvedMarked : SsoStore := (shelved live).put sampleKey (live.withFinalizers (twice ++ [name]))

theorem condemned_leaves : SsoStore.Leaves sampleKey shelvedMarked (shelved condemned) := by
  refine ⟨shelved_consistent rfl, fun sso' there => ⟨_, SsoStore.put_self, ?_⟩⟩
  cases (shelved_self condemned).symm.trans there
  rfl

/-- The SSO is given the mark, and then provisioning fails. -/
def marking : History Operator :=
  [sampleKey.reading (.ok (some live)), sampleKey.marking (twice ++ [name]) (.ok ()),
    ⟨.call (.ensureClusterRoleBinding "role" "jx"), .error (.clusterRoleBindingNotFound "role")⟩,
    ⟨.release sampleKey, ()⟩]

/-- The SSO is found to be deleted, and let go of. -/
def lettingGo : History Operator :=
  [sampleKey.reading (.ok (some condemned)), sampleKey.marking twice (.ok ()), ⟨.count .cleanedUp, ()⟩,
    ⟨.release sampleKey, ()⟩]

def entered : Task :=
  ⟨Provision.sample, Reconcile.opening sampleKey true,
    Program.bind (Reconcile.admitted Provision.sampleConfig sampleKey) (Reconcile.leaving sampleKey)⟩

def failed : Task :=
  ⟨Provision.sample, Reconcile.opening sampleKey true ++ marking,
    .done (.error (.pipeline "binding the operator cluster role" "jx" "app" (.clusterRoleBindingNotFound "role")))⟩

/-- The operator when a reconciliation has failed, over some store. -/
def afterFailure (env : SsoStore) : System SsoStore :=
  ⟨{ inFlight := (InFlight.only sampleKey).release sampleKey, metrics := { reconciled := 1 } }, env, [failed]⟩

theorem marking_run :
    ∃ opening, Run Provision.sampleConfig (SsoStore.yielding sampleKey) ⟨{}, shelved live, []⟩
      (opening ++ marking.map (.proceeds 0)) (afterFailure shelvedMarked) := by
  have own : SsoKey.ofSso Provision.sample = .ok sampleKey := rfl
  let begun : System SsoStore :=
    ⟨{ inFlight := .only sampleKey, metrics := { reconciled := 1 } }, shelved live, [entered]⟩
  have begins : Run Provision.sampleConfig (SsoStore.yielding sampleKey) ⟨{}, shelved live, []⟩ _ begun :=
    run_admission own rfl
  exact ⟨_, run_append_iff.2 ⟨begun, begins, Serves.run Provision.sampleConfig (s := begun) (i := 0) (h := marking) rfl
    (.turn (.turn (.turn (.turn (.here _)))))
    (.turn rfl (shelved_read live) (.turn rfl (.finalizers (shelved_self live) (.ok ()))
      (.turn rfl (.failed nofun) (.turn rfl rfl (.none _ _)))))⟩⟩

theorem lettingGo_run :
    ∃ ls s, Run Provision.sampleConfig (SsoStore.yielding sampleKey) (afterFailure (shelved condemned))
        (ls ++ lettingGo.map (.proceeds 1)) s ∧
      s.env = (shelved condemned).put sampleKey (condemned.withFinalizers twice) := by
  have own : SsoKey.ofSso Provision.sample = .ok sampleKey := rfl
  have free : (InFlight.only sampleKey).release sampleKey = .empty := by
    simp [InFlight.only, InFlight.release, InFlight.empty]
  let begun : System SsoStore :=
    ⟨{ inFlight := .only sampleKey, metrics := { reconciled := 2 } }, shelved condemned, [failed, entered]⟩
  have begins : Run Provision.sampleConfig (SsoStore.yielding sampleKey) (afterFailure (shelved condemned)) _ begun :=
    run_admission own free
  exact ⟨_, _, run_append_iff.2 ⟨begun, begins, Serves.run Provision.sampleConfig (s := begun) (i := 1)
    (h := lettingGo) rfl (.turn (.turn (.turn (.turn (.here _)))))
    (.turn rfl (shelved_read condemned) (.turn rfl (.finalizers (shelved_self condemned) (.ok ()))
      (.turn rfl rfl (.turn rfl rfl (.none _ _)))))⟩, rfl⟩

/-- The mark is given by one reconciliation, which fails, and taken away by the next one, after somebody has asked for
the deletion. -/
theorem twice_survives :
    ∃ opening reopening s sso, Run Provision.sampleConfig (SsoStore.yielding sampleKey) ⟨{}, shelved live, []⟩
        ((opening ++ marking.map (.proceeds 0)) ++ .drifts :: (reopening ++ lettingGo.map (.proceeds 1))) s ∧
      s.env sampleKey = some sso ∧ sso.metadata.finalizerList = twice := by
  obtain ⟨opening, marks⟩ := marking_run
  obtain ⟨reopening, s, ends, stored⟩ := lettingGo_run
  have run := run_append_iff.2 ⟨_, marks, .step (.drifts condemned_leaves) ends⟩
  obtain ⟨-, survive⟩ := mark_guards_and_others_survive Provision.sampleConfig
  have survived := survive sampleKey live _ _ _ rfl (shelved_consistent rfl) (shelved_self live) run
  have there : s.env sampleKey = some (condemned.withFinalizers twice) := stored ▸ SsoStore.put_self
  have labels : (opening ++ marking.map (.proceeds 0)) ++ .drifts :: (reopening ++ lettingGo.map (.proceeds 1)) =
      ((opening ++ marking.map (.proceeds 0)) ++
        .drifts :: (reopening ++ [.proceeds 1 (sampleKey.reading (.ok (some condemned)))])) ++
        .proceeds 1 (sampleKey.marking twice (.ok ())) ::
          [.proceeds 1 ⟨.count .cleanedUp, ()⟩, .proceeds 1 ⟨.release sampleKey, ()⟩] := by
    simp [lettingGo]
  refine ⟨opening, reopening, s, _, run, there, survived.released _ 1 twice _ labels (by decide) ?_ _ there⟩
  intro j again reply later
  rcases List.mem_cons.1 later with ⟨⟨⟩⟩ | last
  cases List.mem_singleton.1 last

end Finalizer
end SignOnOperator
