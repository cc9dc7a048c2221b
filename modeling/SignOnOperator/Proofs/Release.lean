import SignOnOperator.Proofs.Cleanup
import SignOnOperator.Proofs.Legs
/-!
# Release

Cleaning up after an SSO tries everything that there is to undo and lets go of the SSO in any case.  A clean-up has
three parts, each of which may fail and none of which keeps a later one from being tried: the withdrawal of the service
(`conceal_runs`), the deletion of the client (`dispose_runs`) and the release of the SSO (`letGo_runs`).  Which of their
failures is given back is `Finalizer.conclusion`.
-/
namespace SignOnOperator.Finalizer

variable {config : Config} {sso : Sso} {ns : String}

/-- The calls of a withdrawal: the binding of the role, and then the exposing controller, which cleans up. -/
def withdrawalLegs (config : Config) (sso : Sso) (ns : String) : List Leg :=
  .call (.ensureClusterRoleBinding config.clusterRoleName ns) :: Exposure.legs config sso ns .cleanup

/-- The calls that come to a result: they go through all legs, or they stop with the error. -/
def comingTo (legs : List Leg) : Except Error Unit → Language Answered
  | .ok () => completed legs
  | .error e => stopped e legs

/-- Whether there is a withdrawal to attempt. -/
def isExposed (sso : Sso) : Bool := sso.isInitialized && !sso.spec.skipExposeService

/-- The client that there is to delete. -/
def ownedId? (sso : Sso) : Option String := if sso.isInitialized then sso.clientId? else none

/-- How a clean-up ends: as the release if that failed, else with the first failure of the other two parts, which names
the part. -/
def conclusion (ns name : String) (withdrawn deleted released : Except Error Unit) : Outcome Followup :=
  match released, withdrawn, deleted with
  | .error e, _, _ => .error e
  | .ok (), .error e, _ => .error (.pipeline "cleaning up the proxy exposure" ns name e)
  | .ok (), .ok (), .error e => .error (.pipeline "deleting the OIDC client" ns name e)
  | .ok (), .ok (), .ok () => .ok .awaitChange

/-- The finalizers are written without the mark of the operator. -/
def release (sso : Sso) (ns : String) (released : Except Error Unit) : Turn Operator :=
  ⟨.call (.patchSsoFinalizers ns sso.name (sso.metadata.finalizerList.filter (· ≠ name))), .ofExcept released⟩

/-- A clean-up is counted if all of it has worked. -/
def counting : Outcome Followup → History Operator
  | .ok _ => [⟨.count .cleanedUp, ()⟩]
  | _ => []

theorem withdraw_follows (hns : sso.requireNamespace = .ok ns) :
    Follows (withdrawalLegs config sso ns) (withdraw config sso ns) :=
  (Follows.call _).bind fun account _ _ => Exposure.run_follows .cleanup account hns

/-! ## The three parts -/

/-- A withdrawal with its result; without a service to withdraw nothing is asked for, and nothing can fail. -/
def Withdraws (config : Config) (sso : Sso) (ns : String) (h : History Operator) (withdrawn : Except Error Unit) :
    Prop :=
  if isExposed sso then h.answered ∈ comingTo (withdrawalLegs config sso ns) withdrawn else h = [] ∧ withdrawn = .ok ()

/-- A deletion of the client with its result; without a client nothing is asked for, and nothing can fail. -/
def Disposes (sso : Sso) (h : History Operator) (deleted : Except Error Unit) : Prop :=
  match ownedId? sso with
  | some id => h = [⟨.call (.deleteClient id), .ofExcept deleted⟩]
  | none => h = [] ∧ deleted = .ok ()

/-- The failure of a part, which names the part. -/
def named (step : String) (sso : Sso) (ns : String) (result : Except Error Unit) : Except Error Unit :=
  result.mapError (.pipeline step ns sso.name)

theorem attempt_named_runs {x : Routine Unit} {step : String} {h : History Operator}
    {o : Outcome (Except Error Unit)}
    (ran : Program.Runs ((x.mapError (.pipeline step ns sso.name)).attempt) h o) :
    o = .panic ∨ ∃ result, o = .ok (named step sso ns result) ∧ Program.Runs x h (.ofExcept result) := by
  obtain ⟨o', rfl, mapped⟩ := Action.runs_attempt_iff.1 ran
  obtain ⟨o'', rfl, tried⟩ := Action.runs_mapError_iff.1 mapped
  cases o'' with
  | ok u => exact .inr ⟨.ok u, rfl, tried⟩
  | error e => exact .inr ⟨.error e, rfl, tried⟩
  | panic => exact .inl rfl

theorem withdraw_comingTo (hns : sso.requireNamespace = .ok ns) {h : History Operator} {result : Except Error Unit}
    (ran : Program.Runs (withdraw config sso ns) h (.ofExcept result)) :
    h.answered ∈ comingTo (withdrawalLegs config sso ns) result := by
  cases result with
  | ok u => exact (withdraw_follows hns).completes h u ran
  | error e => exact (withdraw_follows hns).stops h e ran

theorem conceal_runs (hns : sso.requireNamespace = .ok ns) (initialized : sso.isInitialized = true)
    {h : History Operator} {o : Outcome (Except Error Unit)} (ran : Program.Runs (conceal config sso ns) h o) :
    o = .panic ∨ ∃ withdrawn, o = .ok (named exposureStep sso ns withdrawn) ∧ Withdraws config sso ns h withdrawn := by
  unfold conceal at ran
  by_cases skip : sso.spec.skipExposeService = true
  · rw [if_pos skip] at ran
    obtain ⟨rfl, rfl⟩ := Action.runs_pure_iff.1 ran
    refine .inr ⟨.ok (), rfl, ?_⟩
    simp [Withdraws, isExposed, skip]
  · rw [if_neg skip] at ran
    rcases attempt_named_runs ran with rfl | ⟨withdrawn, rfl, tried⟩
    · exact .inl rfl
    · refine .inr ⟨withdrawn, rfl, ?_⟩
      have exposed : isExposed sso = true := by simp [isExposed, initialized, skip]
      rw [Withdraws, if_pos exposed]
      exact withdraw_comingTo hns tried

theorem dispose_runs (initialized : sso.isInitialized = true) {h : History Operator}
    {o : Outcome (Except Error Unit)} (ran : Program.Runs (dispose sso ns) h o) :
    o = .panic ∨ ∃ deleted, o = .ok (named clientStep sso ns deleted) ∧ Disposes sso h deleted := by
  have owned : ownedId? sso = sso.clientId? := if_pos initialized
  unfold dispose at ran
  unfold Disposes
  rw [owned]
  cases hid : sso.clientId? with
  | none =>
    rw [hid] at ran
    obtain ⟨rfl, rfl⟩ := Action.runs_pure_iff.1 ran
    exact .inr ⟨.ok (), rfl, rfl, rfl⟩
  | some id =>
    rw [hid] at ran
    rcases attempt_named_runs ran with rfl | ⟨deleted, rfl, tried⟩
    · exact .inl rfl
    · exact .inr ⟨deleted, rfl, Routine.runs_call_iff.1 tried⟩

/-- What there is to undo is tried, the deletion of the client also if the withdrawal has failed. -/
theorem undo_runs (hns : sso.requireNamespace = .ok ns) {h : History Operator} {o : Outcome (Except Error Unit)}
    (ran : Program.Runs (undo config sso ns) h o) :
    o = .panic ∨ ∃ withdrawal deletion withdrawn deleted, h = withdrawal ++ deletion ∧
      o = .ok (firstFailure (named exposureStep sso ns withdrawn) (named clientStep sso ns deleted)) ∧
      (∀ t ∈ withdrawal, t.kind ∈ withdrawFootprint) ∧ Withdraws config sso ns withdrawal withdrawn ∧
      Disposes sso deletion deleted := by
  unfold undo at ran
  by_cases initialized : sso.isInitialized = true
  · rw [if_pos initialized, teardown_eq] at ran
    rcases Action.runs_bind_iff.1 ran with ⟨_, h₁, h₂, rfl, first, rest⟩ | ⟨e, rfl, first⟩ | ⟨rfl, -⟩
    · rcases conceal_runs hns initialized first with ⟨⟨⟩⟩ | ⟨withdrawn, ⟨⟩, withdraws⟩
      rcases Action.runs_bind_iff.1 rest with ⟨_, h₃, h₄, rfl, second, last⟩ | ⟨e, rfl, second⟩ | ⟨rfl, -⟩
      · rcases dispose_runs initialized second with ⟨⟨⟩⟩ | ⟨deleted, ⟨⟩, disposes⟩
        obtain ⟨rfl, rfl⟩ := Action.runs_pure_iff.1 last
        have turns := (conceal_confined config sso ns).turns first
        exact .inr ⟨h₁, h₃, withdrawn, deleted, by rw [List.append_nil], rfl, turns, withdraws, disposes⟩
      · rcases dispose_runs initialized second with ⟨⟨⟩⟩ | ⟨_, ⟨⟩, _⟩
      · exact .inl rfl
    · rcases conceal_runs hns initialized first with ⟨⟨⟩⟩ | ⟨_, ⟨⟩, _⟩
    · exact .inl rfl
  · rw [if_neg initialized] at ran
    obtain ⟨rfl, rfl⟩ := Action.runs_pure_iff.1 ran
    refine .inr ⟨[], [], .ok (), .ok (), rfl, rfl, List.forall_mem_nil _, ?_, ?_⟩
    · simp [Withdraws, isExposed, initialized]
    · simp [Disposes, ownedId?, initialized]

/-- How the end of a clean-up comes out, given the result of what was undone before. -/
def ending (released result : Except Error Unit) : Outcome Followup :=
  match released, result with
  | .error e, _ => .error e
  | .ok (), .error e => .error e
  | .ok (), .ok () => .ok .awaitChange

/-- The SSO is let go of first; only then the failure of the rest is given back. -/
theorem letGo_runs (hns : sso.requireNamespace = .ok ns) {result : Except Error Unit} {h : History Operator}
    {o : Outcome Followup} (ran : Program.Runs (letGo sso result) h o) :
    o = .panic ∨ ∃ released, h = release sso ns released :: counting o ∧ o = ending released result := by
  have patch : remove sso =
      Routine.call (.patchSsoFinalizers ns sso.name (sso.metadata.finalizerList.filter (· ≠ name))) := by
    unfold remove replace
    rw [hns]
    rfl
  unfold letGo at ran
  rw [patch] at ran
  rcases Action.runs_bind_iff.1 ran with ⟨_, h₁, h₂, rfl, called, rest⟩ | ⟨e, rfl, called⟩ | ⟨rfl, -⟩
  · obtain rfl := Routine.runs_call_iff.1 called
    cases result with
    | ok u =>
      obtain ⟨⟨⟩, h₃, rfl, last⟩ := Action.runs_request_bind_iff.1 rest
      obtain ⟨rfl, rfl⟩ := Action.runs_pure_iff.1 last
      exact .inr ⟨.ok (), rfl, rfl⟩
    | error e =>
      obtain ⟨rfl, rfl⟩ := Action.runs_fail_iff.1 rest
      exact .inr ⟨.ok (), rfl, rfl⟩
  · obtain rfl := Routine.runs_call_iff.1 called
    exact .inr ⟨.error e, rfl, rfl⟩
  · exact .inl rfl

/-! ## The whole -/

theorem ending_eq_conclusion (sso : Sso) (ns : String) (withdrawn deleted released : Except Error Unit) :
    ending released (firstFailure (named exposureStep sso ns withdrawn) (named clientStep sso ns deleted)) =
      conclusion ns sso.name withdrawn deleted released := by
  cases released with
  | error e => rfl
  | ok _ =>
    cases withdrawn with
    | error e => rfl
    | ok _ =>
      cases deleted with
      | error e => rfl
      | ok _ => rfl

theorem counting_kind (o : Outcome Followup) : ∀ t ∈ counting o, t.kind ∈ [RequestKind.count .cleanedUp] := by
  cases o with
  | ok _ => exact List.forall_mem_singleton.2 (List.mem_singleton_self _)
  | error e => exact List.forall_mem_nil _
  | panic => exact List.forall_mem_nil _

theorem Disposes.kind {h : History Operator} {deleted : Except Error Unit} (disposes : Disposes sso h deleted) :
    ∀ t ∈ h, t.kind ∈ [RequestKind.call .deleteClient] := by
  unfold Disposes at disposes
  cases hid : ownedId? sso with
  | none =>
    rw [hid] at disposes
    rw [disposes.1]
    exact List.forall_mem_nil _
  | some id =>
    rw [hid] at disposes
    rw [disposes]
    exact List.forall_mem_singleton.2 (List.mem_singleton_self _)

theorem ofKind_eq_self {h : History Operator} {kind : RequestKind} (hh : ∀ t ∈ h, t.kind ∈ [kind]) :
    h.ofKind kind = h :=
  List.filter_eq_self.2 fun t ht => decide_eq_true (List.mem_singleton.1 (hh t ht))

/-- An SSO that is being deleted and that the operator holds up is cleaned up after in parts. -/
theorem runs_of_marked {key : SsoKey} {h : History Operator} {o : Outcome Followup}
    (hns : sso.requireNamespace = .ok ns) (marked : sso.metadata.isDeleted = true) (held : isHeld sso = true)
    (ran : Program.Runs (Reconcile.admitted config key)
      (⟨.call (.getSso key.namespaceName key.name), .ok (some sso)⟩ :: h) o) :
    Program.Runs (Action.bind (undo config sso ns) (letGo sso)) h o := by
  obtain ⟨found, h', same, rest⟩ := Program.runs_ask_iff.1 ran
  cases same
  have demand : Reconcile.demandOf sso = .cleanup := if_pos marked
  dsimp only [Program.bind] at rest
  rw [demand] at rest
  have demanded : Program.Runs (cleanup config sso) h o := rest
  rw [cleanup_eq, if_pos held, hns] at demanded
  exact demanded

/-- **A clean-up tries everything and always lets go.**  After reading an SSO that is being deleted and that the
operator holds up, the operator withdraws the service if there is one, deletes the client if there is one, and writes
the finalizers without its mark as its last call, whatever came of the former two.  No other call deletes a client or
writes finalizers. -/
theorem cleanup_releases {key : SsoKey} {h : History Operator} {o : Outcome Followup}
    (hns : sso.requireNamespace = .ok ns) (marked : sso.metadata.isDeleted = true) (held : isHeld sso = true)
    (ran : Program.Runs (Reconcile.admitted config key)
      (⟨.call (.getSso key.namespaceName key.name), .ok (some sso)⟩ :: h) o)
    (calm : ∀ t ∈ h, ¬t.IsBreakdown) :
    ∃ withdrawal deletion withdrawn deleted released,
      h = withdrawal ++ (deletion ++ release sso ns released :: counting o) ∧
      h.ofKind (.call .patchSsoFinalizers) = [release sso ns released] ∧ h.ofKind (.call .deleteClient) = deletion ∧
      Withdraws config sso ns withdrawal withdrawn ∧ Disposes sso deletion deleted ∧
      o = conclusion ns sso.name withdrawn deleted released := by
  -- A clean-up breaks down only where a call does.
  have unbroken : o ≠ .panic := by
    rintro rfl
    obtain ⟨t, ht, broke⟩ := (Reconcile.admitted_confined config key).breaks _ ran
    rcases List.mem_cons.1 ht with rfl | ht
    · cases Turn.breaksDown_iff.2 broke
    · exact calm t ht broke
  rcases Action.runs_bind_iff.1 (runs_of_marked hns marked held ran) with
    ⟨result, h₁, h₂, rfl, undone, last⟩ | ⟨e, rfl, undone⟩ | ⟨rfl, -⟩
  · rcases undo_runs hns undone with
      ⟨⟨⟩⟩ | ⟨withdrawal, deletion, withdrawn, deleted, rfl, ⟨⟩, kinds, withdraws, disposes⟩
    rcases letGo_runs hns last with rfl | ⟨released, rfl, ho⟩
    · exact absurd rfl unbroken
    refine ⟨withdrawal, deletion, withdrawn, deleted, released, List.append_assoc .., ?_, ?_, withdraws, disposes,
      ho.trans (ending_eq_conclusion sso ns withdrawn deleted released)⟩
    · have before : ∀ t ∈ withdrawal ++ deletion, t.kind ∈ .call .deleteClient :: withdrawFootprint :=
        List.forall_mem_append.2 ⟨fun t ht => List.mem_cons_of_mem _ (kinds t ht),
          fun t ht => List.mem_cons.2 (.inl (List.mem_singleton.1 (disposes.kind t ht)))⟩
      exact History.ofKind_eq_singleton rfl (History.ofKind_eq_nil before (by decide))
        (History.ofKind_eq_nil (counting_kind o) (by decide))
    · have other : (release sso ns released).kind ≠ .call .deleteClient := by
        change RequestKind.call .patchSsoFinalizers ≠ _
        decide
      have after : History.ofKind (release sso ns released :: counting o) (.call .deleteClient) = [] :=
        (History.ofKind_cons_of_ne other).trans (History.ofKind_eq_nil (counting_kind o) (by decide))
      rw [History.ofKind_append, History.ofKind_append, History.ofKind_eq_nil kinds (by decide),
        ofKind_eq_self disposes.kind, after, List.nil_append, List.append_nil]
  · rcases undo_runs hns undone with ⟨⟨⟩⟩ | ⟨_, _, _, _, _, ⟨⟩, _⟩
  · exact absurd rfl unbroken

/-! ### An SSO of which nothing can be undone -/

/-- An SSO that is being deleted, and that others hold up too. -/
def leaving : Sso where
  metadata := {
    name := some "app", namespaceName := some "jx", deletionTimestamp := some "2024-01-01T00:00:00Z"
    finalizers := some ["first", name, "last"] }
  spec := { Provision.sample.spec with skipExposeService := false }
  status := some { clientId := some "client", initialized := true }

/-- There is no binding of the role, and the identity provider does not answer; the finalizers can be written. -/
def forsaken : History Operator :=
  [⟨.call (.ensureClusterRoleBinding "role" "jx"), .error (.clusterRoleBindingNotFound "role")⟩,
    ⟨.call (.deleteClient "client"), .error (.dexTransport "lost")⟩,
    ⟨.call (.patchSsoFinalizers "jx" "app" ["first", "last"]), .ok ()⟩]

theorem forsaken_runs :
    Program.Runs (Reconcile.admitted Provision.sampleConfig ⟨"jx", "app"⟩)
      (⟨.call (.getSso "jx" "app"), .ok (some leaving)⟩ :: forsaken)
      (.error (.pipeline "cleaning up the proxy exposure" "jx" "app" (.clusterRoleBindingNotFound "role"))) :=
  .turn (.turn (.turn (.turn (.here _))))

theorem forsaken_releases :
    ∃ withdrawal deletion withdrawn deleted released,
      forsaken = withdrawal ++ (deletion ++ [release leaving "jx" released]) ∧
        deletion = [⟨.call (.deleteClient "client"), .ofExcept deleted⟩] ∧
        .error (.pipeline "cleaning up the proxy exposure" "jx" "app" (.clusterRoleBindingNotFound "role")) =
          conclusion "jx" "app" withdrawn deleted released := by
  have calm : ∀ t ∈ forsaken, ¬t.IsBreakdown := by decide
  obtain ⟨withdrawal, deletion, withdrawn, deleted, released, parts, -, -, -, disposes, result⟩ :=
    cleanup_releases rfl rfl rfl forsaken_runs calm
  exact ⟨withdrawal, deletion, withdrawn, deleted, released, parts, disposes, result⟩

end SignOnOperator.Finalizer
