import SignOnOperator.Proofs.Legs
/-!
# The pipeline

Provisioning goes through its steps in their order, and a failure names the step in which it happened.  The itinerary
of the whole is that of its steps (`itinerary`); what a routine that is made of steps leaves behind when it fails is
the way through the steps before, a part of the step that failed, and that step in its error (`Advances`).
-/
namespace SignOnOperator.Provision

/-- The steps in their order. -/
def Step.all : List Step :=
  [bindRole, loadCookieSecret, createClient, deployProxy, exposeService, resolveHosts, updateClient, updateProxy,
    updateStatus]

/-- The calls that belong to a step for an SSO. -/
def Step.legs (config : Config) (sso : Sso) (ns : String) : Step → List Leg
  | bindRole => [.call (.ensureClusterRoleBinding config.clusterRoleName ns)]
  | loadCookieSecret => [CookieSecret.loading config.operatorNamespace]
  | createClient => [.call (.createClient [Proxy.placeholderRedirectUrl] [] false sso.name "")]
  | deployProxy => Proxy.deployLegs config sso ns
  | exposeService => if sso.spec.skipExposeService then [] else Exposure.legs config sso ns .expose
  | resolveHosts => [hostsLeg ns]
  | updateClient =>
    [.any fun client : OidcClient =>
      .call (.updateClient client.id client.redirectUris client.trustedPeers sso.name client.logoUrl)]
  | updateProxy => Proxy.updateLegs config sso ns
  | updateStatus => [.any fun client : OidcClient => .call (.patchSsoStatus ns sso.name (finalStatus client))]

/-- The calls that belong to some steps, one step after the other. -/
def itinerary (config : Config) (sso : Sso) (ns : String) (steps : List Step) : List Leg :=
  steps.flatMap (Step.legs config sso ns)

variable {config : Config} {sso : Sso} {ns : String} {α β : Type}

theorem itinerary_append (steps steps' : List Step) :
    itinerary config sso ns (steps ++ steps') = itinerary config sso ns steps ++ itinerary config sso ns steps' :=
  List.flatMap_append

/-- The calls have stopped in one of the steps, after going through those before it, and the error names that step. -/
def StopsIn (config : Config) (sso : Sso) (ns : String) (steps : List Step) (e : Error) (w : List Answered) : Prop :=
  ∃ before step after source, steps = before ++ step :: after ∧ e = .pipeline step.name ns sso.name source ∧
    w ∈ completed (itinerary config sso ns before) * stopped source (step.legs config sso ns)

theorem StopsIn.append_right {steps : List Step} {e : Error} {w : List Answered}
    (h : StopsIn config sso ns steps e w) (steps' : List Step) : StopsIn config sso ns (steps ++ steps') e w := by
  obtain ⟨before, step, after, source, rfl, he, hw⟩ := h
  exact ⟨before, step, after ++ steps', source, by simp, he, hw⟩

theorem StopsIn.append_left {steps steps' : List Step} {e : Error} {w w' : List Answered}
    (hw : w ∈ completed (itinerary config sso ns steps)) (h : StopsIn config sso ns steps' e w') :
    StopsIn config sso ns (steps ++ steps') e (w ++ w') := by
  obtain ⟨before, step, after, source, rfl, he, hw'⟩ := h
  refine ⟨steps ++ before, step, after, source, by simp, he, ?_⟩
  rw [itinerary_append, completed_append, mul_assoc]
  exact Language.append_mem_mul hw hw'

/-- What has stopped in one of the steps comes along the route of all. -/
theorem StopsIn.comesAlong {steps : List Step} {e : Error} {w : List Answered}
    (h : StopsIn config sso ns steps e w) : ComesAlong (route (itinerary config sso ns steps)) (callsOf w) := by
  obtain ⟨before, step, after, source, rfl, -, hw⟩ := h
  have rest : stopped source (step.legs config sso ns) ≤ stopped source (itinerary config sso ns (step :: after)) :=
    le_of_le_of_eq le_sup_left (stopped_append source (step.legs config sso ns) _).symm
  have whole : completed (itinerary config sso ns before) * _ ≤ completed _ * _ := mul_le_mul_right rest _
  have stop : w ∈ stopped source (itinerary config sso ns (before ++ step :: after)) := by
    rw [itinerary_append, stopped_append]
    exact .inr (whole hw)
  exact comesAlong_of_stopped stop

/-! ## Routines made of steps -/

/-- A routine that succeeds has gone through the steps, and one that fails has stopped in one of them. -/
structure Advances (config : Config) (sso : Sso) (ns : String) (steps : List Step) (x : Routine α) : Prop where
  completes : ∀ h a, Program.Runs x h (.ok a) → h.answered ∈ completed (itinerary config sso ns steps)
  stops : ∀ h e, Program.Runs x h (.error e) → StopsIn config sso ns steps e h.answered

namespace Advances

theorem step (step : Step) {x : Routine α} (hx : Follows (step.legs config sso ns) x) :
    Advances config sso ns [step] (step.run sso ns x) where
  completes h a run := by
    have here := hx.completes h a (Action.runs_mapError_ok_iff.1 run)
    rwa [itinerary, List.flatMap_singleton]
  stops h e run := by
    obtain ⟨o, ho, failed⟩ := Action.runs_mapError_iff.1 run
    cases o with
    | ok a => cases ho
    | panic => cases ho
    | error source =>
      cases ho
      refine ⟨[], step, [], source, rfl, rfl, ?_⟩
      exact (one_mul (stopped source (step.legs config sso ns))).symm ▸ hx.stops h source failed

theorem pure (a : α) : Advances config sso ns [] (Pure.pure a : Routine α) where
  completes := (Follows.pure a).completes
  stops h e run := by cases (Action.runs_pure_iff.1 run).2

theorem bind {steps steps' : List Step} {x : Routine α} {f : α → Routine β} (hx : Advances config sso ns steps x)
    (hf : ∀ a h, Program.Runs x h (.ok a) → Advances config sso ns steps' (f a)) :
    Advances config sso ns (steps ++ steps') (x >>= f) where
  completes h b run := by
    obtain ⟨a, h₁, h₂, rfl, first, later⟩ := Action.runs_bind_ok_iff.1 run
    rw [History.answered_append, itinerary_append, completed_append]
    exact Language.append_mem_mul (hx.completes h₁ a first) ((hf a h₁ first).completes h₂ b later)
  stops h e run := by
    rcases Action.runs_bind_iff.1 run with ⟨a, h₁, h₂, rfl, first, later⟩ | ⟨e', he, first⟩ | ⟨⟨⟩, _⟩
    · rw [History.answered_append]
      exact ((hf a h₁ first).stops h₂ e later).append_left (hx.completes h₁ a first)
    · cases he
      exact (hx.stops h e first).append_right steps'

theorem ofExcept_bind {result : Except Error α} {a : α} {steps : List Step} {f : α → Routine β} (ha : result = .ok a)
    (hf : Advances config sso ns steps (f a)) : Advances config sso ns steps (Action.ofExcept result >>= f) := by
  subst ha
  exact hf

end Advances

/-! ## Provisioning, step by step -/

theorem prepare_advances (hns : sso.requireNamespace = .ok ns) :
    Advances config sso ns [.bindRole, .loadCookieSecret] (prepare config sso) := by
  refine .ofExcept_bind hns ?_
  refine (Advances.step .bindRole (.call _)).bind fun account _ _ => ?_
  exact (Advances.step .loadCookieSecret (CookieSecret.get_follows _)).bind fun cookieSecret _ _ => .pure _

theorem create_advances (sso : Sso) (g : Groundwork) :
    Advances config sso g.ns [.createClient] (create sso g) :=
  .step .createClient (.call _)

/-- Settings that can be made for one client can be made for any that has a place to send users back to. -/
theorem exists_settings {client : OidcClient} {cookieSecret cookieSecret' url url' : String} {port : Int}
    {s : Proxy.Settings} (made : Proxy.settings sso client cookieSecret url port = .ok s) (client' : OidcClient)
    (some : client'.redirectUris ≠ []) : ∃ s', Proxy.settings sso client' cookieSecret' url' port = .ok s' := by
  obtain ⟨uri, others, uris⟩ := List.exists_cons_of_ne_nil some
  unfold Proxy.settings at made ⊢
  by_cases secure : (!Proxy.secureScheme.isPrefixOf (Text.trimEnd '/' sso.spec.oidcIssuerUrl.toList)) = true
  · rw [if_pos secure] at made
    cases made
  · rw [if_neg secure, uris]
    exact ⟨_, rfl⟩

/-- A proxy that could be planned can be given another configuration. -/
theorem exists_revise {client : OidcClient} {cookieSecret : String} {upstream : Kubernetes.Service}
    {bundle : Proxy.Bundle} {uris : List String} (hns : sso.requireNamespace = .ok ns)
    (planned : Proxy.plan sso client cookieSecret upstream = .ok bundle) (some : uris ≠ []) :
    ∃ updated, Proxy.revise sso { client with redirectUris := uris } cookieSecret bundle = .ok updated := by
  obtain ⟨rendered, hr, -⟩ := Proxy.plan_built planned
  obtain ⟨s, made, -⟩ := Proxy.render_ok hr
  obtain ⟨s', made'⟩ := exists_settings made { client with redirectUris := uris } some
  unfold Proxy.revise Proxy.render Proxy.buildBundle
  rw [made', hns]
  exact ⟨_, rfl⟩

theorem publish_advances {account service : String} (hns : sso.requireNamespace = .ok ns) (hs : service = sso.name) :
    Advances config sso ns [.exposeService] (publish config sso ns account service) := by
  subst hs
  unfold publish
  by_cases skip : sso.spec.skipExposeService = true
  · rw [if_pos skip]
    have none : itinerary config sso ns [.exposeService] = [] := by simp [itinerary, Step.legs, skip]
    exact ⟨fun h u run => none ▸ (Follows.pure u).completes h u run, fun h e run => by
      cases (Action.runs_pure_iff.1 run).2⟩
  · rw [if_neg skip]
    refine .step .exposeService ?_
    unfold Step.legs
    rw [if_neg skip]
    exact Exposure.run_follows .expose account hns

theorem arrange_advances {account cookieSecret : String} {client : OidcClient} (hns : sso.requireNamespace = .ok ns) :
    Advances config sso ns [.deployProxy, .exposeService, .resolveHosts, .updateClient, .updateProxy]
      (arrange config sso ns account cookieSecret client) := by
  refine (Advances.step .deployProxy (Proxy.deploy_follows hns)).bind fun bundle h deployed => ?_
  obtain ⟨upstream, planned⟩ := Proxy.deploy_planned hns (Action.runs_mapError_ok_iff.1 deployed)
  refine (publish_advances hns (Proxy.plan_names hns planned)).bind fun _ _ _ => ?_
  refine (Advances.step .resolveHosts (resolveHosts_follows ns _)).bind fun hosts h resolved => ?_
  have hosts_ne_nil := (resolveHosts_ok_iff.1 (Action.runs_mapError_ok_iff.1 resolved)).2
  have uris_ne_nil : Proxy.hostRedirectUrls hosts ≠ [] := fun none => hosts_ne_nil (List.map_eq_nil_iff.1 none)
  refine (Advances.step .updateClient
    (.any { client with redirectUris := Proxy.hostRedirectUrls hosts } (.call _))).bind fun _ _ _ => ?_
  obtain ⟨updated, revised⟩ := exists_revise hns planned uris_ne_nil
  exact (Advances.step .updateProxy (Proxy.update_follows hns revised)).bind fun _ _ _ => .pure ()

theorem conclude_advances {client : OidcClient} : Advances config sso ns [.updateStatus] (conclude sso ns client) :=
  .step .updateStatus (.any client (.call _))

/-- Provisioning without making up for a failure. -/
def venture (config : Config) (sso : Sso) : Routine Unit :=
  prepare config sso >>= fun g => create sso g >>= fun client =>
    configure config sso g.ns g.account g.cookieSecret client

theorem venture_advances (config : Config) (hns : sso.requireNamespace = .ok ns) :
    Advances config sso ns Step.all (venture config sso) := by
  refine (prepare_advances hns).bind fun g h prepared => ?_
  -- The namespace at hand is that of the SSO.
  have same : g.ns = ns := Except.ok.inj ((prepare_ok prepared).1.symm.trans hns)
  subst same
  refine (create_advances sso g).bind fun client _ _ => ?_
  rw [configure_eq]
  exact (arrange_advances hns).bind fun _ _ _ => conclude_advances

/-- The work on the client, after the client has been created and before any making up for a failure. -/
theorem venture_runs {g : Groundwork} {client : OidcClient} {early late : History Operator} {o : Outcome Unit}
    (prepared : Program.Runs (prepare config sso) early (.ok g))
    (configured : Program.Runs (configure config sso g.ns g.account g.cookieSecret client) late o) :
    Program.Runs (venture config sso) (early ++ creation sso (.ok client) :: late) o := by
  refine Action.runs_bind_iff.2 (.inl ⟨g, early, _, rfl, prepared, ?_⟩)
  exact Action.runs_bind_iff.2 (.inl ⟨client, [_], late, rfl, create_runs_iff.2 ⟨.ok client, rfl, rfl⟩, configured⟩)

/-- A run ends as it does without making up for a failure, or it fails so, and the epilogue comes after it. -/
theorem run_runs {h : History Operator} {o : Outcome Unit} (run : Program.Runs (run config sso) h o) :
    Program.Runs (venture config sso) h o ∨
      ∃ h' e client reply, h = h' ++ epilogue client.id reply ∧ client ∈ h'.clientsCreated ∧
        Program.Runs (venture config sso) h' (.error e) ∧ o = afterEpilogue reply (.error e) := by
  rw [run_eq] at run
  rcases Action.runs_bind_iff.1 run with ⟨g, early, h', rfl, prepared, rest⟩ | ⟨e, rfl, failed⟩ | ⟨rfl, broken⟩
  · rcases Action.runs_bind_iff.1 rest with ⟨client, h₁, late, rfl, made, completed⟩ | failed | broken
    · obtain ⟨reply, hr, rfl⟩ := create_runs_iff.1 made
      cases reply with
      | error e => cases hr
      | panic => cases hr
      | ok c =>
        cases hr
        rcases complete_runs_iff.1 completed with ⟨configured, -⟩ | ⟨late, e, reply, rfl, configured, rfl⟩
        · exact .inl (venture_runs prepared configured)
        · refine .inr ⟨early ++ creation sso (.ok client) :: late, e, client, reply, ?_, ?_,
            venture_runs prepared configured, rfl⟩
          · simp
          · rw [clientsCreated_registered prepared configured]
            exact List.mem_singleton_self client
    · exact .inl (Action.runs_bind_iff.2 (.inl ⟨g, early, h', rfl, prepared,
        Action.runs_bind_iff.2 (.inr (.inl failed))⟩))
    · exact .inl (Action.runs_bind_iff.2 (.inl ⟨g, early, h', rfl, prepared,
        Action.runs_bind_iff.2 (.inr (.inr broken))⟩))
  · exact .inl (Action.runs_bind_iff.2 (.inr (.inl ⟨e, rfl, failed⟩)))
  · exact .inl (Action.runs_bind_iff.2 (.inr (.inr ⟨rfl, broken⟩)))

/-! ## The status as the last call -/

theorem not_written_of_error {h : History Operator} {e : Error} (ran : Program.Runs (run config sso) h (.error e)) :
    ∀ t ∈ h, t.writtenStatus? = none := by
  generalize ho : Outcome.error e = o at ran
  cases run_course ran with
  | unregistered kinds created _ =>
    exact List.filterMap_eq_nil_iff.1 (History.filterMap_eq_nil_of_kind kinds Turn.kind_of_writtenStatus? (by decide))
  | registered prepared configured succeeded => exact absurd ho.symm (succeeded e)
  | compensated prepared configured reply => exact not_written_compensated prepared configured reply

/-- Calls that go through all steps end with the status. -/
theorem written_of_completed {w : List Answered} (hw : w ∈ completed (itinerary config sso ns Step.all)) :
    ∃ status u, ⟨.patchSsoStatus ns sso.name status, .ok u⟩ ∈ w := by
  have cut : itinerary config sso ns Step.all =
      itinerary config sso ns Step.all.dropLast ++ Step.updateStatus.legs config sso ns := by
    simp [itinerary, Step.all]
  rw [cut, completed_append] at hw
  obtain ⟨w₁, -, w₂, last, rfl⟩ := hw
  have single : w₂ ∈ ⨆ client : OidcClient, granted (.patchSsoStatus ns sso.name (finalStatus client)) :=
    (completed_singleton _).le last
  obtain ⟨client, u, rfl⟩ := Language.mem_iSup.1 single
  exact ⟨finalStatus client, u, List.mem_append_right _ List.mem_cons_self⟩

theorem not_completed_of_error {h : History Operator} {e : Error} (ran : Program.Runs (run config sso) h (.error e)) :
    h.answered ∉ completed (itinerary config sso ns Step.all) := by
  intro hw
  obtain ⟨status, u, written⟩ := written_of_completed hw
  obtain ⟨t, ht, answered⟩ := List.mem_filterMap.1 written
  have none := not_written_of_error ran t ht
  unfold Turn.answered? at answered
  split at answered
  · cases answered
    cases none
  · cases answered

theorem epilogue_answered (id : String) (reply : Outcome Unit) :
    History.answered (epilogue id reply) = [⟨.deleteClient id, reply⟩] := rfl

/-- **Provisioning keeps to its order and names the step that failed.**  A run succeeds exactly if its calls go through
all steps.  In any case its calls come along the route of the steps, and only the deletion of the client that was
created may follow; and a run that fails has gone through the steps before the one that its error names, and has
stopped in that step with the error that is the source of its own. -/
theorem run_keeps_order {h : History Operator} {o : Outcome Unit} (hns : sso.requireNamespace = .ok ns)
    (ran : Program.Runs (run config sso) h o) (calm : ∀ t ∈ h, ¬t.IsBreakdown) :
    (o = .ok () ↔ h.answered ∈ completed (itinerary config sso ns Step.all)) ∧
    ∃ made undone, h.answered = made ++ undone ∧
      ComesAlong (route (itinerary config sso ns Step.all)) (callsOf made) ∧
      (undone = [] ∨ ∃ client ∈ h.clientsCreated, ∃ reply, undone = [⟨.deleteClient client.id, reply⟩]) ∧
      (o = .ok () ∨ ∃ e, o = .error e ∧ StopsIn config sso ns Step.all e made) := by
  have advances := venture_advances config hns
  rcases run_runs ran with tried | ⟨h', e, client, reply, rfl, created, tried, rfl⟩
  · cases o with
    | ok u =>
      have all := advances.completes h u tried
      refine ⟨⟨fun _ => all, fun _ => rfl⟩, h.answered, [], (List.append_nil _).symm, ?_, .inl rfl, .inl rfl⟩
      exact .of_mem (route_of_completed all)
    | error e =>
      have stops := advances.stops h e tried
      exact ⟨⟨nofun, fun all => absurd all (not_completed_of_error ran)⟩, h.answered, [], (List.append_nil _).symm,
        stops.comesAlong, .inl rfl, .inr ⟨e, rfl, stops⟩⟩
    | panic =>
      obtain ⟨t, ht, broke⟩ := (run_confined config sso).breaks h ran
      exact absurd broke (calm t ht)
  · have calmReply : reply ≠ .panic := by
      rintro rfl
      have last : ⟨.call (.deleteClient client.id), .panic⟩ ∈ h' ++ epilogue client.id .panic :=
        List.mem_append_right _ (List.mem_cons_of_mem _ List.mem_cons_self)
      exact calm _ last ⟨_, rfl⟩
    rw [afterEpilogue_of_ne_panic calmReply] at ran ⊢
    have stops := advances.stops h' e tried
    have still : client ∈ History.clientsCreated (h' ++ epilogue client.id reply) := by
      rw [History.clientsCreated, List.filterMap_append]
      exact List.mem_append_left _ created
    refine ⟨⟨nofun, fun all => absurd all (not_completed_of_error ran)⟩, h'.answered,
      [⟨.deleteClient client.id, reply⟩], ?_, stops.comesAlong, .inr ⟨client, still, reply, rfl⟩, .inr ⟨e, rfl, stops⟩⟩
    rw [History.answered_append, epilogue_answered]

/-- An SSO whose upstream service is not found is not provisioned, and stops in the step that its error names. -/
theorem lostUpstream_keeps_order :
    History.answered lostUpstream ∉ completed (itinerary sampleConfig sample "jx" Step.all) ∧
      ∃ made undone, History.answered lostUpstream = made ++ undone ∧
        StopsIn sampleConfig sample "jx" Step.all
          (.pipeline "deploying the proxy" "jx" "app" (.serviceNotFound "jx" "web")) made := by
  have ran : Program.Runs (run sampleConfig sample) lostUpstream
      (.error (.pipeline "deploying the proxy" "jx" "app" (.serviceNotFound "jx" "web"))) :=
    .turn (.turn (.turn (.turn (.turn (.turn (.here _))))))
  have calm : ∀ t ∈ lostUpstream, ¬t.IsBreakdown := by decide
  obtain ⟨succeeds, made, undone, cut, -, -, fails⟩ := run_keeps_order rfl ran calm
  refine ⟨fun all => absurd (succeeds.2 all) nofun, made, undone, cut, ?_⟩
  rcases fails with ok | ⟨e, same, stops⟩
  · cases ok
  · cases same
    exact stops

end SignOnOperator.Provision
