import SignOnOperator.Proofs.Footprint
import SignOnOperator.Reconcile.Metrics
/-!
# Compensation

Provisioning deletes the client that it has created exactly if it fails after that, once, and as the last thing it
does.  A run is cut where the client comes into being (`Provision.run_eq`): up to there nothing can be made up for, and
from there on every failure ends in the same epilogue (`Provision.complete_runs_iff`).
-/
namespace SignOnOperator

/-! ## What a history tells of clients and counters -/

namespace Turn

/-- The client that a call has created. -/
def createdClient? : Turn Operator → Option OidcClient
  | ⟨.call (.createClient _ _ _ _ _), .ok client⟩ => some client
  | _ => none

def deletedId? : Turn Operator → Option String
  | ⟨.call (.deleteClient id), _⟩ => some id
  | _ => none

def writtenStatus? : Turn Operator → Option SsoStatus
  | ⟨.call (.patchSsoStatus _ _ status), .ok _⟩ => some status
  | _ => none

def counter? : Turn Operator → Option Counter
  | ⟨.count c, _⟩ => some c
  | _ => none

theorem kind_of_createdClient? {t : Turn Operator} {client : OidcClient} (ht : t.createdClient? = some client) :
    t.kind = .call .createClient := by
  unfold createdClient? at ht
  split at ht
  · rfl
  · cases ht

theorem kind_of_deletedId? {t : Turn Operator} {id : String} (ht : t.deletedId? = some id) :
    t.kind = .call .deleteClient := by
  unfold deletedId? at ht
  split at ht
  · rfl
  · cases ht

theorem kind_of_writtenStatus? {t : Turn Operator} {status : SsoStatus} (ht : t.writtenStatus? = some status) :
    t.kind = .call .patchSsoStatus := by
  unfold writtenStatus? at ht
  split at ht
  · rfl
  · cases ht

theorem kind_of_counter? {t : Turn Operator} {c : Counter} (ht : t.counter? = some c) : t.kind = .count c := by
  unfold counter? at ht
  split at ht
  · cases ht; rfl
  · cases ht

end Turn

namespace History

/-- The clients created, in order. -/
def clientsCreated (h : History Operator) : List OidcClient := h.filterMap Turn.createdClient?

def clientsDeleted (h : History Operator) : List String := h.filterMap Turn.deletedId?

/-- The metrics after everything that was counted. -/
def metrics (h : History Operator) (m : Metrics) : Metrics := (h.filterMap Turn.counter?).foldl Metrics.count m

/-- Nothing is found in a history by what has a kind that the history does not have. -/
theorem filterMap_eq_nil {β : Type} {f : Turn Operator → Option β} {kinds : List RequestKind} {h : History Operator}
    (hh : ∀ t ∈ h, t.kind ∈ kinds) (hf : ∀ t b, f t = some b → t.kind ∉ kinds) : h.filterMap f = [] := by
  rw [List.filterMap_eq_nil_iff]
  intro t ht
  cases hft : f t with
  | none => rfl
  | some b => exact absurd (hh t ht) (hf t b hft)

theorem filterMap_eq_nil_of_kind {β : Type} {f : Turn Operator → Option β} {kind : RequestKind}
    {kinds : List RequestKind} {h : History Operator} (hh : ∀ t ∈ h, t.kind ∈ kinds)
    (hf : ∀ {t b}, f t = some b → t.kind = kind) (hk : kind ∉ kinds) : h.filterMap f = [] :=
  filterMap_eq_nil hh fun _ _ ht => hf ht ▸ hk

end History

namespace Provision

/-! ## The run, cut at the new client -/

/-- What provisioning has in hand before there is a client. -/
structure Groundwork where
  ns : String
  account : String
  cookieSecret : String

/-- Provisioning up to the point where the client is created. -/
def prepare (config : Config) (sso : Sso) : Routine Groundwork := do
  let ns ← Action.ofExcept sso.requireNamespace
  let account ← Step.bindRole.run sso ns (Routine.call (.ensureClusterRoleBinding config.clusterRoleName ns))
  let cookieSecret ← Step.loadCookieSecret.run sso ns (CookieSecret.get config.operatorNamespace)
  return ⟨ns, account, cookieSecret⟩

def create (sso : Sso) (g : Groundwork) : Routine OidcClient :=
  Step.createClient.run sso g.ns
    (Routine.call (.createClient [Proxy.placeholderRedirectUrl] [] false sso.name ""))

/-- Provisioning from the new client on: either all of it works, or the client is deleted again. -/
def complete (config : Config) (sso : Sso) (g : Groundwork) (client : OidcClient) : Routine Unit := do
  match ← (configure config sso g.ns g.account g.cookieSecret client).attempt with
  | .ok () => return ()
  | .error e =>
    compensate client.id
    Action.fail e

theorem run_eq (config : Config) (sso : Sso) :
    run config sso = prepare config sso >>= fun g => create sso g >>= complete config sso g := by
  unfold run prepare
  simp only [Action.bind_def, Action.bind_assoc]
  rfl

def prepareFootprint : List RequestKind := .call .ensureClusterRoleBinding :: CookieSecret.footprint

theorem prepare_confined (config : Config) (sso : Sso) : Confined prepareFootprint (prepare config sso) :=
  (Confined.ofExcept _).bind fun _ =>
    (Confined.mapError _ (.call (by simp [prepareFootprint]))).bind fun _ =>
    (Confined.mapError _ ((CookieSecret.get_confined _).mono (by decide))).bind fun _ => .pure _

def creation (sso : Sso) (reply : Outcome OidcClient) : Turn Operator :=
  ⟨.call (.createClient [Proxy.placeholderRedirectUrl] [] false sso.name ""), reply⟩

theorem create_runs_iff {sso : Sso} {g : Groundwork} {h : History Operator} {o : Outcome OidcClient} :
    Program.Runs (create sso g) h o ↔
      ∃ reply, o = reply.mapError (.pipeline Step.createClient.name g.ns sso.name) ∧ h = [creation sso reply] :=
  Action.runs_mapError_iff.trans (exists_congr fun _ => and_congr_right fun _ => Routine.runs_call_iff)

/-- The end of a run that failed after the client was created. -/
def epilogue (id : String) (reply : Outcome Unit) : History Operator :=
  [⟨.count .compensated, ()⟩, ⟨.call (.deleteClient id), reply⟩]

/-- How a routine ends after the epilogue: as it was to end, unless the deletion broke down. -/
def afterEpilogue {α : Type} (reply : Outcome Unit) (o : Outcome α) : Outcome α :=
  match reply with
  | .panic => .panic
  | _ => o

theorem compensate_bind_runs_iff {α : Type} {id : String} {o' : Outcome α} {h : History Operator} {o : Outcome α} :
    Program.Runs (Action.bind (compensate id) fun _ => .done o') h o ↔
      ∃ reply, h = epilogue id reply ∧ o = afterEpilogue reply o' := by
  constructor
  · intro run
    obtain ⟨⟨⟩, h₁, rfl, rest⟩ := Action.runs_request_bind_iff.1 (Action.bind_assoc (Routine.count _) _ _ ▸ run)
    rcases Action.runs_attempt_bind_iff.1 (Action.bind_assoc (Action.attempt _) _ _ ▸ rest) with
      ⟨_, h₂, h₃, rfl, called, last⟩ | ⟨e, h₂, h₃, rfl, called, last⟩ | ⟨rfl, called⟩
    · obtain rfl := Routine.runs_call_iff.1 called
      obtain ⟨rfl, rfl⟩ := Program.runs_done_iff.1 last
      exact ⟨.ok (), rfl, rfl⟩
    · obtain rfl := Routine.runs_call_iff.1 called
      obtain ⟨rfl, rfl⟩ := Program.runs_done_iff.1 last
      exact ⟨.error e, rfl, rfl⟩
    · obtain rfl := Routine.runs_call_iff.1 called
      exact ⟨.panic, rfl, rfl⟩
  · rintro ⟨reply, rfl, rfl⟩
    cases reply with
    | ok _ => exact .turn (.turn (.here _))
    | error e => exact .turn (.turn (.here _))
    | panic => exact .turn (.turn (.here _))

def compensateFootprint : List RequestKind := [.count .compensated, .call .deleteClient]

theorem compensate_confined (id : String) :
    Confined compensateFootprint (compensate id) :=
  (Confined.request (r := .count .compensated) (by decide)).bind fun _ =>
    (Confined.call (c := .deleteClient id) (by simp [compensateFootprint])).attempt.bind fun _ => .pure _

/-- **Provisioning from the new client on, unpacked.**  Whatever goes wrong, the run ends with the epilogue, and with
the failure that went before. -/
theorem complete_runs_iff {config : Config} {sso : Sso} {g : Groundwork} {client : OidcClient}
    {h : History Operator} {o : Outcome Unit} :
    Program.Runs (complete config sso g client) h o ↔
      let configured := Program.Runs (configure config sso g.ns g.account g.cookieSecret client)
      (configured h o ∧ ∀ e, o ≠ .error e) ∨
        ∃ late e reply, h = late ++ epilogue client.id reply ∧ configured late (.error e) ∧
          o = afterEpilogue reply (.error e) := by
  refine Action.runs_attempt_bind_iff.trans ⟨?_, ?_⟩
  · rintro (⟨_, late, h', rfl, configured, rest⟩ | ⟨e, late, h', rfl, configured, rest⟩ | ⟨rfl, configured⟩)
    · obtain ⟨rfl, rfl⟩ := Program.runs_done_iff.1 rest
      exact .inl ⟨(List.append_nil late).symm ▸ configured, nofun⟩
    · obtain ⟨reply, rfl, rfl⟩ := compensate_bind_runs_iff.1 rest
      exact .inr ⟨late, e, reply, rfl, configured, rfl⟩
    · exact .inl ⟨configured, nofun⟩
  · rintro (⟨configured, ho⟩ | ⟨late, e, reply, rfl, configured, rfl⟩)
    · cases o with
      | ok _ => exact .inl ⟨(), h, [], (List.append_nil h).symm, configured, .here _⟩
      | error e => exact absurd rfl (ho e)
      | panic => exact .inr (.inr ⟨rfl, configured⟩)
    · exact .inr (.inl ⟨e, late, _, rfl, configured, compensate_bind_runs_iff.2 ⟨reply, rfl, rfl⟩⟩)

/-! ## The work on a new client, cut at the status -/

def publish (config : Config) (sso : Sso) (ns account service : String) : Routine Unit :=
  if sso.spec.skipExposeService then pure ()
  else Step.exposeService.run sso ns (Exposure.run config .expose sso service account)

def arrange (config : Config) (sso : Sso) (ns account cookieSecret : String) (client : OidcClient) :
    Routine Unit := do
  let bundle ← Step.deployProxy.run sso ns (Proxy.deploy config sso client cookieSecret)
  publish config sso ns account bundle.service.metadata.nameAny
  let hosts ← Step.resolveHosts.run sso ns (resolveHosts ns bundle.appName)
  let client := { client with redirectUris := Proxy.hostRedirectUrls hosts }
  Step.updateClient.run sso ns
    (Routine.call (.updateClient client.id client.redirectUris client.trustedPeers sso.name client.logoUrl))
  let _ ← Step.updateProxy.run sso ns (Proxy.update config sso client cookieSecret bundle)
  return ()

/-- The status of an SSO that is behind its proxy. -/
def finalStatus (client : OidcClient) : SsoStatus := { clientId := some client.id, initialized := true }

def conclude (sso : Sso) (ns : String) (client : OidcClient) : Routine Unit :=
  Step.updateStatus.run sso ns (Routine.call (.patchSsoStatus ns sso.name (finalStatus client)))

theorem configure_eq (config : Config) (sso : Sso) (ns account cookieSecret : String) (client : OidcClient) :
    configure config sso ns account cookieSecret client =
      arrange config sso ns account cookieSecret client >>= fun _ => conclude sso ns client := by
  unfold configure arrange publish
  simp only [Action.bind_def, Action.bind_assoc]
  refine congrArg _ (funext fun bundle => ?_)
  cases sso.spec.skipExposeService with
  | true => rfl
  | false => rfl

def arrangeFootprint : List RequestKind :=
  Proxy.deployFootprint ++ Exposure.footprint ++ [.call .ingressHosts, .call .updateClient] ++ Proxy.updateFootprint

theorem publish_confined (config : Config) (sso : Sso) (ns account service : String) :
    Confined Exposure.footprint (publish config sso ns account service) :=
  .branch (.pure ()) (.mapError _ (Exposure.run_confined _ _ _ _ _))

theorem arrange_confined (config : Config) (sso : Sso) (ns account cookieSecret : String) (client : OidcClient) :
    Confined arrangeFootprint (arrange config sso ns account cookieSecret client) :=
  (Confined.mapError _ ((Proxy.deploy_confined _ _ _ _).mono (by decide))).bind fun _ =>
    ((publish_confined _ _ _ _ _).mono (by decide)).bind fun _ =>
    (Confined.mapError _ ((resolveHosts_confined _ _).mono (by decide))).bind fun _ =>
    (Confined.mapError _ (.call (by simp [arrangeFootprint]))).bind fun _ =>
    (Confined.mapError _ ((Proxy.update_confined _ _ _ _ _).mono (by decide))).bind fun _ => .pure _

def conclusion (sso : Sso) (ns : String) (client : OidcClient) (reply : Outcome Unit) : Turn Operator :=
  ⟨.call (.patchSsoStatus ns sso.name (finalStatus client)), reply⟩

/-- **The work on a new client, unpacked.**  It fails short of the status, or it ends with writing that, and as that
does. -/
theorem configure_runs {config : Config} {sso : Sso} {ns account cookieSecret : String} {client : OidcClient}
    {h : History Operator} {o : Outcome Unit}
    (run : Program.Runs (configure config sso ns account cookieSecret client) h o) :
    ∃ early, (∀ t ∈ early, t.kind ∈ arrangeFootprint) ∧
      ((h = early ∧ ∀ u, o ≠ .ok u) ∨
        ∃ reply, h = early ++ [conclusion sso ns client reply] ∧
          o = reply.mapError (.pipeline Step.updateStatus.name ns sso.name)) := by
  have confined := arrange_confined config sso ns account cookieSecret client
  rw [configure_eq] at run
  rcases Action.runs_bind_iff.1 run with ⟨_, early, h', rfl, arranged, last⟩ | ⟨e, rfl, failed⟩ | ⟨rfl, broken⟩
  · obtain ⟨reply, ho, called⟩ := Action.runs_mapError_iff.1 last
    obtain rfl := Routine.runs_call_iff.1 called
    exact ⟨early, confined.turns arranged, .inr ⟨reply, rfl, ho⟩⟩
  · exact ⟨h, confined.turns failed, .inl ⟨rfl, nofun⟩⟩
  · exact ⟨h, confined.turns broken, .inl ⟨rfl, nofun⟩⟩

def configureFootprint : List RequestKind := .call .patchSsoStatus :: arrangeFootprint

theorem configure_confined (config : Config) (sso : Sso) (ns account cookieSecret : String) (client : OidcClient) :
    Confined configureFootprint (configure config sso ns account cookieSecret client) := by
  rw [configure_eq]
  exact ((arrange_confined _ _ _ _ _ _).mono (by decide)).bind fun _ =>
    .mapError _ (.call (by simp [configureFootprint]))

def runFootprint : List RequestKind :=
  prepareFootprint ++ .call .createClient :: configureFootprint ++ compensateFootprint

theorem complete_confined (config : Config) (sso : Sso) (g : Groundwork) (client : OidcClient) :
    Confined runFootprint (complete config sso g client) := by
  refine (Confined.attempt ((configure_confined _ _ _ _ _ _).mono (by decide))).bind fun result => ?_
  cases result with
  | ok _ => exact .pure ()
  | error e => exact ((compensate_confined _).mono (by decide)).bind fun _ => .fail e

theorem run_confined (config : Config) (sso : Sso) : Confined runFootprint (run config sso) := by
  rw [run_eq]
  exact ((prepare_confined _ _).mono (by decide)).bind fun g =>
    (Confined.mapError _ (.call (c := .createClient _ _ _ _ _) (by simp [runFootprint]))).bind fun client =>
    complete_confined config sso g client

theorem configure_failed {config : Config} {sso : Sso} {ns account cookieSecret : String} {client : OidcClient}
    {h : History Operator} {e : Error}
    (run : Program.Runs (configure config sso ns account cookieSecret client) h (.error e)) :
    ∀ t ∈ h, t.writtenStatus? = none := by
  obtain ⟨early, kinds, ⟨rfl, -⟩ | ⟨reply, rfl, ho⟩⟩ := configure_runs run
  · exact List.filterMap_eq_nil_iff.1
      (History.filterMap_eq_nil_of_kind kinds Turn.kind_of_writtenStatus? (by decide))
  · refine List.forall_mem_append.2 ⟨?_, List.forall_mem_singleton.2 ?_⟩
    · exact List.filterMap_eq_nil_iff.1
        (History.filterMap_eq_nil_of_kind kinds Turn.kind_of_writtenStatus? (by decide))
    · cases reply with
      | ok _ => cases ho
      | error _ => rfl
      | panic => rfl

/-! ## The courses of a run -/

/-- **The courses that provisioning can take**: it ends without a client, or there is one and all goes well with it, or
there is one and it is deleted again. -/
inductive Course (config : Config) (sso : Sso) : History Operator → Outcome Unit → Prop where
  | unregistered {h : History Operator} {o : Outcome Unit}
      (kinds : ∀ t ∈ h, t.kind ∈ .call .createClient :: prepareFootprint) (created : History.clientsCreated h = [])
      (ho : ∀ u, o ≠ .ok u) : Course config sso h o
  | registered {g : Groundwork} {early late : History Operator} {client : OidcClient} {o : Outcome Unit}
      (prepared : Program.Runs (prepare config sso) early (.ok g))
      (configured : Program.Runs (configure config sso g.ns g.account g.cookieSecret client) late o)
      (ho : ∀ e, o ≠ .error e) : Course config sso (early ++ creation sso (.ok client) :: late) o
  | compensated {g : Groundwork} {early late : History Operator} {client : OidcClient} {e : Error}
      (prepared : Program.Runs (prepare config sso) early (.ok g))
      (configured : Program.Runs (configure config sso g.ns g.account g.cookieSecret client) late (.error e))
      (reply : Outcome Unit) :
      Course config sso (early ++ creation sso (.ok client) :: (late ++ epilogue client.id reply))
        (afterEpilogue reply (.error e))

theorem run_course {config : Config} {sso : Sso} {h : History Operator} {o : Outcome Unit}
    (r : Program.Runs (run config sso) h o) : Course config sso h o := by
  have confined := prepare_confined config sso
  have noClient : ∀ {early : History Operator}, (∀ t ∈ early, t.kind ∈ prepareFootprint) →
      History.clientsCreated early = [] := fun kinds =>
    History.filterMap_eq_nil_of_kind kinds Turn.kind_of_createdClient? (by decide)
  rw [run_eq] at r
  rcases Action.runs_bind_iff.1 r with ⟨g, early, h', rfl, prepared, r'⟩ | ⟨e, rfl, failed⟩ | ⟨rfl, broken⟩
  rotate_left
  · have kinds := confined.turns failed
    exact .unregistered (fun t ht => List.mem_cons_of_mem _ (kinds t ht)) (noClient kinds) nofun
  · have kinds := confined.turns broken
    exact .unregistered (fun t ht => List.mem_cons_of_mem _ (kinds t ht)) (noClient kinds) nofun
  have kinds := confined.turns prepared
  -- A creation that fails is the last turn, and leaves no client.
  have stopped : ∀ {reply : Outcome OidcClient}, (∀ client, reply ≠ .ok client) → (∀ u, o ≠ .ok u) →
      Course config sso (early ++ [creation sso reply]) o := fun {reply} hreply ho => by
    refine .unregistered (List.forall_mem_append.2 ⟨fun t ht => List.mem_cons_of_mem _ (kinds t ht), ?_⟩) ?_ ho
    · exact List.forall_mem_singleton.2 List.mem_cons_self
    · have := noClient kinds
      unfold History.clientsCreated at this ⊢
      rw [List.filterMap_append, this]
      cases reply with
      | ok client => exact absurd rfl (hreply client)
      | error e => rfl
      | panic => rfl
  rcases Action.runs_bind_iff.1 r' with ⟨client, h₁, late, rfl, made, completed⟩ | ⟨e, rfl, made⟩ | ⟨rfl, made⟩
  · obtain ⟨reply, hreply, rfl⟩ := create_runs_iff.1 made
    cases reply with
    | ok c =>
      cases hreply
      rcases complete_runs_iff.1 completed with ⟨configured, ho⟩ | ⟨late, e, reply, rfl, configured, rfl⟩
      · exact .registered prepared configured ho
      · exact .compensated prepared configured reply
    | error e => cases hreply
    | panic => cases hreply
  · obtain ⟨reply, hreply, rfl⟩ := create_runs_iff.1 made
    exact stopped (fun client hc => by subst hc; cases hreply) nofun
  · obtain ⟨reply, hreply, rfl⟩ := create_runs_iff.1 made
    exact stopped (fun client hc => by subst hc; cases hreply) nofun

theorem runs_of_configure_failed {config : Config} {sso : Sso} {g : Groundwork} {early late : History Operator}
    {client : OidcClient} {e : Error} (prepared : Program.Runs (prepare config sso) early (.ok g))
    (configured : Program.Runs (configure config sso g.ns g.account g.cookieSecret client) late (.error e))
    (reply : Outcome Unit) :
    Program.Runs (run config sso) (early ++ creation sso (.ok client) :: (late ++ epilogue client.id reply))
      (afterEpilogue reply (.error e)) := by
  rw [run_eq]
  refine Action.runs_bind_iff.2 (.inl ⟨g, early, _, rfl, prepared, ?_⟩)
  refine Action.runs_bind_iff.2 (.inl ⟨client, [_], _, rfl, create_runs_iff.2 ⟨.ok client, rfl, rfl⟩, ?_⟩)
  exact complete_runs_iff.2 (.inr ⟨late, e, reply, rfl, configured, rfl⟩)

theorem runs_of_arranged {config : Config} {sso : Sso} {g : Groundwork} {early arranged : History Operator}
    {client : OidcClient} (prepared : Program.Runs (prepare config sso) early (.ok g))
    (done : Program.Runs (arrange config sso g.ns g.account g.cookieSecret client) arranged (.ok ())) :
    Program.Runs (run config sso)
      (early ++ creation sso (.ok client) :: (arranged ++ [conclusion sso g.ns client (.ok ())])) (.ok ()) := by
  have configured : Program.Runs (configure config sso g.ns g.account g.cookieSecret client)
      (arranged ++ [conclusion sso g.ns client (.ok ())]) (.ok ()) := by
    rw [configure_eq]
    exact Action.runs_bind_ok_iff.2 ⟨(), arranged, [_], rfl, done, .turn (.here _)⟩
  rw [run_eq]
  refine Action.runs_bind_ok_iff.2 ⟨g, early, _, rfl, prepared, ?_⟩
  refine Action.runs_bind_ok_iff.2 ⟨client, [_], _, rfl, create_runs_iff.2 ⟨.ok client, rfl, rfl⟩, ?_⟩
  exact complete_runs_iff.2 (.inl ⟨configured, nofun⟩)

/-! ## Exactness -/

theorem clientsCreated_registered {config : Config} {sso : Sso} {g : Groundwork} {early late : History Operator}
    {client : OidcClient} {o : Outcome Unit} (prepared : Program.Runs (prepare config sso) early (.ok g))
    (configured : Program.Runs (configure config sso g.ns g.account g.cookieSecret client) late o) :
    History.clientsCreated (early ++ creation sso (.ok client) :: late) = [client] := by
  unfold History.clientsCreated
  rw [List.filterMap_append, List.filterMap_cons]
  rw [History.filterMap_eq_nil_of_kind ((prepare_confined config sso).turns prepared) Turn.kind_of_createdClient?
      (by decide),
    History.filterMap_eq_nil_of_kind ((configure_confined config sso _ _ _ _).turns configured)
      Turn.kind_of_createdClient? (by decide)]
  rfl

def courseFootprint : List RequestKind := prepareFootprint ++ .call .createClient :: configureFootprint

theorem course_turns {config : Config} {sso : Sso} {g : Groundwork} {early late : History Operator}
    {client : OidcClient} {o : Outcome Unit} (prepared : Program.Runs (prepare config sso) early (.ok g))
    (configured : Program.Runs (configure config sso g.ns g.account g.cookieSecret client) late o) :
    ∀ t ∈ early ++ creation sso (.ok client) :: late, t.kind ∈ courseFootprint := by
  refine List.forall_mem_append.2 ⟨fun t ht => ?_, ?_⟩
  · exact List.mem_append_left _ ((prepare_confined config sso).turns prepared t ht)
  · refine List.forall_mem_cons.2 ⟨List.mem_append_right _ List.mem_cons_self, fun t ht => ?_⟩
    exact List.mem_append_right _
      (List.mem_cons_of_mem _ ((configure_confined config sso _ _ _ _).turns configured t ht))

theorem clientsDeleted_registered {config : Config} {sso : Sso} {g : Groundwork} {early late : History Operator}
    {client : OidcClient} {o : Outcome Unit} (prepared : Program.Runs (prepare config sso) early (.ok g))
    (configured : Program.Runs (configure config sso g.ns g.account g.cookieSecret client) late o) :
    History.clientsDeleted (early ++ creation sso (.ok client) :: late) = [] :=
  History.filterMap_eq_nil_of_kind (course_turns prepared configured) Turn.kind_of_deletedId? (by decide)

theorem counters_registered {config : Config} {sso : Sso} {g : Groundwork} {early late : History Operator}
    {client : OidcClient} {o : Outcome Unit} (prepared : Program.Runs (prepare config sso) early (.ok g))
    (configured : Program.Runs (configure config sso g.ns g.account g.cookieSecret client) late o) :
    (early ++ creation sso (.ok client) :: late).filterMap Turn.counter? = [] :=
  History.filterMap_eq_nil (course_turns prepared configured) fun t c ht => by
    rw [Turn.kind_of_counter? ht]
    cases c <;> decide

theorem afterEpilogue_of_ne_panic {α : Type} {reply : Outcome Unit} (h : reply ≠ .panic) (o : Outcome α) :
    afterEpilogue reply o = o := by
  cases reply with
  | ok _ => rfl
  | error _ => rfl
  | panic => exact absurd rfl h

/-! ### A run that ends with the epilogue -/

section Compensated

variable {config : Config} {sso : Sso} {g : Groundwork} {early late : History Operator} {client : OidcClient}
  {e : Error}

theorem clientsCreated_compensated (prepared : Program.Runs (prepare config sso) early (.ok g))
    (configured : Program.Runs (configure config sso g.ns g.account g.cookieSecret client) late (.error e))
    (reply : Outcome Unit) :
    History.clientsCreated (early ++ creation sso (.ok client) :: (late ++ epilogue client.id reply)) = [client] := by
  rw [← List.cons_append, ← List.append_assoc, History.clientsCreated, List.filterMap_append]
  exact congrArg (· ++ []) (clientsCreated_registered prepared configured)

theorem clientsDeleted_compensated (prepared : Program.Runs (prepare config sso) early (.ok g))
    (configured : Program.Runs (configure config sso g.ns g.account g.cookieSecret client) late (.error e))
    (reply : Outcome Unit) :
    History.clientsDeleted (early ++ creation sso (.ok client) :: (late ++ epilogue client.id reply)) =
      [client.id] := by
  rw [← List.cons_append, ← List.append_assoc, History.clientsDeleted, List.filterMap_append]
  exact congrArg (· ++ [client.id]) (clientsDeleted_registered prepared configured)

theorem metrics_compensated (prepared : Program.Runs (prepare config sso) early (.ok g))
    (configured : Program.Runs (configure config sso g.ns g.account g.cookieSecret client) late (.error e))
    (reply : Outcome Unit) (m : Metrics) :
    History.metrics (early ++ creation sso (.ok client) :: (late ++ epilogue client.id reply)) m =
      m.count .compensated := by
  rw [← List.cons_append, ← List.append_assoc, History.metrics, List.filterMap_append,
    counters_registered prepared configured]
  rfl

theorem not_written_compensated (prepared : Program.Runs (prepare config sso) early (.ok g))
    (configured : Program.Runs (configure config sso g.ns g.account g.cookieSecret client) late (.error e))
    (reply : Outcome Unit) :
    ∀ t ∈ early ++ creation sso (.ok client) :: (late ++ epilogue client.id reply), t.writtenStatus? = none := by
  refine List.forall_mem_append.2 ⟨?_, List.forall_mem_cons.2 ⟨rfl, List.forall_mem_append.2 ⟨?_, ?_⟩⟩⟩
  · exact List.filterMap_eq_nil_iff.1 (History.filterMap_eq_nil_of_kind
      ((prepare_confined config sso).turns prepared) Turn.kind_of_writtenStatus? (by decide))
  · exact configure_failed configured
  · exact List.forall_mem_cons.2 ⟨rfl, List.forall_mem_singleton.2 rfl⟩

end Compensated

/-- **Compensation is exact.**  A run deletes the client if and only if one was created and the run fails.  It then does
so once, as its last call, counts one compensation, and fails as the work on the client did, whatever comes of the
deletion.  Without a client, or once the status is written, nothing is deleted and nothing is counted. -/
theorem client_deleted_iff_run_failed (config : Config) (sso : Sso) (h : History Operator) (o : Outcome Unit)
    (r : Program.Runs (run config sso) h o) (calm : ∀ t ∈ h, ¬t.IsBreakdown) (m : Metrics) :
    (h.clientsDeleted ≠ [] ↔ h.clientsCreated ≠ [] ∧ ∃ e, o = .error e) ∧
    (∀ client ∈ h.clientsCreated, ∀ e, o = .error e →
      h.clientsCreated = [client] ∧ (h.metrics m).compensated = m.compensated + 1 ∧
      ∃ (g : Groundwork) (early late : History Operator) (reply : Outcome Unit),
        h = early ++ creation sso (.ok client) ::
          (late ++ [⟨.count .compensated, ()⟩, ⟨.call (.deleteClient client.id), reply⟩]) ∧
        History.clientsDeleted (early ++ creation sso (.ok client) :: late) = [] ∧
        Program.Runs (configure config sso g.ns g.account g.cookieSecret client) late (.error e) ∧
        ∀ reply', reply' ≠ .panic → Program.Runs (run config sso)
          (early ++ creation sso (.ok client) ::
            (late ++ [⟨.count .compensated, ()⟩, ⟨.call (.deleteClient client.id), reply'⟩])) (.error e)) ∧
    ((h.clientsCreated = [] ∨ ∃ t ∈ h, ∃ status, t.writtenStatus? = some status) →
      h.clientsDeleted = [] ∧ (h.metrics m).compensated = m.compensated) := by
  cases run_course r with
  | unregistered kinds created ho =>
    have deleted : h.clientsDeleted = [] :=
      History.filterMap_eq_nil_of_kind kinds Turn.kind_of_deletedId? (by decide)
    have counted : h.filterMap Turn.counter? = [] := History.filterMap_eq_nil kinds fun t c ht => by
      rw [Turn.kind_of_counter? ht]; cases c <;> decide
    refine ⟨⟨fun hne => absurd deleted hne, fun hne => absurd created hne.1⟩, fun client hc => ?_,
      fun _ => ⟨deleted, ?_⟩⟩
    · rw [created] at hc
      cases hc
    · rw [History.metrics, counted, List.foldl_nil]
  | @registered g early late client o prepared configured ho =>
    have deleted : History.clientsDeleted (early ++ creation sso (.ok client) :: late) = [] :=
      clientsDeleted_registered prepared configured
    refine ⟨⟨fun hne => absurd deleted hne, fun ⟨_, e, he⟩ => absurd he (ho e)⟩, fun c _ e he => absurd he (ho e),
      fun _ => ⟨deleted, ?_⟩⟩
    rw [History.metrics, counters_registered prepared configured, List.foldl_nil]
  | @compensated g early late client e prepared configured reply =>
    have created := clientsCreated_compensated prepared configured reply
    have deleted := clientsDeleted_compensated prepared configured reply
    have calmReply : reply ≠ .panic := by
      rintro rfl
      have last : ⟨.call (.deleteClient client.id), .panic⟩ ∈ epilogue client.id .panic :=
        List.mem_cons_of_mem _ List.mem_cons_self
      exact calm _ (List.mem_append_right _ (List.mem_cons_of_mem _ (List.mem_append_right _ last))) ⟨_, rfl⟩
    rw [afterEpilogue_of_ne_panic calmReply]
    refine ⟨⟨fun _ => ⟨?_, e, rfl⟩, fun _ => ?_⟩, fun c hc e' he => ?_, ?_⟩
    · rw [created]
      exact List.cons_ne_nil _ _
    · rw [deleted]
      exact List.cons_ne_nil _ _
    · rw [created] at hc
      obtain rfl := List.mem_singleton.1 hc
      cases he
      refine ⟨created, ?_, g, early, late, reply, rfl, clientsDeleted_registered prepared configured, configured,
        fun reply' hr => ?_⟩
      · rw [metrics_compensated prepared configured]
        rfl
      · -- However the deletion ends, the run fails as the work on the client did.
        have ends := runs_of_configure_failed prepared configured reply'
        rwa [afterEpilogue_of_ne_panic hr] at ends
    · rintro (none | ⟨t, ht, status, hs⟩)
      · cases created.symm.trans none
      · cases (not_written_compensated prepared configured reply t ht).symm.trans hs

/-! ### A run that is compensated -/

def sample : Sso where
  metadata := { name := some "app", namespaceName := some "jx" }
  spec := {
    oidcIssuerUrl := "https://dex", upstreamService := "web", proxyImage := "proxy", proxyImageTag := "1"
    skipExposeService := true }

def sampleConfig : Config where
  operatorNamespace := "sso"
  watchNamespace := none
  dex := ⟨"dex:5557", "crt", "key", "ca"⟩
  clusterRoleName := "role"
  healthPort := 8080
  timeouts :=
    let polling : Polling := ⟨.ofSeconds 1, .ofSeconds 30⟩
    ⟨polling, polling, polling, polling, polling⟩

/-- A run that finds no upstream service, and to which the identity provider says that the client is gone already. -/
def lostUpstream : History Operator :=
  [⟨.call (.ensureClusterRoleBinding "role" "jx"), .ok "account"⟩, ⟨.enterCell, some "secret"⟩,
    creation sample (.ok { id := "client" }), ⟨.call (.getService "jx" "web"), .ok none⟩] ++
    epilogue "client" (.error (.clientNotFound "client"))

theorem lostUpstream_compensated :
    lostUpstream.clientsCreated = [{ id := "client" }] ∧ lostUpstream.clientsDeleted ≠ [] ∧
      (lostUpstream.metrics {}).compensated = 1 := by
  have run : Program.Runs (run sampleConfig sample) lostUpstream
      (.error (.pipeline "deploying the proxy" "jx" "app" (.serviceNotFound "jx" "web"))) :=
    .turn (.turn (.turn (.turn (.turn (.turn (.here _))))))
  have calm : ∀ t ∈ lostUpstream, ¬t.IsBreakdown := by decide
  obtain ⟨deleted, compensated, -⟩ := client_deleted_iff_run_failed sampleConfig sample lostUpstream _ run calm {}
  obtain ⟨created, counted, -⟩ := compensated { id := "client" } List.mem_cons_self _ rfl
  refine ⟨created, deleted.2 ⟨?_, _, rfl⟩, counted⟩
  rw [created]
  exact List.cons_ne_nil _ _

end Provision
end SignOnOperator
