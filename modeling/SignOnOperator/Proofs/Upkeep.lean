import SignOnOperator.Proofs.Realm
/-!
# No client leaks, none gets lost

Whatever reconciliations run side by side, and however they are answered, the clients that exist are those that the
statuses of the SSOs name, wherever nothing is being done.  The work on each SSO is in some phase of its custody, and
what that phase says of the SSO and its clients holds throughout (`Kept`).
-/
namespace SignOnOperator

/-- The clients of an SSO are as its status tells. -/
structure Realm.Accounted (realm : Realm) (key : SsoKey) : Prop where
  -- An SSO that is not being deleted has the client that its status names if it is initialized, and else none.
  live : ∀ sso, realm.store key = some sso → sso.metadata.isDeleted = false →
    if sso.isInitialized then ∃ id, sso.clientId? = some id ∧ realm.clients key = {id} else realm.clients key = ∅
  -- An SSO that is being deleted has at most the client that its status names.
  deleted : ∀ sso, realm.store key = some sso → sso.metadata.isDeleted = true →
    ∀ id ∈ realm.clients key, sso.clientId? = some id
  -- An SSO that the operator does not hold up has no client.
  loose : ∀ sso, realm.store key = some sso → Finalizer.isHeld sso = false → realm.clients key = ∅
  -- An SSO that is not stored has no client.
  absent : realm.store key = none → realm.clients key = ∅

theorem Phase.Holds.accounted {realm : Realm} {key : SsoKey} (orderly : realm.Orderly)
    (holds : settled.Holds realm key) : realm.Accounted key := by
  obtain ⟨recorded, kept⟩ := holds
  have only : ∀ {sso id}, realm.store key = some sso → id ∈ realm.clients key →
      Finalizer.isHeld sso = true ∧ sso.clientId? = some id := by
    intro sso id stored h
    obtain ⟨_, stored', found⟩ := recorded id h
    cases stored.symm.trans stored'
    exact found
  constructor
  case live =>
    intro sso stored live
    rw [(orderly.tidy stored).isInitialized_eq]
    cases named : sso.clientId? with
    | none =>
      refine Set.eq_empty_of_forall_notMem fun id h => ?_
      cases named.symm.trans (only stored h).2
    | some id =>
      refine ⟨id, rfl, Set.eq_singleton_iff_unique_mem.2 ⟨kept sso id stored live named, fun id' h => ?_⟩⟩
      exact Option.some.inj ((only stored h).2.symm.trans named)
  case deleted => exact fun sso stored _ id h => (only stored h).2
  case loose =>
    intro sso stored loose
    refine Set.eq_empty_of_forall_notMem fun id h => ?_
    cases loose.symm.trans (only stored h).1
  case absent =>
    intro free
    refine Set.eq_empty_of_forall_notMem fun id h => ?_
    obtain ⟨_, stored, -⟩ := recorded id h
    cases free.symm.trans stored

/-! ## Which key a turn takes or gives back -/

namespace Task

variable {config : Config} {t t' : Task} {key : SsoKey}

theorem Move.gains {turn : Turn Operator} (move : t.Move turn t') (before : t.held? = none)
    (after : t'.held? = some key) : turn = ⟨.acquire key, true⟩ := by
  cases move with
  | admitted _ taken _ =>
    cases after.symm.trans taken
    rfl
  | refused _ none _ => cases after.symm.trans none
  | released had _ _ => cases before.symm.trans had
  | dropped same _ _ => cases after.symm.trans (same.symm.trans before)
  | other same _ _ _ _ => cases after.symm.trans (same.symm.trans before)

theorem Move.loses {turn : Turn Operator} (move : t.Move turn t') (before : t.held? = some key)
    (after : t'.held? ≠ some key) : turn = ⟨.release key, ()⟩ := by
  cases move with
  | admitted none _ _ => cases before.symm.trans none
  | refused none _ _ => cases before.symm.trans none
  | released had _ _ =>
    cases before.symm.trans had
    rfl
  | dropped same _ _ => exact absurd (same.symm.trans before) after
  | other same _ _ _ _ => exact absurd (same.symm.trans before) after

/-- A reconciliation that is given its key goes to work. -/
theorem Staged.entered (staged : t.Staged config) {next : Bool → Program Operator (Outcome Followup)}
    (asks : t.rest = .ask (I := Operator) (.acquire key) next) :
    next true = Program.bind (Reconcile.admitted config key) (Reconcile.leaving key) := by
  obtain ⟨event, history, rest⟩ := t
  obtain rfl : rest = _ := asks
  unfold Staged at staged
  dsimp only at staged
  cases staged with
  | waiting hk => rfl
  | working hk led =>
    have known := (Reconcile.admitted_confined config _).asks _ _ ⟨_, led⟩
    exact absurd known (show RequestKind.acquire ∉ Reconcile.admittedFootprint by decide)

end Task

/-! ## The invariant -/

/-- **What a system keeps in a realm**: the work on each SSO is in a phase, of which all holds that it says, and the
reconciliation that has the key keeps to custody from there on.  Where nobody has the key all is settled. -/
structure Kept (config : Config) (duplicates : UInt64) (phases : SsoKey → Phase) (s : System Realm) : Prop
    extends Guarded config duplicates s where
  orderly : s.env.Orderly
  holds : ∀ key, (phases key).Holds s.env key
  working : ∀ {i : Nat} {t : Task} {key : SsoKey}, s.tasks[i]? = some t → t.held? = some key →
    Program.Keeps (custody key) (fun phase _ => phase = .settled) t.rest (phases key)
  idle : ∀ {key : SsoKey}, key ∉ s.shared.inFlight.keys → phases key = .settled

namespace Kept

variable {config : Config} {duplicates : UInt64} {phases phases' : SsoKey → Phase} {s s' : System Realm}

/-- One reconciliation goes on.  Nothing changes for the keys that it does not hold. -/
theorem replace (kept : Kept config duplicates phases s) (guarded : Guarded config duplicates s') {i : Nat}
    {t t' : Task} (ht : s.tasks[i]? = some t) (tasks : s'.tasks = s.tasks.set i t') (orderly : s'.env.Orderly)
    (holds : ∀ key, (phases' key).Holds s'.env key) (same : ∀ key, t.held? ≠ some key → phases' key = phases key)
    (working : ∀ key, t'.held? = some key →
      Program.Keeps (custody key) (fun phase _ => phase = .settled) t'.rest (phases' key))
    (left : ∀ key, t.held? = some key → t'.held? ≠ some key → phases' key = .settled) :
    Kept config duplicates phases' s' where
  toGuarded := guarded
  orderly := orderly
  holds := holds
  working {j u key} hu held := by
    rw [tasks] at hu
    by_cases here : i = j
    · subst here
      rw [List.getElem?_set_self (List.getElem?_eq_some_iff.1 ht).1] at hu
      obtain rfl := Option.some.inj hu
      exact working key held
    · -- Another one does not hold the key of this one, so nothing has changed for it.
      rw [List.getElem?_set_ne here] at hu
      rw [same key fun held' => here (kept.alone ht hu held' held)]
      exact kept.working hu held
  idle {key} free := by
    have nobody : ∀ u ∈ s'.tasks, u.held? ≠ some key := fun u hu held =>
      free (guarded.mem_keys_iff.2 ⟨u, hu, held⟩)
    have hi := (List.getElem?_eq_some_iff.1 ht).1
    have mine : t'.held? ≠ some key := nobody t' (tasks ▸ List.mem_set hi t')
    by_cases held : t.held? = some key
    · exact left key held mine
    · rw [same key held]
      refine kept.idle fun taken => ?_
      obtain ⟨u, hu, held'⟩ := kept.mem_keys_iff.1 taken
      obtain ⟨j, hj⟩ := List.mem_iff_getElem?.1 hu
      have other : i ≠ j := by
        rintro rfl
        obtain rfl := Option.some.inj (hj.symm.trans ht)
        exact held held'
      refine nobody u (List.mem_iff_getElem?.2 ⟨j, ?_⟩) held'
      rw [tasks, List.getElem?_set_ne other, hj]

variable {i : Nat} {t : Task} {r : OperatorRequest} {next : r.Reply → Program Operator (Outcome Followup)}
  {reply : r.Reply}

/-- What a request comes to that is allowed for an SSO: it is answered as custody expects and concerns only that SSO. -/
theorem answered {key : SsoKey} {event : Sso} {env : Realm} (kept : Kept config duplicates phases s)
    (own : SsoKey.ofSso event = .ok key) (taken : (Realm.surroundings Realm.IsNew).Answers s.env event r reply env)
    (allowed : (custody key).allows (phases key) r) :
    (custody key).expects (phases key) r reply ∧
      Realm.Carried key ((custody key).next (phases key) r reply) s.env env := by
  have holds := kept.holds key
  cases r with
  | call c => exact Realm.Answers.carried own taken kept.orderly holds allowed
  | release key' =>
    obtain rfl : env = s.env := taken
    exact ⟨trivial, .refl kept.orderly (holds.settle allowed)⟩
  | clock | pause _ | draw | acquire _ | count _ | enterCell | fillCell _ | leaveCell =>
    obtain rfl : env = s.env := taken
    exact ⟨trivial, .refl kept.orderly holds⟩

/-- A reconciliation that holds its key goes on, or ends. -/
theorem proceeds_inside {key : SsoKey} (kept : Kept config duplicates phases s) (ht : s.tasks[i]? = some t)
    (asks : t.rest = .ask (I := Operator) r next) (held : t.held? = some key) {shared : Shared} {env : Realm}
    (taken : (Realm.surroundings Realm.IsNew).Answers s.env t.event r reply env)
    (guarded : Guarded config duplicates (System.mk shared env (s.tasks.set i (t.after ⟨r, reply⟩ (next reply))))) :
    ∃ phases', Kept config duplicates phases'
      (System.mk shared env (s.tasks.set i (t.after ⟨r, reply⟩ (next reply)))) := by
  have staged := kept.staged t (List.mem_of_getElem? ht)
  have move := staged.move asks reply
  have keeps := kept.working ht held
  rw [asks] at keeps
  obtain ⟨expected, carried⟩ := kept.answered (staged.key_of_held? held) taken keeps.1
  refine ⟨Function.update phases key ((custody key).next (phases key) r reply),
    kept.replace guarded ht rfl carried.orderly ?_ ?_ ?_ ?_⟩
  · intro key'
    by_cases other : key' = key
    · subst other
      rw [Function.update_self]
      exact carried.holds
    · rw [Function.update_of_ne other]
      exact carried.frame other (kept.holds key')
  · intro key' other
    refine Function.update_of_ne ?_ ..
    rintro rfl
    exact other held
  · -- A reconciliation holds no key but that of its event.
    intro key' held'
    have own : SsoKey.ofSso t.event = .ok key' := (staged.after asks reply).key_of_held? held'
    cases own.symm.trans (staged.key_of_held? held)
    rw [Function.update_self]
    exact keeps.2 reply expected
  · intro key' held' gone
    cases held.symm.trans held'
    rw [Function.update_self]
    have lost := move.loses held gone
    cases lost
    rfl

/-- A reconciliation that holds no key goes on.  It may be given one, but does nothing to the realm. -/
theorem proceeds_outside (kept : Kept config duplicates phases s) (ht : s.tasks[i]? = some t)
    (asks : t.rest = .ask (I := Operator) r next) (free : t.held? = none) {shared : Shared} {env : Realm}
    (answered : s.shared.Answers r reply shared)
    (taken : (Realm.surroundings Realm.IsNew).Answers s.env t.event r reply env)
    (guarded : Guarded config duplicates (System.mk shared env (s.tasks.set i (t.after ⟨r, reply⟩ (next reply))))) :
    Kept config duplicates phases (System.mk shared env (s.tasks.set i (t.after ⟨r, reply⟩ (next reply)))) := by
  have staged := kept.staged t (List.mem_of_getElem? ht)
  -- Only calls change a realm, and without a key there are none.
  have same : env = s.env := by
    cases r with
    | call c =>
      obtain ⟨key, held⟩ := staged.held?_of_call asks
      cases free.symm.trans held
    | _ => exact taken
  subst same
  refine kept.replace guarded ht rfl kept.orderly kept.holds (fun _ _ => rfl) (fun key held => ?_) fun key held => ?_
  · -- Whoever is given a key begins in a settled phase, as nobody had it before.
    have gained := (staged.move asks reply).gains free held
    cases gained
    obtain ⟨-, absent, -⟩ | ⟨⟨⟩, -, -⟩ := answered.acquire
    rw [kept.idle absent]
    change Program.Keeps _ _ (next true) _
    rw [staged.entered asks]
    exact Reconcile.inside_keeps config key
  · cases free.symm.trans held

theorem step {l : Label} (kept : Kept config duplicates phases s)
    (step : Step config (Realm.surroundings Realm.IsNew) s l s') : ∃ phases', Kept config duplicates phases' s' := by
  have guarded := kept.toGuarded.step step
  cases step with
  | arrives event =>
    refine ⟨phases, guarded, kept.orderly, kept.holds, ?_, kept.idle⟩
    intro i t key ht held
    rw [List.getElem?_append] at ht
    split at ht
    · exact kept.working ht held
    · obtain rfl := List.mem_singleton.1 (List.mem_of_getElem? ht)
      rw [Task.start, Reconcile.run_eq] at held
      cases held
  | drifts drift =>
    obtain ⟨key, carried⟩ := drift.carried kept.orderly kept.holds
    refine ⟨phases, guarded, carried.orderly, fun key' => ?_, kept.working, kept.idle⟩
    by_cases same : key' = key
    · exact same ▸ carried.holds
    · exact carried.frame same (kept.holds key')
  | @proceeds i t r next reply shared env ht asks answered taken =>
    cases held : t.held? with
    | none => exact ⟨phases, kept.proceeds_outside ht asks held answered taken guarded⟩
    | some key => exact kept.proceeds_inside ht asks held taken guarded

end Kept

/-- A realm with which a system may start: there is no client yet, and every SSO is new to the operator. -/
structure Realm.IsUntouched (realm : Realm) : Prop where
  owner : ∀ id, realm.owner id = none
  own : ∀ {key sso}, realm.store key = some sso → SsoKey.ofSso sso = .ok key
  unknown : ∀ {key sso}, realm.store key = some sso → sso.status = none

/-- **No client leaks, and none gets lost.**  Whatever events come in, in whatever order the reconciliations take their
steps, however they are answered and whatever others do, the clients of every SSO that no running reconciliation is
about are as its status tells. -/
theorem clients_accounted (config : Config) {start s : System Realm} {ls : List Label} (begun : start.tasks = [])
    (free : start.shared.inFlight.keys = []) (untouched : start.env.IsUntouched)
    (run : Run config (Realm.surroundings Realm.IsNew) start ls s) (key : SsoKey)
    (idle : ∀ t ∈ s.tasks, SsoKey.ofSso t.event = .ok key → t.isRunning = false) : s.env.Accounted key := by
  have unnamed : ∀ {key sso}, start.env.store key = some sso → sso.clientId? = none := by
    intro key sso stored
    simp [Sso.clientId?, untouched.unknown stored]
  have orderly : start.env.Orderly :=
    ⟨untouched.own, fun stored => .inl (untouched.unknown stored), fun _ _ => .inl (untouched.owner _)⟩
  have settled : ∀ key, Phase.settled.Holds start.env key := by
    refine fun key => ⟨fun id h => ?_, fun sso id stored _ named => ?_⟩
    · cases (untouched.owner id).symm.trans h
    · cases (unnamed stored).symm.trans named
  have first : Kept config start.shared.metrics.duplicates (fun _ => .settled) start := by
    refine ⟨.start begun free, orderly, settled, ?_, fun _ => rfl⟩
    intro i t key ht
    rw [begun] at ht
    cases ht
  obtain ⟨phases, kept⟩ : ∃ phases, Kept config start.shared.metrics.duplicates phases s := by
    refine run.keeps (P := fun s => ∃ phases, Kept config start.shared.metrics.duplicates phases s) ?_ ⟨_, first⟩
    rintro s l s' ⟨phases, kept⟩ step
    exact kept.step step
  have absent : key ∉ s.shared.inFlight.keys := by
    intro taken
    obtain ⟨t, ht, held⟩ := kept.mem_keys_iff.1 taken
    have ended := idle t ht ((kept.staged t ht).key_of_held? held)
    cases ended.symm.trans (Task.held?_eq_some_iff.1 held).1
  have holds := kept.holds key
  rw [kept.idle absent] at holds
  exact holds.accounted kept.orderly

/-! ### Provisioning, one SSO after another -/

theorem Reconcile.runs_of_admitted {config : Config} {event : Sso} {key : SsoKey} {h : History Operator}
    {o : Outcome Followup} (own : SsoKey.ofSso event = .ok key) (ran : Program.Runs (admitted config key) h o) :
    Program.Runs (run config event) (opening key true ++ h ++ [⟨.release key, ()⟩]) o := by
  rw [run_eq]
  unfold entrance
  rw [own, List.append_assoc]
  exact .turn (.turn ((Program.Leads.bind ran _).append (.turn (.here _))))

def InFlight.only (key : SsoKey) : InFlight := ⟨[key], by simp⟩

namespace Serves

variable {gives : Realm → String → Prop} {event : Sso} {key : SsoKey} {h : History Operator} {m m' : Metrics}
  {cell cell' : Rehearsal.Cell} {env env' : Realm}

/-- A reconciliation that finds no key in flight takes its key and gives it back. -/
theorem admitted {surroundings : Surroundings Realm}
    (inside : Serves surroundings event ⟨.only key, m.count .reconciled, cell⟩ env h ⟨.only key, m', cell'⟩ env') :
    Serves surroundings event ⟨.empty, m, cell⟩ env (Reconcile.opening key true ++ h ++ [⟨.release key, ()⟩])
      ⟨.empty, m', cell'⟩ env' := by
  have erased : (InFlight.only key).release key = .empty := by
    simp [InFlight.only, InFlight.release, InFlight.empty]
  rw [List.append_assoc]
  refine .turn rfl rfl (.turn ⟨rfl, rfl⟩ rfl (inside.append (.turn ?_ rfl (.none _ _))))
  exact congrArg (Shared.mk · m' cell') erased.symm

/-- Nothing comes of what provisioning asks for between the new client and the status. -/
theorem arranged (kinds : ∀ t ∈ h, t.kind ∈ Provision.arrangeFootprint) (calm : h.any Turn.breaksDown = false)
    (shared : Shared) (env : Realm) : Serves (Realm.surroundings gives) event shared env h shared env := by
  induction h with
  | nil => exact .none shared env
  | cons t h ih =>
    obtain ⟨known, others⟩ := List.forall_mem_cons.1 kinds
    obtain ⟨unbroken, calm⟩ := Bool.or_eq_false_iff.1 calm
    obtain ⟨r, reply⟩ := t
    have neutral : ∀ k ∈ Provision.arrangeFootprint, k ∉ Phase.critical := by decide
    cases r with
    | call c =>
      have untracked : c.kind ∉ Phase.tracked := fun tracked =>
        neutral _ known (List.mem_cons_of_mem _ (List.mem_map_of_mem tracked))
      cases reply with
      | ok value => exact .turn rfl (.other untracked value) (ih others calm)
      | error e => exact .turn rfl (.failed (fun deletes => untracked (by rw [deletes]; decide)) e) (ih others calm)
      | panic => cases unbroken
    | clock | pause _ => exact .turn rfl rfl (ih others calm)
    | draw | acquire _ | release _ | count _ | enterCell | fillCell _ | leaveCell =>
      simp [Turn.kind, Provision.arrangeFootprint, Proxy.deployFootprint, Exposure.footprint, Proxy.updateFootprint]
        at known

end Serves

def Realm.provisioned (realm : Realm) (key : SsoKey) (sso : Sso) (id : String) : Realm :=
  ((realm.put key (some (sso.withFinalizers [Finalizer.name]))).assign id (some key)).put key
    (some ((sso.withFinalizers [Finalizer.name]).withStatus { clientId := some id, initialized := true }))

theorem Realm.provisioned_store_self {realm : Realm} {key : SsoKey} {sso : Sso} {id : String} :
    (realm.provisioned key sso id).store key =
      some ((sso.withFinalizers [Finalizer.name]).withStatus { clientId := some id, initialized := true }) :=
  put_store_self

theorem Realm.provisioned_store_of_ne {realm : Realm} {key key' : SsoKey} {sso : Sso} {id : String}
    (other : key' ≠ key) : (realm.provisioned key sso id).store key' = realm.store key' := by
  rw [provisioned, put_store_of_ne other, assign_store, put_store_of_ne other]

def sampleNamed (name : String) : Sso :=
  { Provision.sample with metadata := { name := some name, namespaceName := some "jx" } }

/-- An SSO for which a proxy can be planned is provisioned if all calls work. -/
theorem exists_provisioning (name : String)
    (planned : ∃ bundle,
      Proxy.plan (sampleNamed name) Provision.sampleClient "secret" Provision.sampleService = .ok bundle)
    (revised : ∀ bundle, ∃ updated, Proxy.revise (sampleNamed name)
      { Provision.sampleClient with redirectUris := Proxy.hostRedirectUrls ["app.jx"] } "secret" bundle = .ok updated) :
    ∃ h, Program.Runs (Reconcile.run Provision.sampleConfig (sampleNamed name)) h (.ok .awaitChange) ∧
      ∀ (gives : Realm → String → Prop) (realm : Realm) (m : Metrics),
        realm.store ⟨"jx", name⟩ = some (sampleNamed name) →
        gives (realm.put ⟨"jx", name⟩ (some ((sampleNamed name).withFinalizers [Finalizer.name]))) "client" →
        Serves (Realm.surroundings gives) (sampleNamed name) ⟨.empty, m, .filled "secret"⟩ realm h
          ⟨.empty, (m.count .reconciled).count .provisioned, .filled "secret"⟩
          (realm.provisioned ⟨"jx", name⟩ (sampleNamed name) "client") := by
  obtain ⟨arranged, done, calm⟩ := Provision.exists_arrange_runs (sampleNamed name) rfl rfl planned revised
  have prepared : Program.Runs (Provision.prepare Provision.sampleConfig (sampleNamed name))
      [⟨.call (.ensureClusterRoleBinding "role" "jx"), .ok "account"⟩, ⟨.enterCell, some "secret"⟩]
      (.ok ⟨"jx", "account", "secret"⟩) := .turn (.turn (.here _))
  have provisioned := Provision.runs_of_arranged prepared done
  have applied : Program.Runs (Reconcile.apply Provision.sampleConfig (sampleNamed name)) _ (.ok .awaitChange) :=
    Action.runs_bind_ok_iff.2 ⟨(), [⟨.call (.patchSsoFinalizers "jx" name [Finalizer.name]), .ok ()⟩], _, rfl,
      .turn (.here _),
      Action.runs_bind_ok_iff.2 ⟨(), _, [⟨.count .provisioned, ()⟩], rfl, provisioned, .turn (.here _)⟩⟩
  have ran : Program.Runs (Reconcile.admitted Provision.sampleConfig ⟨"jx", name⟩)
      (⟨.call (.getSso "jx" name), .ok (some (sampleNamed name))⟩ :: _) (.ok .awaitChange) := .turn applied
  have own : SsoKey.ofSso (sampleNamed name) = .ok ⟨"jx", name⟩ := rfl
  refine ⟨_, Reconcile.runs_of_admitted own ran, fun gives realm m stored given => Serves.admitted ?_⟩
  have kinds := (Provision.arrange_confined _ _ _ _ _ _).turns done
  have read : Realm.Answers gives realm (sampleNamed name) (.getSso "jx" name) (.ok (some (sampleNamed name))) realm :=
    stored ▸ .read "jx" name
  have bound : (Call.ensureClusterRoleBinding "role" "jx").kind ∉ Phase.tracked := by simp [Phase.tracked]
  let shared : Shared := ⟨.only ⟨"jx", name⟩, m.count .reconciled, .filled "secret"⟩
  let held := realm.put ⟨"jx", name⟩ (some ((sampleNamed name).withFinalizers [Finalizer.name]))
  let registered := held.assign "client" (some ⟨"jx", name⟩)
  have begun : Serves (Realm.surroundings gives) (sampleNamed name) shared realm
      [⟨.call (.getSso "jx" name), .ok (some (sampleNamed name))⟩,
        ⟨.call (.patchSsoFinalizers "jx" name [Finalizer.name]), .ok ()⟩,
        ⟨.call (.ensureClusterRoleBinding "role" "jx"), .ok "account"⟩, ⟨.enterCell, some "secret"⟩,
        Provision.creation (sampleNamed name) (.ok Provision.sampleClient)] shared registered :=
    .turn rfl read <| .turn rfl (.finalizers stored) <| .turn rfl (Realm.Answers.other bound "account") <|
      .turn ⟨rfl, rfl⟩ rfl <| .turn rfl (.created own given) (.none _ _)
  have named : Serves (Realm.surroundings gives) (sampleNamed name) shared registered
      [Provision.conclusion (sampleNamed name) "jx" Provision.sampleClient (.ok ())] shared
      (realm.provisioned ⟨"jx", name⟩ (sampleNamed name) "client") :=
    .turn rfl (.status Realm.put_store_self) (.none _ _)
  have counted : Serves (Realm.surroundings gives) (sampleNamed name) shared
      (realm.provisioned ⟨"jx", name⟩ (sampleNamed name) "client") [⟨.count .provisioned, ()⟩]
      ⟨.only ⟨"jx", name⟩, (m.count .reconciled).count .provisioned, .filled "secret"⟩
      (realm.provisioned ⟨"jx", name⟩ (sampleNamed name) "client") :=
    .turn rfl rfl (.none _ _)
  exact begun.append (((Serves.arranged kinds calm shared registered).append named).append counted)

namespace Realm

def empty : Realm := ⟨fun _ => none, fun _ => none⟩

theorem IsUntouched.put {realm : Realm} {key : SsoKey} {sso : Sso} (untouched : realm.IsUntouched)
    (own : SsoKey.ofSso sso = .ok key) (unknown : sso.status = none) : (realm.put key (some sso)).IsUntouched := by
  have orderly : (realm.put key (some sso)).Orderly :=
    Orderly.put ⟨untouched.own, fun h => .inl (untouched.unknown h), fun _ _ => .inl (untouched.owner _)⟩ own
      (.inl unknown) fun _ _ => .inl (untouched.owner _)
  refine ⟨untouched.owner, orderly.own, fun {key' sso'} stored => ?_⟩
  by_cases same : key' = key
  · rw [same, put_store_self] at stored
    cases stored
    exact unknown
  · rw [put_store_of_ne same] at stored
    exact untouched.unknown stored

theorem IsUntouched.isNew {realm : Realm} (untouched : realm.IsUntouched) (id : String) : realm.IsNew id :=
  ⟨untouched.owner id, fun _ _ stored => by simp [Sso.clientId?, untouched.unknown stored]⟩

end Realm

/-- An operator that has its cookie secret, and two SSOs of one namespace that it has not seen yet. -/
def neighbours : System Realm where
  shared := { cell := .filled "secret" }
  env := (Realm.empty.put ⟨"jx", "app"⟩ (some (sampleNamed "app"))).put ⟨"jx", "other"⟩ (some (sampleNamed "other"))
  tasks := []

theorem neighbours_untouched : neighbours.env.IsUntouched := by
  have empty : Realm.empty.IsUntouched := ⟨fun _ => rfl, nofun, nofun⟩
  exact (empty.put rfl rfl).put rfl rfl

theorem neighbours_app : neighbours.env.store ⟨"jx", "app"⟩ = some (sampleNamed "app") := by
  unfold neighbours
  rw [Realm.put_store_of_ne (by decide), Realm.put_store_self]

theorem app_accounted :
    ∃ ls s, Run Provision.sampleConfig (Realm.surroundings Realm.IsNew) neighbours ls s ∧
      (∀ t ∈ s.tasks, t.isRunning = false) ∧ s.env.clients ⟨"jx", "app"⟩ = {"client"} := by
  obtain ⟨h, ran, serves⟩ := exists_provisioning "app" ⟨_, rfl⟩ fun _ => ⟨_, rfl⟩
  have new : Realm.IsNew (neighbours.env.put ⟨"jx", "app"⟩
      (some ((sampleNamed "app").withFinalizers [Finalizer.name]))) "client" :=
    (neighbours_untouched.put rfl rfl).isNew "client"
  have run := (serves Realm.IsNew neighbours.env {} neighbours_app new).attend (s := neighbours) ran
  have ended : ∀ t ∈ ([⟨sampleNamed "app", h, .done (.ok .awaitChange)⟩] : List Task), t.isRunning = false :=
    List.forall_mem_singleton.2 rfl
  have accounted := clients_accounted Provision.sampleConfig rfl rfl neighbours_untouched run ⟨"jx", "app"⟩
    fun t ht _ => ended t ht
  obtain ⟨id, named, clients⟩ := accounted.live _ Realm.put_store_self rfl
  cases named
  exact ⟨_, _, run, ended, clients⟩

/-! ### An id that comes back -/

/-- An SSO that was provisioned and is being deleted. -/
def leftover : Sso :=
  let provisioned := ((sampleNamed "app").withFinalizers [Finalizer.name]).withStatus
    { clientId := some "client", initialized := true }
  { provisioned with metadata := { provisioned.metadata with deletionTimestamp := some "2024-01-01T00:00:00Z" } }

def refusal : Error := .cluster (.unsendable "connection refused")

/-- A clean-up that deletes the client but cannot let go of the SSO. -/
def stuck : History Operator :=
  Reconcile.opening ⟨"jx", "app"⟩ true ++
    [⟨.call (.getSso "jx" "app"), .ok (some leftover)⟩, ⟨.call (.deleteClient "client"), .ok ()⟩,
      ⟨.call (.patchSsoFinalizers "jx" "app" []), .error refusal⟩] ++
    [⟨.release ⟨"jx", "app"⟩, ()⟩]

theorem stuck_runs : Program.Runs (Reconcile.run Provision.sampleConfig leftover) stuck (.error refusal) := by
  have ran : Program.Runs (Reconcile.admitted Provision.sampleConfig ⟨"jx", "app"⟩)
      [⟨.call (.getSso "jx" "app"), .ok (some leftover)⟩, ⟨.call (.deleteClient "client"), .ok ()⟩,
        ⟨.call (.patchSsoFinalizers "jx" "app" []), .error refusal⟩] (.error refusal) := .turn (.turn (.turn (.here _)))
  exact Reconcile.runs_of_admitted rfl ran

theorem stuck_serves (gives : Realm → String → Prop) {realm : Realm} (m : Metrics)
    (stored : realm.store ⟨"jx", "app"⟩ = some leftover) :
    Serves (Realm.surroundings gives) leftover ⟨.empty, m, .filled "secret"⟩ realm stuck
      ⟨.empty, m.count .reconciled, .filled "secret"⟩ (realm.assign "client" none) := by
  have read : Realm.Answers gives realm leftover (.getSso "jx" "app") (.ok (some leftover)) realm :=
    stored ▸ .read "jx" "app"
  exact .admitted (.turn rfl read (.turn rfl (.deleted "client") (.turn rfl (.failed (by simp) refusal) (.none _ _))))

/-- The two SSOs when the clean-up of the first is stuck. -/
def deserted : Realm :=
  ((neighbours.env.provisioned ⟨"jx", "app"⟩ (sampleNamed "app") "client").put ⟨"jx", "app"⟩ (some leftover)).assign
    "client" none

theorem deserted_app : deserted.store ⟨"jx", "app"⟩ = some leftover := by
  unfold deserted
  rw [Realm.assign_store, Realm.put_store_self]

theorem deserted_other : deserted.store ⟨"jx", "other"⟩ = some (sampleNamed "other") := by
  unfold deserted neighbours
  rw [Realm.assign_store, Realm.put_store_of_ne (by decide), Realm.provisioned_store_of_ne (by decide),
    Realm.put_store_self]

theorem deserted_isFree : deserted.IsFree "client" := by
  unfold deserted
  exact Realm.assign_owner_self

/-- The two SSOs when the second was provisioned with an id that came back, and the first was cleaned up after again. -/
def bereft : Realm := (deserted.provisioned ⟨"jx", "other"⟩ (sampleNamed "other") "client").assign "client" none

theorem bereft_not_accounted : ¬bereft.Accounted ⟨"jx", "other"⟩ := by
  intro accounted
  have stored : bereft.store ⟨"jx", "other"⟩ = some (((sampleNamed "other").withFinalizers [Finalizer.name]).withStatus
      { clientId := some "client", initialized := true }) := by
    unfold bereft
    rw [Realm.assign_store, Realm.provisioned_store_self]
  have missing : bereft.owner "client" = none := by
    unfold bereft
    exact Realm.assign_owner_self
  obtain ⟨id, named, clients⟩ := accounted.live _ stored rfl
  cases named
  have kept : "client" ∈ bereft.clients ⟨"jx", "other"⟩ := clients ▸ Set.mem_singleton "client"
  cases missing.symm.trans (Realm.mem_clients.1 kept)

/-- **Where ids may come back a client can get lost.**  It is not enough that a new client has an id that no client has
at the time: an SSO whose clean-up is not through may still name it, and take it away with its next clean-up. -/
theorem client_lost :
    ∃ ls s, Run Provision.sampleConfig (Realm.surroundings Realm.IsFree) neighbours ls s ∧
      (∀ t ∈ s.tasks, t.isRunning = false) ∧ ¬s.env.Accounted ⟨"jx", "other"⟩ := by
  obtain ⟨h, ran, serves⟩ := exists_provisioning "app" ⟨_, rfl⟩ fun _ => ⟨_, rfl⟩
  obtain ⟨h', ran', serves'⟩ := exists_provisioning "other" ⟨_, rfl⟩ fun _ => ⟨_, rfl⟩
  have marked : (neighbours.env.provisioned ⟨"jx", "app"⟩ (sampleNamed "app") "client").Drift
      ((neighbours.env.provisioned ⟨"jx", "app"⟩ (sampleNamed "app") "client").put ⟨"jx", "app"⟩ (some leftover)) :=
    .edited Realm.provisioned_store_self rfl rfl rfl fun _ => rfl
  have again : (deserted.provisioned ⟨"jx", "other"⟩ (sampleNamed "other") "client").store ⟨"jx", "app"⟩ =
      some leftover := (Realm.provisioned_store_of_ne (by decide)).trans deserted_app
  refine ⟨_, _, run_append_iff.2 ⟨_, Serves.attend ran (serves Realm.IsFree _ _ neighbours_app rfl),
    .step (.drifts marked) (run_append_iff.2 ⟨_, Serves.attend stuck_runs (stuck_serves _ _ Realm.put_store_self),
    run_append_iff.2 ⟨_, Serves.attend ran' (serves' Realm.IsFree deserted _ deserted_other deserted_isFree),
    Serves.attend stuck_runs (stuck_serves _ _ again)⟩⟩)⟩, ?_, bereft_not_accounted⟩
  simp [neighbours, Task.isRunning]

end SignOnOperator
