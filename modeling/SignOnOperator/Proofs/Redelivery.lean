import SignOnOperator.Proofs.Tending
import SignOnOperator.Proofs.Timing
import SignOnOperator.Proofs.Upkeep
/-!
# Redelivered events

Of an event only its key counts (`Reconcile.run_congr`).  And once a reconciliation of an SSO that is not being deleted
has ended well, the SSO is provisioned, and stays so as long as nobody else takes that away (`Provisioned.step`): every
further reconciliation of the SSO reads it, and that is all.
-/
namespace SignOnOperator

/-! ## Only the key of an event counts -/

/-- Whatever they are given, two programs do the same when each runs alone. -/
structure Indistinct {α : Type} (p p' : Program Operator α) : Prop where
  -- After equally many turns they have asked for the same, at the same moment, and the same is left of them.
  abreast : ∀ {supply : Supply} {m m₁ m₂ : Moment} {h h' : History Operator} {q q' : Program Operator α},
    p.Leads h q → Attended supply m h m₁ → p'.Leads h' q' → Attended supply m h' m₂ → h.length = h'.length →
    h = h' ∧ q = q' ∧ m₁ = m₂
  -- They end after the same turns, with the same result and at the same moment.
  ended : ∀ {supply : Supply} {m m₁ m₂ : Moment} {h h' : History Operator} {a a' : α},
    p.Runs h a → Attended supply m h m₁ → p'.Runs h' a' → Attended supply m h' m₂ → h = h' ∧ a = a' ∧ m₁ = m₂

theorem Indistinct.refl {α : Type} (p : Program Operator α) : Indistinct p p where
  abreast led attended led' attended' abreast := attended.unique led led' attended' abreast
  ended {supply m m₁ m₂ h h' a a'} run attended run' attended' := by
    have short : h <+: h' := attended.prefix_of_runs run run' attended'
    have long : h' <+: h := attended'.prefix_of_runs run' run attended
    have abreast : h.length = h'.length := Nat.le_antisymm short.length_le long.length_le
    obtain ⟨same, rest, moment⟩ := attended.unique run run' attended' abreast
    cases rest
    exact ⟨same, rfl, moment⟩

theorem SsoKey.ofSso_congr {event event' : Sso}
    (home : event.metadata.namespaceName = event'.metadata.namespaceName) (name : event.name = event'.name) :
    ofSso event = ofSso event' := by
  unfold ofSso Sso.requireNamespace
  rw [home, name]

theorem Reconcile.run_congr (config : Config) {event event' : Sso} (same : SsoKey.ofSso event = SsoKey.ofSso event') :
    run config event = run config event' := by
  rw [run_eq, run_eq]
  unfold entrance
  rw [same]

/-! ## A store of SSOs -/

abbrev SsoStore : Type := SsoKey → Option Sso

namespace SsoStore

def put (store : SsoStore) (key : SsoKey) (sso : Sso) : SsoStore := Function.update store key (some sso)

@[simp]
theorem put_self {store : SsoStore} {key : SsoKey} {sso : Sso} : store.put key sso key = some sso :=
  Function.update_self ..

/-- Every SSO is stored where it belongs. -/
def Consistent (store : SsoStore) : Prop := ∀ key sso, store key = some sso → SsoKey.ofSso sso = .ok key

/-- How a call may end, and what becomes of the store.  What is read is what is stored; a write takes effect if it
works, and may do so if it fails; any call may fail. -/
inductive Answers (store : SsoStore) (event : Sso) : (c : Call) → Outcome c.Result → SsoStore → Prop where
  | read (ns name : String) : Answers store event (.getSso ns name) (.ok (store ⟨ns, name⟩)) store
  | status {ns name : String} {status : SsoStatus} {sso : Sso} (stored : store ⟨ns, name⟩ = some sso)
      (outcome : Outcome Unit) :
      Answers store event (.patchSsoStatus ns name status) outcome (store.put ⟨ns, name⟩ (sso.withStatus status))
  | finalizers {ns name : String} {finalizers : List String} {sso : Sso} (stored : store ⟨ns, name⟩ = some sso)
      (outcome : Outcome Unit) :
      Answers store event (.patchSsoFinalizers ns name finalizers) outcome
        (store.put ⟨ns, name⟩ (sso.withFinalizers finalizers))
  | other {c : Call} (hc : c.kind ∉ Attention.tracked) (outcome : Outcome c.Result) :
      Answers store event c outcome store
  | failed {c : Call} {outcome : Outcome c.Result} (fails : ∀ value, outcome ≠ .ok value) :
      Answers store event c outcome store

/-- What others may do: anything, but of an SSO that is spared and not being deleted they write no status, and they
neither delete nor remove it. -/
def Drift (spared : Set SsoKey) (store store' : SsoStore) : Prop :=
  store'.Consistent ∧
    ∀ key ∈ spared, ∀ sso, store key = some sso → sso.metadata.isDeleted = false →
      ∃ sso', store' key = some sso' ∧ sso'.metadata.isDeleted = false ∧ sso'.status = sso.status

def session (spared : Set SsoKey) : Surroundings SsoStore := ⟨Answers, Drift spared⟩

variable {store store' : SsoStore} {key : SsoKey} {event : Sso} {c : Call} {outcome : Outcome c.Result}

theorem Consistent.put (consistent : store.Consistent) {sso : Sso} (own : SsoKey.ofSso sso = .ok key) :
    (store.put key sso).Consistent := by
  intro key' sso' stored
  unfold SsoStore.put at stored
  rw [Function.update_apply] at stored
  split at stored
  next same =>
    cases stored
    exact same ▸ own
  next _ => exact consistent key' sso' stored

theorem Answers.consistent (answered : Answers store event c outcome store') (consistent : store.Consistent) :
    store'.Consistent := by
  cases answered with
  | read ns name => exact consistent
  | status stored _ =>
    have own := consistent _ _ stored
    exact consistent.put own
  | finalizers stored _ =>
    have own := consistent _ _ stored
    exact consistent.put own
  | other _ _ => exact consistent
  | failed _ => exact consistent

/-- What is read is the SSO that was asked for. -/
theorem Answers.expected (answered : Answers store event c outcome store') (consistent : store.Consistent)
    {owner : Except Error SsoKey} {attention : Attention} (allowed : Attention.Allows owner attention (.call c)) :
    Attention.Expects owner (.call c) outcome := by
  cases answered with
  | read ns name =>
    cases stored : store ⟨ns, name⟩ with
    | none => trivial
    | some sso => exact (consistent _ sso stored).trans allowed.1.symm
  | status _ _ => trivial
  | finalizers _ _ => trivial
  | other hc _ =>
    cases c with
    | getSso => exact absurd (by simp [Attention.tracked]) hc
    | _ => trivial
  | failed fails =>
    cases c with
    | getSso ns name =>
      cases outcome with
      | ok value => exact absurd rfl (fails value)
      | error _ => trivial
      | panic => trivial
    | _ => trivial

theorem Answers.of_getSso {ns name : String} {reply : Outcome (Option Sso)}
    (answered : Answers store event (.getSso ns name) reply store') :
    store' = store ∧ ∀ found, reply = .ok found → found = store ⟨ns, name⟩ := by
  cases answered with
  | read _ _ =>
    refine ⟨rfl, ?_⟩
    rintro _ ⟨⟩
    rfl
  | other hc _ => exact absurd (by simp [Attention.tracked]) hc
  | failed fails => exact ⟨rfl, fun found ok => absurd ok (fails found)⟩

/-- What is asked for with the attention to one SSO changes no other. -/
theorem Answers.elsewhere (answered : Answers store event c outcome store') {owner : Except Error SsoKey}
    {attention : Attention} (allowed : Attention.Allows owner attention (.call c)) (other : owner ≠ .ok key) :
    store' key = store key := by
  cases answered with
  | read ns name => rfl
  | @status ns name status sso stored outcome =>
    refine Function.update_of_ne ?_ ..
    rintro rfl
    exact other allowed.1
  | @finalizers ns name finalizers sso stored outcome =>
    refine Function.update_of_ne ?_ ..
    rintro rfl
    exact other allowed.1
  | other _ _ => rfl
  | failed _ => rfl

/-! ### What is so of an SSO that is tended to -/

/-- The SSO is there and is not being deleted, and is provisioned if that has been found out. -/
def Sound (store : SsoStore) (key : SsoKey) (attention : Attention) : Prop :=
  ∃ sso, store key = some sso ∧ sso.metadata.isDeleted = false ∧
    (attention = .pending ∨ attention = .settled ∧ sso.isInitialized = true)

namespace Sound

variable {attention : Attention}

theorem congr (sound : store.Sound key attention) (same : store' key = store key) : store'.Sound key attention := by
  obtain ⟨sso, stored, found⟩ := sound
  exact ⟨sso, same.trans stored, found⟩

theorem ne_unread (sound : store.Sound key attention) : attention ≠ .unread := by
  rintro rfl
  obtain ⟨_, -, -, pending | ⟨settled, -⟩⟩ := sound
  · cases pending
  · cases settled

theorem settle (sound : store.Sound key attention) (done : attention ≠ .pending) : store.Sound key .settled := by
  obtain ⟨sso, stored, live, pending | ⟨-, initialized⟩⟩ := sound
  · exact absurd pending done
  · exact ⟨sso, stored, live, .inr ⟨rfl, initialized⟩⟩

/-- What is found when the SSO is read. -/
theorem of_read {sso : Sso} (stored : store key = some sso) (live : sso.metadata.isDeleted = false) :
    store.Sound key (Attention.ofSso sso) := by
  refine ⟨sso, stored, live, ?_⟩
  unfold Attention.ofSso
  rw [if_neg (by simp [live])]
  cases sso.isInitialized with
  | true => exact .inr ⟨rfl, rfl⟩
  | false => exact .inl rfl

theorem drift {spared : Set SsoKey} (sound : store.Sound key attention) (hk : key ∈ spared)
    (drift : Drift spared store store') : store'.Sound key attention := by
  obtain ⟨sso, stored, live, found⟩ := sound
  obtain ⟨sso', stored', live', status⟩ := drift.2 key hk sso stored live
  refine ⟨sso', stored', live', found.imp_right (And.imp_right ?_)⟩
  unfold Sso.isInitialized
  rw [status]
  exact id

/-- **What the attention to an SSO allows keeps it sound.** -/
theorem answered (sound : store.Sound key attention) (answered : Answers store event c outcome store')
    (allowed : Attention.Allows (.ok key) attention (.call c)) :
    store'.Sound key (attention.after (.call c) outcome) := by
  cases answered with
  | read ns name => exact absurd allowed.2 sound.ne_unread
  | @status ns name status sso stored outcome =>
    obtain ⟨⟨⟩, rfl, initialized⟩ := allowed
    obtain ⟨_, stored', live, -⟩ := sound
    cases stored.symm.trans stored'
    refine ⟨_, put_self, live, ?_⟩
    cases outcome with
    | ok _ => exact .inr ⟨rfl, initialized⟩
    | error _ => exact .inl rfl
    | panic => exact .inl rfl
  | @finalizers ns name finalizers sso stored _ =>
    obtain ⟨⟨⟩, -⟩ := allowed
    obtain ⟨_, stored', live, found⟩ := sound
    cases stored.symm.trans stored'
    exact ⟨_, put_self, live, found⟩
  | other hc _ =>
    cases c with
    | getSso | patchSsoStatus | patchSsoFinalizers => exact absurd (by simp [Attention.tracked]) hc
    | _ => exact sound
  | failed fails =>
    cases c with
    | getSso ns name => exact absurd allowed.2 sound.ne_unread
    | patchSsoStatus ns name status =>
      cases outcome with
      | ok value => exact absurd rfl (fails value)
      | error _ => exact sound
      | panic => exact sound
    | _ => exact sound

end Sound

end SsoStore

/-! ## Redelivered events -/

namespace Reconcile

/-- How a reconciliation ends that only reads the SSO. -/
def afterReading : Outcome (Option Sso) → Outcome Followup
  | .ok _ => .ok .awaitChange
  | .error e => .error e
  | .panic => .panic

theorem pursue_of_initialized (config : Config) {sso : Sso} (live : sso.metadata.isDeleted = false)
    (initialized : sso.isInitialized = true) : pursue config sso = .done (.ok .awaitChange) := by
  unfold pursue
  rw [show demandOf sso = .apply from if_neg (by simp [live])]
  exact if_pos initialized

/-- After the reading of an SSO that is provisioned, there is only the key to be given back. -/
theorem leaves_of_initialized (config : Config) (key : SsoKey)
    {next : Outcome (Option Sso) → Program Operator (Outcome Followup)}
    (asks : Program.bind (admitted config key) (leaving key) =
      .ask (I := Operator) (.call (.getSso key.namespaceName key.name)) next)
    (reply : Outcome (Option Sso))
    (initialized : ∀ sso, reply = .ok (some sso) → sso.metadata.isDeleted = false ∧ sso.isInitialized = true) :
    next reply = leaving key (afterReading reply) := by
  cases asks
  rcases reply with (- | sso) | e | -
  · rfl
  · obtain ⟨live, done⟩ := initialized sso rfl
    exact congrArg (Program.bind · (leaving key)) (pursue_of_initialized config live done)
  · rfl
  · rfl

end Reconcile

/-- The reading of an SSO. -/
def SsoKey.reading (key : SsoKey) (reply : Outcome (Option Sso)) : Turn Operator :=
  ⟨.call (.getSso key.namespaceName key.name), reply⟩

/-- A reconciliation that has read the SSO, and ended. -/
def Task.onlyRead (key : SsoKey) (event : Sso) (reply : Outcome (Option Sso)) : Task :=
  ⟨event, Reconcile.opening key true ++ [key.reading reply] ++ [⟨.release key, ()⟩],
    .done (Reconcile.afterReading reply)⟩

/-- **A reconciliation that was admitted and only reads the SSO**: it is about to, it has, or it has ended. -/
inductive Redelivered (config : Config) (key : SsoKey) : Task → Prop where
  | entering (event : Sso) : Redelivered config key
      ⟨event, Reconcile.opening key true, Program.bind (Reconcile.admitted config key) (Reconcile.leaving key)⟩
  | leaving (event : Sso) (reply : Outcome (Option Sso)) : Redelivered config key
      ⟨event, Reconcile.opening key true ++ [key.reading reply], Reconcile.leaving key (Reconcile.afterReading reply)⟩
  | ended (event : Sso) (reply : Outcome (Option Sso)) : Redelivered config key (.onlyRead key event reply)

variable {config : Config} {duplicates : UInt64} {spared : Set SsoKey} {s s' : System SsoStore} {l : Label}
  {key : SsoKey} {t : Task} {r : OperatorRequest} {next : r.Reply → Program Operator (Outcome Followup)}
  {reply : r.Reply} {store store' : SsoStore}

/-- While the SSO is provisioned, a reconciliation that only reads it goes on to do only that. -/
theorem Redelivered.goes_on (redelivered : Redelivered config key t) (asks : t.rest = .ask (I := Operator) r next)
    (sound : store.Sound key .settled)
    (taken : (SsoStore.session spared).Answers store t.event r reply store') :
    store' = store ∧ Redelivered config key (t.after ⟨r, reply⟩ (next reply)) := by
  cases redelivered with
  | entering event =>
    cases asks
    change Outcome (Option Sso) at reply
    obtain ⟨same, found⟩ := SsoStore.Answers.of_getSso taken
    have left := Reconcile.leaves_of_initialized config key rfl reply fun sso read => by
      obtain ⟨_, stored, live, ⟨⟨⟩⟩ | ⟨-, initialized⟩⟩ := sound
      cases (found _ read).trans stored
      exact ⟨live, initialized⟩
    have leaves : ∀ p, p = Reconcile.leaving key (Reconcile.afterReading reply) →
        Redelivered config key ⟨event, Reconcile.opening key true ++ [key.reading reply], p⟩ := by
      rintro _ rfl
      exact .leaving event reply
    exact ⟨same, leaves _ left⟩
  | leaving event read =>
    cases asks
    exact ⟨taken, .ended event read⟩
  | ended event read => cases asks

theorem Redelivered.step {i : Nat} (redelivered : Redelivered config key t) (ht : s.tasks[i]? = some t)
    (sound : s.env.Sound key .settled) (step : Step config (SsoStore.session spared) s l s') :
    ∃ t', s'.tasks[i]? = some t' ∧ Redelivered config key t' := by
  cases step with
  | arrives event => exact ⟨t, (List.getElem?_append_left (List.getElem?_eq_some_iff.1 ht).1).trans ht, redelivered⟩
  | drifts _ => exact ⟨t, ht, redelivered⟩
  | @proceeds j u r next reply shared env hu asks answered taken =>
    by_cases same : j = i
    · subst same
      obtain rfl := Option.some.inj (hu.symm.trans ht)
      exact ⟨_, List.getElem?_set_self (List.getElem?_eq_some_iff.1 ht).1, (redelivered.goes_on asks sound taken).2⟩
    · exact ⟨t, (List.getElem?_set_ne same).trans ht, redelivered⟩

/-- A reconciliation that is given its key is about to read the SSO. -/
theorem Redelivered.of_admitted (staged : t.Staged config) {next : Bool → Program Operator (Outcome Followup)}
    (asks : t.rest = .ask (I := Operator) (.acquire key) next) :
    Redelivered config key (t.after ⟨.acquire key, true⟩ (next true)) := by
  obtain ⟨event, history, rest⟩ := t
  obtain rfl : rest = _ := asks
  unfold Task.Staged at staged
  dsimp only at staged
  cases staged with
  | waiting hk => exact .entering event
  | working hk led =>
    have known := (Reconcile.admitted_confined config _).asks _ _ ⟨_, led⟩
    exact absurd known (show RequestKind.acquire ∉ Reconcile.admittedFootprint by decide)

/-- A reconciliation that only reads the SSO comes to its end. -/
theorem Redelivered.exists_run (redelivered : Redelivered config key t) {i : Nat} (ht : s.tasks[i]? = some t)
    (sound : s.env.Sound key .settled) :
    ∃ (h : History Operator) (s' : System SsoStore) (reply : Outcome (Option Sso)),
      Run config (SsoStore.session spared) s (h.map (.proceeds i)) s' ∧
        s'.tasks[i]? = some (.onlyRead key t.event reply) := by
  have there := (List.getElem?_eq_some_iff.1 ht).1
  cases redelivered with
  | entering event =>
    obtain ⟨sso, stored, live, ⟨⟨⟩⟩ | ⟨-, initialized⟩⟩ := sound
    have left := Reconcile.leaves_of_initialized config key rfl (.ok (some sso)) fun sso' same => by
      cases same
      exact ⟨live, initialized⟩
    have led : Program.Leads (Program.bind (Reconcile.admitted config key) (Reconcile.leaving key))
        [key.reading (.ok (some sso)), ⟨.release key, ()⟩] (.done (.ok .awaitChange)) :=
      .turn (left ▸ .turn (.here _))
    have read : SsoStore.Answers s.env event (.getSso key.namespaceName key.name) (.ok (some sso)) s.env :=
      stored ▸ .read _ _
    refine ⟨_, _, .ok (some sso), Serves.run config ht led (.turn rfl read (.turn rfl rfl (.none _ _))), ?_⟩
    exact List.getElem?_set_self there
  | leaving event reply =>
    have led : Program.Leads (Reconcile.leaving key (Reconcile.afterReading reply)) [⟨.release key, ()⟩]
        (.done (Reconcile.afterReading reply)) := .turn (.here _)
    refine ⟨_, _, reply, Serves.run config ht led (.turn rfl rfl (.none _ _)), ?_⟩
    exact List.getElem?_set_self there
  | ended event reply => exact ⟨[], s, reply, .none s, ht⟩

/-- What a reconciliation knows of its SSO by now. -/
def Task.attention (t : Task) : Attention := t.phase (fun event => tending (SsoKey.ofSso event)) .unread

theorem Task.attention_after {rest : Program Operator (Outcome Followup)} :
    (t.after ⟨r, reply⟩ rest).attention = t.attention.after r reply :=
  Task.phase_after

/-- **What is so in every session.** -/
structure Tended (config : Config) (duplicates : UInt64) (s : System SsoStore) : Prop
    extends Guarded config duplicates s where
  consistent : s.env.Consistent
  conducted : Conducted (fun event => tending (SsoKey.ofSso event)) Attention.Ends .unread s

namespace Tended

theorem step (tended : Tended config duplicates s) (step : Step config (SsoStore.session spared) s l s') :
    Tended config duplicates s' := by
  refine ⟨tended.toGuarded.step step, ?_, tended.conducted.step (Reconcile.run_tends config) ?_ step⟩
  · cases step with
    | arrives event => exact tended.consistent
    | drifts drift => exact drift.1
    | @proceeds i t r next reply shared env ht asks answered taken =>
      cases r with
      | call c => exact SsoStore.Answers.consistent taken tended.consistent
      | _ => exact (show env = s.env from taken) ▸ tended.consistent
  · rintro i t r reply rfl ht allowed
    cases step with
    | proceeds hu asks answered taken =>
      obtain rfl := Option.some.inj (hu.symm.trans ht)
      cases r with
      | call c => exact SsoStore.Answers.expected taken tended.consistent allowed
      | _ => trivial

variable {i : Nat} {env : SsoStore}

/-- A reconciliation that does not hold a key leaves the SSO of that key as it is. -/
theorem elsewhere (tended : Tended config duplicates s) (ht : s.tasks[i]? = some t)
    (asks : t.rest = .ask (I := Operator) r next) (other : t.held? ≠ some key)
    (taken : (SsoStore.session spared).Answers s.env t.event r reply env) : env key = s.env key := by
  have staged := tended.staged t (List.mem_of_getElem? ht)
  cases r with
  | call c =>
    obtain ⟨key', held⟩ := staged.held?_of_call asks
    refine SsoStore.Answers.elsewhere taken (tended.conducted.allows ht asks) fun same => other ?_
    cases (staged.key_of_held? held).symm.trans same
    exact held
  | _ => rw [show env = s.env from taken]

/-- A reconciliation that holds the key keeps the SSO sound. -/
theorem sound_inside (tended : Tended config duplicates s) (ht : s.tasks[i]? = some t)
    (asks : t.rest = .ask (I := Operator) r next) (held : t.held? = some key)
    (taken : (SsoStore.session spared).Answers s.env t.event r reply env) (sound : s.env.Sound key t.attention) :
    env.Sound key (t.attention.after r reply) := by
  have own := (tended.staged t (List.mem_of_getElem? ht)).key_of_held? held
  cases r with
  | call c =>
    have allowed : Attention.Allows (SsoKey.ofSso t.event) t.attention (.call c) := tended.conducted.allows ht asks
    rw [own] at allowed
    exact sound.answered taken allowed
  | _ => exact (show env = s.env from taken) ▸ sound

end Tended

/-! ### After a success -/

/-- **The SSO is provisioned**, and those that hold its key only read it. -/
structure Provisioned (config : Config) (key : SsoKey) (s : System SsoStore) : Prop where
  sound : s.env.Sound key .settled
  reading : ∀ t ∈ s.tasks, t.held? = some key → Redelivered config key t

theorem Task.held?_start (event : Sso) : (Task.start config event).held? = none := by
  rw [Task.start, Reconcile.run_eq]
  rfl

namespace Provisioned

theorem step (provisioned : Provisioned config key s) (tended : Tended config duplicates s) (hk : key ∈ spared)
    (step : Step config (SsoStore.session spared) s l s') : Provisioned config key s' := by
  obtain ⟨sound, reading⟩ := provisioned
  cases step with
  | arrives event =>
    refine ⟨sound, List.forall_mem_append.2 ⟨reading, List.forall_mem_singleton.2 fun held => ?_⟩⟩
    cases (Task.held?_start event).symm.trans held
  | drifts drift => exact ⟨sound.drift hk drift, reading⟩
  | @proceeds i t r next reply shared env ht asks answered taken =>
    have staged := tended.staged t (List.mem_of_getElem? ht)
    suffices env.Sound key .settled ∧ ((t.after ⟨r, reply⟩ (next reply)).held? = some key →
        Redelivered config key (t.after ⟨r, reply⟩ (next reply))) by
      refine ⟨this.1, fun u hu held => ?_⟩
      rcases List.mem_or_eq_of_mem_set hu with old | rfl
      · exact reading u old held
      · exact this.2 held
    by_cases held : t.held? = some key
    · obtain ⟨same, goes⟩ := (reading t (List.mem_of_getElem? ht) held).goes_on asks sound taken
      exact ⟨same ▸ sound, fun _ => goes⟩
    · refine ⟨sound.congr (tended.elsewhere ht asks held taken), fun held' => ?_⟩
      -- It has been given the key just now, since it can hold no other.
      have own := (staged.after asks reply).key_of_held? held'
      have free : t.held? = none := by
        cases before : t.held? with
        | none => rfl
        | some key' =>
          cases own.symm.trans (staged.key_of_held? before)
          exact absurd before held
      cases (staged.move asks reply).gains free held'
      exact .of_admitted staged asks

end Provisioned

/-- How it stands with a reconciliation that has read its SSO and found it not being deleted: it is at work, it has
failed, or the SSO is provisioned. -/
def Watched (config : Config) (key : SsoKey) (i : Nat) (s : System SsoStore) : Prop :=
  ∃ t, s.tasks[i]? = some t ∧
    (t.held? = some key ∧ s.env.Sound key t.attention ∨ (∃ o, t.rest = .done o ∧ ∀ value, o ≠ .ok value) ∨
      Provisioned config key s)

namespace Watched

variable {i : Nat}

/-- Once nobody holds the key, nobody is left who might do more than read the SSO. -/
theorem provisioned (guarded : Guarded config duplicates s) (sound : s.env.Sound key .settled)
    (free : key ∉ s.shared.inFlight.keys) : Provisioned config key s :=
  ⟨sound, fun t ht held => absurd (guarded.mem_keys_iff.2 ⟨t, ht, held⟩) free⟩

/-- A reconciliation that has just read its SSO is watched. -/
theorem of_read (tended : Tended config duplicates s) {sso : Sso}
    (read : Step config (SsoStore.session spared) s (.proceeds i (key.reading (.ok (some sso)))) s')
    (live : sso.metadata.isDeleted = false) : Watched config key i s' := by
  cases read with
  | @proceeds _ t r next _ shared env ht asks answered taken =>
    have staged := tended.staged t (List.mem_of_getElem? ht)
    obtain ⟨own, unread⟩ := tended.conducted.allows ht asks
    obtain ⟨key', held⟩ := staged.held?_of_call asks
    obtain rfl : key' = key := Except.ok.inj ((staged.key_of_held? held).symm.trans own)
    obtain ⟨rfl, found⟩ := SsoStore.Answers.of_getSso taken
    have stored := (found _ rfl).symm
    refine ⟨_, List.getElem?_set_self (List.getElem?_eq_some_iff.1 ht).1, .inl ⟨?_, ?_⟩⟩
    · cases staged.move asks (.ok (some sso)) with
      | other same _ _ _ _ => exact same.symm.trans held
    · have known : (t.after (key'.reading (.ok (some sso))) (next (.ok (some sso)))).attention = Attention.ofSso sso :=
        Task.attention_after
      exact known.symm ▸ .of_read stored live

/-- A reconciliation that stops holding its key has ended, and well only if the SSO is provisioned. -/
theorem ends {turn : Turn Operator} {t' : Task} (tended : Tended config duplicates s)
    (step : Step config (SsoStore.session spared) s (.proceeds i turn) s') (ht : s.tasks[i]? = some t)
    (held : t.held? = some key) (ht' : s'.tasks[i]? = some t') (gone : t'.held? ≠ some key)
    (sound : s'.env.Sound key t'.attention) :
    (∃ o, t'.rest = .done o ∧ ∀ value, o ≠ .ok value) ∨ Provisioned config key s' := by
  have tended' := tended.step step
  have stopped : t'.isRunning ≠ true := by
    intro running
    obtain ⟨_, same, later⟩ := step.later ht
    cases same.symm.trans ht'
    exact gone (later.held? held running)
  have kept := tended'.conducted t' (List.mem_of_getElem? ht')
  unfold Task.isRunning at stopped
  cases rest : t'.rest with
  | ask _ _ => exact absurd (by rw [rest]) stopped
  | done o =>
    rw [rest] at kept
    cases o with
    | error e => exact .inl ⟨_, rfl, nofun⟩
    | panic => exact .inl ⟨_, rfl, nofun⟩
    | ok value =>
      have settled : t'.attention ≠ .pending := fun pending => kept pending value rfl
      have free : t'.held? = none := by
        unfold Task.held?
        rw [rest]
      refine .inr (provisioned tended'.toGuarded (sound.settle settled) fun taken => ?_)
      exact ((tended.released step ht held ht' free key).1 taken).2 rfl

theorem step (watched : Watched config key i s) (tended : Tended config duplicates s) (hk : key ∈ spared)
    (step : Step config (SsoStore.session spared) s l s') : Watched config key i s' := by
  obtain ⟨t, ht, ⟨held, sound⟩ | ⟨o, ended, failed⟩ | provisioned⟩ := watched
  · have tended' := tended.step step
    cases step with
    | arrives event =>
      exact ⟨t, (List.getElem?_append_left (List.getElem?_eq_some_iff.1 ht).1).trans ht, .inl ⟨held, sound⟩⟩
    | drifts drift => exact ⟨t, ht, .inl ⟨held, sound.drift hk drift⟩⟩
    | @proceeds j u r next reply shared env hu asks answered taken =>
      by_cases same : j = i
      · subst same
        obtain rfl := Option.some.inj (hu.symm.trans ht)
        have here : (s.tasks.set j (u.after ⟨r, reply⟩ (next reply)))[j]? = some (u.after ⟨r, reply⟩ (next reply)) :=
          List.getElem?_set_self (List.getElem?_eq_some_iff.1 ht).1
        have sound' := tended.sound_inside ht asks held taken sound
        rw [← Task.attention_after] at sound'
        refine ⟨_, here, ?_⟩
        by_cases held' : (u.after ⟨r, reply⟩ (next reply)).held? = some key
        · exact .inl ⟨held', sound'⟩
        · exact .inr (ends tended (.proceeds ht asks answered taken) ht held here held' sound')
      · -- Another one does not hold the key.
        have other : u.held? ≠ some key := fun held' => same (tended.alone hu ht held' held)
        have sound' := sound.congr (tended.elsewhere hu asks other taken)
        exact ⟨t, (List.getElem?_set_ne same).trans ht, .inl ⟨held, sound'⟩⟩
  · obtain ⟨t', ht', later⟩ := step.later ht
    obtain ⟨-, h, -, led⟩ := later
    rw [ended] at led
    exact ⟨t', ht', .inr (.inl ⟨o, (Program.leads_done_iff.1 led).2, failed⟩)⟩
  · obtain ⟨t', ht', -⟩ := step.later ht
    exact ⟨t', ht', .inr (.inr (provisioned.step tended hk step))⟩

end Watched

/-! ### The theorem -/

/-- **Only the fresh copy decides, and redelivered events change nothing.**  Reconciliations of two events with the same
key cannot be told apart, whatever else the events say.  And in every session over a store, whatever reconciliations run
side by side and whichever calls fail: once a reconciliation has read an SSO that is not being deleted and has ended
well, every one that is admitted for that SSO later, with any event, reads the SSO and does nothing else, as long as
others spare the SSO. -/
theorem redelivered_events_change_nothing (config : Config) :
    (∀ event event' : Sso, event.metadata.namespaceName = event'.metadata.namespaceName → event.name = event'.name →
      Reconcile.run config event = Reconcile.run config event' ∧
        Indistinct (Reconcile.run config event) (Reconcile.run config event')) ∧
    ∀ (start s₀ s₁ s₂ s₃ : System SsoStore) (ls₀ ls₁ ls₂ : List Label) (i j : Nat) (key : SsoKey) (sso : Sso)
      (t u : Task) (value : Followup),
      start.tasks = [] → start.shared.inFlight.keys = [] → start.env.Consistent →
      Run config (SsoStore.session ∅) start ls₀ s₀ →
      -- The reconciliation reads the SSO, and ends well.
      Step config (SsoStore.session {key}) s₀ (.proceeds i (key.reading (.ok (some sso)))) s₁ →
      sso.metadata.isDeleted = false →
      Run config (SsoStore.session {key}) s₁ ls₁ s₂ → s₂.tasks[i]? = some t → t.rest = .done (.ok value) →
      -- Another one is admitted after that.
      Run config (SsoStore.session {key}) s₂ ls₂ s₃ → .proceeds j ⟨.acquire key, true⟩ ∈ ls₂ →
      s₃.tasks[j]? = some u →
      Redelivered config key u ∧
        ∃ (h : History Operator) (s₄ : System SsoStore) (reply : Outcome (Option Sso)),
          Run config (SsoStore.session {key}) s₃ (h.map (.proceeds j)) s₄ ∧
            s₄.tasks[j]? = some (.onlyRead key u.event reply) := by
  constructor
  · intro event event' home name
    rw [Reconcile.run_congr config (SsoKey.ofSso_congr home name)]
    exact ⟨rfl, .refl _⟩
  intro start s₀ s₁ s₂ s₃ ls₀ ls₁ ls₂ i j key sso t u value idle free consistent run₀ read live run₁ ht done run₂
    admitted hu
  have spared : key ∈ ({key} : Set SsoKey) := Set.mem_singleton key
  have tended₀ : Tended config start.shared.metrics.duplicates s₀ :=
    run₀.keeps (fun tended step => tended.step step) ⟨.start idle free, consistent, .start idle⟩
  have tended₁ := tended₀.step read
  -- From the reading on, the reconciliation is watched up to its end.
  have watched : Watched config key i s₁ := .of_read tended₀ read live
  obtain ⟨tended₂, watched₂⟩ : Tended config start.shared.metrics.duplicates s₂ ∧ Watched config key i s₂ :=
    run₁.keeps (P := fun s => Tended config start.shared.metrics.duplicates s ∧ Watched config key i s)
      (fun kept step => ⟨kept.1.step step, kept.2.step kept.1 spared step⟩) ⟨tended₁, watched⟩
  have provisioned : Provisioned config key s₂ := by
    obtain ⟨t', ht', ⟨held, -⟩ | ⟨o, ended, failed⟩ | provisioned⟩ := watched₂
    · cases ht'.symm.trans ht
      cases (Task.held?_eq_some_iff.1 held).1.symm.trans (by rw [Task.isRunning, done])
    · cases ht'.symm.trans ht
      cases ended.symm.trans done
      exact absurd rfl (failed value)
    · exact provisioned
  have keeps : ∀ {s l s'}, Tended config start.shared.metrics.duplicates s ∧ Provisioned config key s →
      Step config (SsoStore.session {key}) s l s' →
      Tended config start.shared.metrics.duplicates s' ∧ Provisioned config key s' :=
    fun kept step => ⟨kept.1.step step, kept.2.step kept.1 spared step⟩
  -- Whoever is given the key then only reads the SSO, to the end of the session.
  obtain ⟨before, m, m', later, first, step, rest⟩ := run_of_mem run₂ admitted
  have kept : Tended config start.shared.metrics.duplicates m ∧ Provisioned config key m :=
    first.keeps keeps ⟨tended₂, provisioned⟩
  have entered : ∃ v, m'.tasks[j]? = some v ∧ Redelivered config key v := by
    cases step with
    | proceeds hv asks answered taken =>
      have staged := kept.1.staged _ (List.mem_of_getElem? hv)
      exact ⟨_, List.getElem?_set_self (List.getElem?_eq_some_iff.1 hv).1, .of_admitted staged asks⟩
  obtain ⟨⟨-, provisioned'⟩, v, hv, redelivered⟩ := rest.keeps
    (P := fun s => (Tended config start.shared.metrics.duplicates s ∧ Provisioned config key s) ∧
      ∃ v, s.tasks[j]? = some v ∧ Redelivered config key v)
    (by
      rintro _ _ _ ⟨kept, v, hv, redelivered⟩ step
      exact ⟨keeps kept step, redelivered.step hv kept.2.sound step⟩)
    ⟨keeps kept step, entered⟩
  cases hv.symm.trans hu
  exact ⟨redelivered, redelivered.exists_run hu provisioned'.sound⟩

/-! ### An event that comes twice -/

/-- An event comes in while no key is in flight, and its reconciliation is admitted. -/
theorem run_admission {E : Type} {surroundings : Surroundings E} {s : System E} {event : Sso}
    (own : SsoKey.ofSso event = .ok key) (free : s.shared.inFlight = .empty) :
    Run config surroundings s (.arrives event :: (Reconcile.opening key true).map (.proceeds s.tasks.length))
      ⟨⟨.only key, s.shared.metrics.count .reconciled, s.shared.cell⟩, s.env, s.tasks ++ [⟨event,
        Reconcile.opening key true, Program.bind (Reconcile.admitted config key) (Reconcile.leaving key)⟩]⟩ := by
  have led : Program.Leads (Reconcile.run config event) (Reconcile.opening key true) _ := Reconcile.leads_opening own
  obtain ⟨⟨inFlight, metrics, cell⟩, env, tasks⟩ := s
  obtain rfl : inFlight = _ := free
  have serves : Serves surroundings event ⟨.empty, metrics, cell⟩ env (Reconcile.opening key true)
      ⟨.only key, metrics.count .reconciled, cell⟩ env :=
    .turn rfl rfl (.turn ⟨rfl, rfl⟩ rfl (.none _ _))
  have run := serves.run config (s := ⟨⟨.empty, metrics, cell⟩, env, tasks ++ [.start config event]⟩)
    List.getElem?_concat_length led
  rw [List.set_append_right _ _ (Nat.le_refl _), Nat.sub_self] at run
  exact .step (.arrives _ event) run

/-- The sample SSO once it is provisioned. -/
def provisionedSample : Sso := Provision.sample.withStatus { clientId := some "client", initialized := true }

def shelf : SsoStore := SsoStore.put (fun _ => none) sampleKey provisionedSample

theorem shelf_consistent : shelf.Consistent := by
  have empty : SsoStore.Consistent fun _ => none := fun _ _ => nofun
  have own : SsoKey.ofSso provisionedSample = .ok sampleKey := rfl
  exact empty.put own

/-- The operator while it deals with an event of the SSO that was provisioned before. -/
def visited (inFlight : InFlight) (history : History Operator) (rest : Program Operator (Outcome Followup)) :
    System SsoStore :=
  ⟨{ inFlight, metrics := { reconciled := 1 } }, shelf, [⟨Provision.sample, history, rest⟩]⟩

theorem sample_redelivered :
    Reconcile.run Provision.sampleConfig Provision.sample = Reconcile.run Provision.sampleConfig provisionedSample ∧
      ∃ ls s, Run Provision.sampleConfig (SsoStore.session {sampleKey}) ⟨{}, shelf, []⟩ ls s ∧
        ∃ u, s.tasks[1]? = some u ∧ Redelivered Provision.sampleConfig sampleKey u := by
  obtain ⟨same, later⟩ := redelivered_events_change_nothing Provision.sampleConfig
  refine ⟨(same Provision.sample provisionedSample rfl rfl).1, ?_⟩
  have own : SsoKey.ofSso Provision.sample = .ok sampleKey := rfl
  have stored : shelf sampleKey = some provisionedSample := SsoStore.put_self
  have answered : shelf.Answers Provision.sample (.getSso "jx" "app") (.ok (some provisionedSample)) shelf :=
    stored ▸ .read "jx" "app"
  have released : (InFlight.only sampleKey).release sampleKey = .empty := by
    simp [InFlight.only, InFlight.release, InFlight.empty]
  let reading := sampleKey.reading (.ok (some provisionedSample))
  let begun := visited (.only sampleKey) (Reconcile.opening sampleKey true)
    (Program.bind (Reconcile.admitted Provision.sampleConfig sampleKey) (Reconcile.leaving sampleKey))
  let read := visited (.only sampleKey) (Reconcile.opening sampleKey true ++ [reading])
    (Reconcile.leaving sampleKey (.ok .awaitChange))
  let ended := visited ((InFlight.only sampleKey).release sampleKey)
    (Reconcile.opening sampleKey true ++ [reading] ++ [⟨.release sampleKey, ()⟩]) (.done (.ok .awaitChange))
  have begins : ∀ spared, Run Provision.sampleConfig (SsoStore.session spared) ⟨{}, shelf, []⟩ _ begun :=
    fun _ => run_admission own rfl
  have reads : Step Provision.sampleConfig (SsoStore.session {sampleKey}) begun (.proceeds 0 reading) read :=
    @Step.proceeds _ Provision.sampleConfig _ begun 0 ⟨Provision.sample, _, _⟩ (.call (.getSso "jx" "app")) _
      (.ok (some provisionedSample)) _ _ rfl rfl rfl answered
  have ends : Run Provision.sampleConfig (SsoStore.session {sampleKey}) read [.proceeds 0 ⟨.release sampleKey, ()⟩]
      ended := .step (.proceeds rfl rfl rfl rfl) (.none _)
  have again : Run Provision.sampleConfig (SsoStore.session {sampleKey}) ended _ _ := run_admission own released
  have redelivered := later _ _ _ _ _ _ _ _ 0 1 sampleKey provisionedSample _ _ .awaitChange rfl rfl shelf_consistent
    (begins ∅) reads rfl ends rfl rfl again (by simp [Reconcile.opening, ended, visited]) rfl
  exact ⟨_, _, run_append_iff.2 ⟨_, begins {sampleKey}, .step reads (run_append_iff.2 ⟨_, ends, again⟩)⟩, _, rfl,
    redelivered.1⟩

end SignOnOperator
