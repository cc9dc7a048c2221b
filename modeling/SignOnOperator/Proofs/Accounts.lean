import SignOnOperator.Proofs.Books
import SignOnOperator.Proofs.Ensemble
/-!
# What the counters say of a session

The operator reconciles, any number of reconciliations side by side, and it judges failures.  The counters tell what
has happened since they were at zero (`counters_account`): what was counted is what the entries of the session say
(`Session.metrics_get`), the turns of the entries are those of the reconciliations (`Session.turns_perm`), and each
reconciliation has kept its books (`Task.Staged.audited`).
-/
namespace SignOnOperator

variable {E : Type} {config : Config} {surroundings : Surroundings E} {s s' : System E}

/-! ## Counters -/

def Metrics.get (m : Metrics) : Counter → UInt64
  | .reconciled => m.reconciled
  | .failed => m.failed
  | .provisioned => m.provisioned
  | .cleanedUp => m.cleanedUp
  | .duplicate => m.duplicates
  | .compensated => m.compensated

theorem Metrics.get_add (m m' : Metrics) (c : Counter) : (m + m').get c = m.get c + m'.get c := by
  cases c <;> rfl

theorem Turn.metrics_get (t : Turn Operator) (c : Counter) : t.metrics.get c = .ofNat (History.counted [t] c) := by
  obtain ⟨r, reply⟩ := t
  cases r with
  | count c' => cases c' <;> cases c <;> rfl
  | _ => cases c <;> rfl

/-! ## Sessions -/

/-- What happens while the operator runs: a step of its reconciliations, or that it is told of a failure and judges when
to try again. -/
inductive Happening where
  | step (l : Label)
  | judges (event : Sso) (e : Error)

namespace Happening

def turn? : Happening → Option (Turn Operator)
  | step (.proceeds _ turn) => some turn
  | _ => none

def label? : Happening → Option Label
  | step l => some l
  | judges _ _ => none

/-- Whether a reconciliation is called for. -/
def isArrival : Happening → Bool
  | step (.arrives _) => true
  | _ => false

def isJudgement : Happening → Bool
  | judges _ _ => true
  | step _ => false

/-- What is counted: by a reconciliation in its turn, or in judging. -/
def metrics : Happening → Metrics
  | step (.proceeds _ turn) => turn.metrics
  | judges _ _ => Metrics.count 0 .failed
  | _ => 0

theorem metrics_get (x : Happening) (c : Counter) :
    x.metrics.get c = .ofNat (History.counted x.turn?.toList c + if c = .failed then x.isJudgement.toNat else 0) := by
  cases x with
  | judges event e => cases c <;> rfl
  | step l =>
    have none : (if c = .failed then (isJudgement (.step l)).toNat else 0) = 0 := ite_self 0
    rw [none, Nat.add_zero]
    cases l with
    | arrives _ | drifts => cases c <;> rfl
    | proceeds i turn => exact turn.metrics_get c

end Happening

/-- A judgement is a program of its own, which asks only for its count; nothing comes in between. -/
inductive Happens (config : Config) (surroundings : Surroundings E) : System E → Happening → System E → Prop where
  | step {s s' : System E} {l : Label} (taken : Step config surroundings s l s') :
      Happens config surroundings s (.step l) s'
  | judges {s : System E} {event : Sso} {e : Error} {h : History Operator} {followup : Followup} {shared : Shared}
      {env : E} (ran : Program.Runs (Reconcile.errorPolicy e) h followup)
      (served : Serves surroundings event s.shared s.env h shared env) :
      Happens config surroundings s (.judges event e) ⟨shared, env, s.tasks⟩

/-- Something that happened, and the state in which it did. -/
structure Entry (E : Type) where
  state : System E
  happening : Happening

/-- Whether a reconciliation asks for a key that is in flight. -/
def Entry.isRivalry (entry : Entry E) : Bool :=
  match entry.happening with
  | .step (.proceeds _ ⟨.acquire key, _⟩) => entry.state.shared.inFlight.contains key
  | _ => false

inductive Session (config : Config) (surroundings : Surroundings E) :
    System E → List (Entry E) → System E → Prop where
  | none (s : System E) : Session config surroundings s [] s
  | entry {s s' s'' : System E} {x : Happening} {entries : List (Entry E)}
      (first : Happens config surroundings s x s') (later : Session config surroundings s' entries s'') :
      Session config surroundings s (⟨s, x⟩ :: entries) s''

theorem filterMap_cons_eq_append {α β : Type} (f : α → Option β) (a : α) (l : List α) :
    (a :: l).filterMap f = (f a).toList ++ l.filterMap f := by
  rw [List.filterMap_cons]
  cases f a with
  | none => rfl
  | some _ => rfl

theorem countP_cons_eq_add {α : Type} (p : α → Bool) (a : α) (l : List α) :
    (a :: l).countP p = l.countP p + (p a).toNat := by
  rw [List.countP_cons]
  cases p a with
  | false => rfl
  | true => rfl

namespace Session

def happenings (entries : List (Entry E)) : List Happening := entries.map Entry.happening

/-- The turns of all reconciliations, in the order in which they were taken. -/
def turns (entries : List (Entry E)) : History Operator := (happenings entries).filterMap Happening.turn?

end Session

/-- The turns of all reconciliations, one reconciliation after the other. -/
def System.turns (s : System E) : History Operator := s.tasks.flatMap Task.history

/-! ### One entry -/

namespace Happens

variable {x : Happening} {event : Sso} {e : Error}

/-- All that comes of a judgement for others is that it was counted. -/
theorem judges_iff : Happens config surroundings s (.judges event e) s' ↔
    s' = { s with shared := { s.shared with metrics := s.shared.metrics.count .failed } } := by
  constructor
  · rintro (_ | ⟨ran, served⟩)
    obtain ⟨⟨⟩, h, rfl, ended⟩ := Program.runs_ask_iff.1 ran
    obtain ⟨rfl, -⟩ := Program.runs_done_iff.1 ended
    rcases served with _ | ⟨answered, taken, later⟩
    cases later
    cases answered
    cases taken
    rfl
  · rintro rfl
    exact .judges (Program.runs_ask_iff.2 ⟨(), [], rfl, .here _⟩) (.turn rfl rfl (.none _ _))

theorem metrics (happens : Happens config surroundings s x s') :
    s'.shared.metrics = s.shared.metrics + x.metrics := by
  cases x with
  | judges event e =>
    obtain rfl := judges_iff.1 happens
    exact s.shared.metrics.count_eq_add .failed
  | step l =>
    obtain ⟨_ | ⟨_, _, answered, _⟩ | _⟩ := happens
    · exact (add_zero _).symm
    · exact answered.metrics_eq
    · exact (add_zero _).symm

/-- A turn is taken by one reconciliation; nothing else changes what they have been given. -/
theorem turns (happens : Happens config surroundings s x s') : (s.turns ++ x.turn?.toList).Perm s'.turns := by
  cases happens with
  | judges _ _ => exact .of_eq (List.append_nil _)
  | step taken =>
    cases taken with
    | arrives event =>
      unfold System.turns
      rw [List.flatMap_append]
      exact .refl _
    | drifts _ => exact .of_eq (List.append_nil _)
    | @proceeds i t r next reply shared env ht asks answered taken =>
      obtain ⟨before, later, cut, -, replaced⟩ := exists_of_getElem?_eq_some ht
      unfold System.turns
      rw [replaced, cut, List.flatMap_append, List.flatMap_cons, List.flatMap_append, List.flatMap_cons]
      simp only [Task.after, Happening.turn?, Option.toList_some, List.append_assoc]
      exact (List.perm_append_comm.append_left _).append_left _

theorem length_tasks (happens : Happens config surroundings s x s') :
    s'.tasks.length = s.tasks.length + x.isArrival.toNat := by
  cases happens with
  | judges _ _ => rfl
  | step taken =>
    cases taken with
    | arrives event => exact List.length_append
    | drifts _ => rfl
    | proceeds _ _ _ _ => exact List.length_set

/-- A key is refused if it is in flight, and only then. -/
theorem rivalry (happens : Happens config surroundings s x s') :
    (⟨s, x⟩ : Entry E).isRivalry.toNat = History.refusals x.turn?.toList := by
  cases happens with
  | judges _ _ => rfl
  | step taken =>
    cases taken with
    | arrives _ | drifts _ => rfl
    | @proceeds i t r next reply shared env ht asks answered taken =>
      cases r with
      | acquire key =>
        rcases answered.acquire with ⟨rfl, free, -⟩ | ⟨rfl, taken, -⟩
        · exact congrArg Bool.toNat (Bool.eq_false_iff.2 fun taken => free (List.contains_iff_mem.1 taken))
        · exact congrArg Bool.toNat (List.contains_iff_mem.2 taken)
      | _ => rfl

theorem staged (staged : ∀ t ∈ s.tasks, t.Staged config) (happens : Happens config surroundings s x s') :
    ∀ t ∈ s'.tasks, t.Staged config := by
  cases happens with
  | judges _ _ => exact staged
  | step taken =>
    cases taken with
    | arrives event =>
      exact List.forall_mem_append.2 ⟨staged, List.forall_mem_singleton.2 (Task.staged_start config event)⟩
    | drifts _ => exact staged
    | proceeds ht asks _ _ =>
      intro t h
      rcases List.mem_or_eq_of_mem_set h with old | rfl
      · exact staged t old
      · exact (staged _ (List.mem_of_getElem? ht)).after asks _

end Happens

/-! ### A whole session -/

namespace Session

variable {entries : List (Entry E)}

theorem turns_cons (s : System E) (x : Happening) (entries : List (Entry E)) :
    turns (⟨s, x⟩ :: entries) = x.turn?.toList ++ turns entries := filterMap_cons_eq_append _ _ _

/-- The counters tell what the reconciliations have counted, and the judgements. -/
theorem metrics_get (session : Session config surroundings s entries s') (c : Counter) :
    s'.shared.metrics.get c = s.shared.metrics.get c + .ofNat (History.counted (turns entries) c +
      if c = .failed then (happenings entries).countP Happening.isJudgement else 0) := by
  induction session with
  | none _ => cases c <;> exact (UInt64.add_zero _).symm
  | @entry s _ _ x entries first _ ih =>
    have judged : (happenings (⟨s, x⟩ :: entries)).countP Happening.isJudgement =
        (happenings entries).countP Happening.isJudgement + x.isJudgement.toNat := countP_cons_eq_add _ _ _
    rw [ih, first.metrics, Metrics.get_add, x.metrics_get, UInt64.add_assoc, ← UInt64.ofNat_add, turns_cons, judged,
      History.counted_append]
    congr 2
    split_ifs
    · omega
    · omega

theorem turns_perm (session : Session config surroundings s entries s') : (s.turns ++ turns entries).Perm s'.turns := by
  induction session with
  | none _ => exact .of_eq (List.append_nil _)
  | @entry _ _ _ x entries first _ ih =>
    rw [turns_cons, ← List.append_assoc]
    exact (first.turns.append_right _).trans ih

theorem length_tasks (session : Session config surroundings s entries s') :
    s'.tasks.length = s.tasks.length + (happenings entries).countP Happening.isArrival := by
  induction session with
  | none _ => rfl
  | @entry _ _ _ x _ first _ ih =>
    unfold happenings at ih ⊢
    rw [ih, first.length_tasks, List.map_cons, countP_cons_eq_add, Nat.add_right_comm, Nat.add_assoc]

theorem rivalries (session : Session config surroundings s entries s') :
    entries.countP Entry.isRivalry = (turns entries).refusals := by
  induction session with
  | none _ => rfl
  | @entry _ _ _ x _ first _ ih =>
    rw [countP_cons_eq_add, ih, first.rivalry, turns_cons, History.refusals_append, Nat.add_comm]

theorem staged (session : Session config surroundings s entries s') (staged : ∀ t ∈ s.tasks, t.Staged config) :
    ∀ t ∈ s'.tasks, t.Staged config := by
  induction session with
  | none _ => exact staged
  | entry first _ ih => exact ih (first.staged staged)

end Session

/-! ## The books of all reconciliations -/

open Classical in
/-- The books of some reconciliations, with all their turns. -/
structure Balanced (config : Config) (tasks : List Task) (h : History Operator) : Prop where
  reconciled : h.counted .reconciled = tasks.length
  failed : h.counted .failed = 0
  dropped : h.counted .duplicate = h.refusals
  provisioned : h.counted .provisioned = h.statusesWritten.length
  created : h.clientsCreated.length = h.statusesWritten.length + h.counted .compensated
  compensated :
    h.counted .compensated = ((tasks.filter Task.provisions).flatMap fun t => t.history.clientsDeleted).length
  cleanedUp : h.counted .cleanedUp = tasks.countP fun t => t.CleansUp config

namespace Balanced

variable {tasks : List Task} {h h' : History Operator}

theorem cons {t : Task} (audited : t.Audited config) (balanced : Balanced config tasks h) :
    Balanced config (t :: tasks) (t.history ++ h) := by
  constructor
  case reconciled =>
    rw [History.counted_append, audited.reconciled, balanced.reconciled, List.length_cons, Nat.add_comm]
  case failed => rw [History.counted_append, audited.failed, balanced.failed]
  case dropped => rw [History.counted_append, History.refusals_append, audited.dropped, balanced.dropped]
  case provisioned =>
    rw [History.counted_append, History.statusesWritten_append, List.length_append, audited.provisioned,
      balanced.provisioned]
  case created =>
    rw [History.clientsCreated_append, History.statusesWritten_append, History.counted_append, List.length_append,
      List.length_append, audited.created, balanced.created]
    exact Nat.add_add_add_comm _ _ _ _
  case compensated =>
    rw [History.counted_append, audited.compensated, balanced.compensated, List.filter_cons]
    cases t.provisions with
    | true => simp
    | false => simp
  case cleanedUp =>
    classical
    rw [History.counted_append, audited.cleanedUp, balanced.cleanedUp, List.countP_cons, Nat.add_comm]
    simp

theorem flatMap (audited : ∀ t ∈ tasks, t.Audited config) : Balanced config tasks (tasks.flatMap Task.history) := by
  induction tasks with
  | nil => exact ⟨rfl, rfl, rfl, rfl, rfl, rfl, rfl⟩
  | cons t tasks ih =>
    obtain ⟨first, others⟩ := List.forall_mem_cons.1 audited
    exact cons first (ih others)

/-- The order of the turns does not matter. -/
theorem perm (balanced : Balanced config tasks h) (same : h.Perm h') : Balanced config tasks h' := by
  have counted (c : Counter) : h.counted c = h'.counted c := (same.filterMap _).count_eq c
  have refusals : h.refusals = h'.refusals := same.countP_eq _
  have written : h.statusesWritten.length = h'.statusesWritten.length := (same.filterMap _).length_eq
  have created : h.clientsCreated.length = h'.clientsCreated.length := (same.filterMap _).length_eq
  obtain ⟨reconciled, failed, dropped, provisioned, balance, compensated, cleanedUp⟩ := balanced
  simp only [counted, refusals, written, created] at reconciled failed dropped provisioned balance compensated cleanedUp
  exact ⟨reconciled, failed, dropped, provisioned, balance, compensated, cleanedUp⟩

end Balanced

/-- Once all have ended, the turns of a session are those of reconciliations that have kept their books. -/
theorem Session.balanced {entries : List (Entry E)} (session : Session config surroundings s entries s')
    (idle : s.tasks = []) (calm : ∀ turn ∈ turns entries, ¬turn.IsBreakdown)
    (ended : ∀ t ∈ s'.tasks, t.isRunning = false) : Balanced config s'.tasks (turns entries) := by
  have perm : (turns entries).Perm s'.turns := by
    have perm := session.turns_perm
    rwa [System.turns, idle] at perm
  have staged : ∀ t ∈ s'.tasks, t.Staged config := by
    refine session.staged ?_
    rw [idle]
    exact List.forall_mem_nil _
  refine (Balanced.flatMap fun t ht => ?_).perm perm.symm
  exact (staged t ht).audited (ended t ht) fun turn h => calm turn (perm.mem_iff.2 (List.mem_flatMap.2 ⟨t, ht, h⟩))

/-! ## Judging anew -/

/-- The shared state with another number of failures on its counter. -/
def Shared.withFailed (shared : Shared) (n : UInt64) : Shared :=
  { shared with metrics := { shared.metrics with failed := n } }

def System.withFailed (s : System E) (n : UInt64) : System E := { s with shared := s.shared.withFailed n }

/-- Nothing depends on the number of failures. -/
theorem Shared.Answers.withFailed {shared shared' : Shared} {r : OperatorRequest} {reply : r.Reply}
    (answered : shared.Answers r reply shared') (n : UInt64) :
    ∃ n', (shared.withFailed n).Answers r reply (shared'.withFailed n') := by
  cases r with
  | acquire key =>
    refine ⟨n, ?_⟩
    simp only [Answers] at answered ⊢
    rw [show (shared.withFailed n).inFlight = shared.inFlight from rfl]
    cases h : shared.inFlight.tryAcquire key with
    | none =>
      rw [h] at answered
      exact ⟨answered.1, congrArg (Shared.withFailed · n) answered.2⟩
    | some inFlight =>
      rw [h] at answered
      exact ⟨answered.1, congrArg (Shared.withFailed · n) answered.2⟩
  | enterCell =>
    refine ⟨n, ?_⟩
    obtain ⟨inFlight, metrics, cell⟩ := shared
    cases cell with
    | empty => exact ⟨answered.1, congrArg (Shared.withFailed · n) answered.2⟩
    | loading => exact answered.elim
    | filled secret => exact ⟨answered.1, congrArg (Shared.withFailed · n) answered.2⟩
  | count c =>
    cases answered
    cases c with
    | failed => exact ⟨n + 1, rfl⟩
    | _ => exact ⟨n, rfl⟩
  | release _ | call _ | clock | pause _ | draw | fillCell _ | leaveCell =>
    exact ⟨n, congrArg (Shared.withFailed · n) answered⟩

theorem Step.withFailed {l : Label} (step : Step config surroundings s l s') (n : UInt64) :
    ∃ n', Step config surroundings (s.withFailed n) l (s'.withFailed n') := by
  cases step with
  | arrives event => exact ⟨n, .arrives _ event⟩
  | drifts drift => exact ⟨n, .drifts drift⟩
  | proceeds ht asks answered taken =>
    obtain ⟨n', answered'⟩ := answered.withFailed n
    exact ⟨n', .proceeds ht asks answered' taken⟩

namespace Session

variable {entries : List (Entry E)}

/-- The steps of a session may be taken with no judgement in between. -/
theorem run (session : Session config surroundings s entries s') (n : UInt64) :
    ∃ n', Run config surroundings (s.withFailed n) ((happenings entries).filterMap Happening.label?)
      (s'.withFailed n') := by
  induction session generalizing n with
  | none s => exact ⟨n, .none _⟩
  | entry first _ ih =>
    cases first with
    | step taken =>
      obtain ⟨m, step⟩ := taken.withFailed n
      obtain ⟨n', run⟩ := ih m
      exact ⟨n', .step step run⟩
    | judges ran served =>
      have judged : Happens config surroundings _ _ _ := .judges ran served
      cases Happens.judges_iff.1 judged
      exact ih n

/-- Judgements may be made between any steps of a run. -/
theorem of_run {xs : List Happening} (run : Run config surroundings s (xs.filterMap Happening.label?) s') (n : UInt64) :
    ∃ entries n', happenings entries = xs ∧
      Session config surroundings (s.withFailed n) entries (s'.withFailed n') := by
  induction xs generalizing s n with
  | nil =>
    cases run
    exact ⟨[], n, rfl, .none _⟩
  | cons x xs ih =>
    cases x with
    | step l =>
      rcases run with _ | ⟨first, later⟩
      obtain ⟨m, step⟩ := first.withFailed n
      obtain ⟨entries, n', told, session⟩ := ih later m
      exact ⟨⟨_, .step l⟩ :: entries, n', congrArg (_ :: ·) told, .entry (.step step) session⟩
    | judges event e =>
      obtain ⟨entries, n', told, session⟩ := ih run (n + 1)
      have judged : Happens config surroundings (s.withFailed n) (.judges event e) (s.withFailed (n + 1)) :=
        Happens.judges_iff.2 rfl
      exact ⟨⟨_, .judges event e⟩ :: entries, n', congrArg (_ :: ·) told, .entry judged session⟩

end Session

/-! ## The theorem -/

open Classical in
/-- What the counters say after the entries of a session. -/
structure Accounts (config : Config) (surroundings : Surroundings E) (start : System E) (entries : List (Entry E))
    (s : System E) : Prop where
  reconciled : s.shared.metrics.reconciled = .ofNat ((Session.happenings entries).countP Happening.isArrival)
  /-- Those whose key was in flight have been dropped. -/
  duplicates : s.shared.metrics.duplicates = .ofNat (entries.countP Entry.isRivalry)
  provisioned : s.shared.metrics.provisioned = .ofNat (Session.turns entries).statusesWritten.length
  created : s.shared.metrics.provisioned + s.shared.metrics.compensated =
    .ofNat (Session.turns entries).clientsCreated.length
  /-- Clients are also deleted in cleaning up; that is not counted here. -/
  compensated : s.shared.metrics.compensated =
    .ofNat ((s.tasks.filter Task.provisions).flatMap fun t => t.history.clientsDeleted).length
  cleanedUp : s.shared.metrics.cleanedUp = .ofNat (s.tasks.countP fun t => t.CleansUp config)
  failed : s.shared.metrics.failed = .ofNat ((Session.happenings entries).countP Happening.isJudgement)
  /-- Whatever the reconciliations came to, there may have been any judgements at any time. -/
  independent : ∀ xs : List Happening,
    xs.filterMap Happening.label? = (Session.happenings entries).filterMap Happening.label? →
    ∃ entries' s', Session.happenings entries' = xs ∧ Session config surroundings start entries' s' ∧
      s'.tasks = s.tasks ∧
      s'.shared.metrics = { s.shared.metrics with failed := .ofNat (xs.countP Happening.isJudgement) }

/-- **The counters account for everything that was done**, once all reconciliations have ended, unless a call has
broken down.  A counter goes on at zero after its last value. -/
theorem counters_account (config : Config) (surroundings : Surroundings E) {start s : System E}
    {entries : List (Entry E)} (idle : start.tasks = []) (zero : start.shared.metrics = {})
    (session : Session config surroundings start entries s)
    (calm : ∀ turn ∈ Session.turns entries, ¬turn.IsBreakdown) (ended : ∀ t ∈ s.tasks, t.isRunning = false) :
    Accounts config surroundings start entries s := by
  have zeros (c : Counter) : start.shared.metrics.get c = 0 := by
    rw [zero]
    cases c <;> rfl
  have balanced := session.balanced idle calm ended
  have counted (c : Counter) (hc : c ≠ .failed) :
      s.shared.metrics.get c = .ofNat ((Session.turns entries).counted c) := by
    rw [session.metrics_get, zeros, if_neg hc]
    exact UInt64.zero_add _
  -- No reconciliation counts a failure, in this session or in another one with the same reconciliations.
  have failed {entries' : List (Entry E)} {s' : System E} (session' : Session config surroundings start entries' s')
      (same : s'.tasks = s.tasks) :
      s'.shared.metrics.failed = .ofNat ((Session.happenings entries').countP Happening.isJudgement) := by
    have none : (Session.turns entries').counted .failed = 0 := by
      have turns : s.turns = s'.turns := congrArg (List.flatMap Task.history) same.symm
      have perm := session.turns_perm.trans ((List.Perm.of_eq turns).trans session'.turns_perm.symm)
      exact (balanced.perm ((List.perm_append_left_iff _).1 perm)).failed
    have get := session'.metrics_get .failed
    rw [zeros, none, Nat.zero_add, if_pos rfl, UInt64.zero_add] at get
    exact get
  have arrived := session.length_tasks
  rw [idle, List.length_nil, Nat.zero_add] at arrived
  constructor
  case reconciled => exact (counted .reconciled nofun).trans (congrArg _ (balanced.reconciled.trans arrived))
  case duplicates =>
    exact (counted .duplicate nofun).trans (congrArg _ (balanced.dropped.trans session.rivalries.symm))
  case provisioned => exact (counted .provisioned nofun).trans (congrArg _ balanced.provisioned)
  case created =>
    have sum := congrArg₂ (· + ·) (counted .provisioned nofun) (counted .compensated nofun)
    refine sum.trans ?_
    rw [balanced.created, ← balanced.provisioned, UInt64.ofNat_add]
  case compensated => exact (counted .compensated nofun).trans (congrArg _ balanced.compensated)
  case cleanedUp => exact (counted .cleanedUp nofun).trans (congrArg _ balanced.cleanedUp)
  case failed => exact failed session rfl
  case independent =>
    intro xs same
    obtain ⟨m, run⟩ := session.run start.shared.metrics.failed
    rw [← same] at run
    obtain ⟨entries', n, rfl, session'⟩ := Session.of_run run start.shared.metrics.failed
    refine ⟨entries', _, rfl, session', rfl, ?_⟩
    rw [← failed session' rfl]
    rfl

/-! ### A client that is given up, a key that is in flight, and two judgements -/

/-- All turns of a reconciliation that found its key in flight. -/
def Reconcile.turnedAway (key : SsoKey) : History Operator := opening key false ++ [⟨.count .duplicate, ()⟩]

/-- An SSO that is to be provisioned is read and marked, and then no upstream service is found. -/
def mishap : History Operator :=
  [sampleKey.reading (.ok (some Provision.sample)),
    ⟨.call (.patchSsoFinalizers "jx" "app" [Finalizer.name]), .ok ()⟩] ++
    Provision.lostUpstream ++ [⟨.release sampleKey, ()⟩]

def mishapError : Error := .pipeline "deploying the proxy" "jx" "app" (.serviceNotFound "jx" "web")

/-- Two events of one SSO come in.  The second finds the key in flight and is dropped; the first comes to nothing. -/
def mishapDay : List Label :=
  [.arrives Provision.sample, .arrives Provision.sample] ++ ((Reconcile.opening sampleKey true).map (.proceeds 0) ++
    ((Reconcile.turnedAway sampleKey).map (.proceeds 1) ++ mishap.map (.proceeds 0)))

/-- The operator on that day, with its two reconciliations as far as they have come. -/
def duringMishap (inFlight : InFlight) (metrics : Metrics) (h h' : History Operator)
    (p p' : Program Operator (Outcome Followup)) : System Unit where
  shared := { inFlight, metrics, cell := .filled "secret" }
  env := ()
  tasks := [⟨Provision.sample, h, p⟩, ⟨Provision.sample, h', p'⟩]

def afterMishap : System Unit :=
  duringMishap ((InFlight.only sampleKey).release sampleKey) { reconciled := 2, duplicates := 1, compensated := 1 }
    (Reconcile.opening sampleKey true ++ mishap) (Reconcile.turnedAway sampleKey) (.done (.error mishapError))
    (.done (.ok .awaitChange))

theorem mishap_run :
    Run Provision.sampleConfig .unruly ⟨{ cell := .filled "secret" }, (), []⟩ mishapDay afterMishap := by
  let fresh := Reconcile.run Provision.sampleConfig Provision.sample
  let admitted :=
    Program.bind (Reconcile.admitted Provision.sampleConfig sampleKey) (Reconcile.leaving sampleKey)
  let called := duringMishap .empty {} [] [] fresh fresh
  let begun := duringMishap (.only sampleKey) { reconciled := 1 } (Reconcile.opening sampleKey true) [] admitted fresh
  let dropped := duringMishap (.only sampleKey) { reconciled := 2, duplicates := 1 } (Reconcile.opening sampleKey true)
    (Reconcile.turnedAway sampleKey) admitted (.done (.ok .awaitChange))
  have calls : Run Provision.sampleConfig .unruly ⟨{ cell := .filled "secret" }, (), []⟩
      [.arrives Provision.sample, .arrives Provision.sample] called :=
    .step (.arrives _ _) (.step (.arrives _ _) (.none _))
  have begins : Run Provision.sampleConfig .unruly called _ begun :=
    Serves.run Provision.sampleConfig (s := called) (i := 0) (h := Reconcile.opening sampleKey true) rfl
      (.turn (.turn (.here _))) (.turn rfl rfl (.turn ⟨rfl, rfl⟩ rfl (.none _ _)))
  have drops : Run Provision.sampleConfig .unruly begun _ dropped :=
    Serves.run Provision.sampleConfig (s := begun) (i := 1) (h := Reconcile.turnedAway sampleKey) rfl
      (.turn (.turn (.turn (.here _)))) (.turn rfl rfl (.turn ⟨rfl, rfl⟩ rfl (.turn rfl rfl (.none _ _))))
  have any {c : Call} {reply : Outcome c.Result} :
      Surroundings.unruly.Answers () Provision.sample (.call c) reply () := trivial
  have fails : Run Provision.sampleConfig .unruly dropped _ afterMishap :=
    Serves.run Provision.sampleConfig (s := dropped) (i := 0) (h := mishap) rfl
      (.turn (.turn (.turn (.turn (.turn (.turn (.turn (.turn (.turn (.here _))))))))))
      (.turn rfl any (.turn rfl any (.turn rfl any (.turn ⟨rfl, rfl⟩ rfl (.turn rfl any (.turn rfl any
        (.turn rfl rfl (.turn rfl any (.turn rfl rfl (.none _ _))))))))))
  exact run_append_iff.2 ⟨_, calls, run_append_iff.2 ⟨_, begins, run_append_iff.2 ⟨_, drops, fails⟩⟩⟩

/-- In the end two judgements are made, though only one reconciliation has failed. -/
theorem mishap_accounts :
    ∃ entries s, Session Provision.sampleConfig .unruly ⟨{ cell := .filled "secret" }, (), []⟩ entries s ∧
      (Session.turns entries).clientsCreated.length = 1 ∧
      s.shared.metrics = { reconciled := 2, failed := 2, duplicates := 1, compensated := 1 } ∧
      Accounts Provision.sampleConfig .unruly ⟨{ cell := .filled "secret" }, (), []⟩ entries s := by
  let day : List Happening :=
    mishapDay.map .step ++ [.judges Provision.sample mishapError, .judges Provision.sample mishapError]
  have run : Run Provision.sampleConfig .unruly _ (day.filterMap Happening.label?) _ := mishap_run
  obtain ⟨entries, n, told, session⟩ := Session.of_run run 0
  have turns : Session.turns entries = day.filterMap Happening.turn? := congrArg (List.filterMap Happening.turn?) told
  have calm : ∀ turn ∈ Session.turns entries, ¬turn.IsBreakdown := by
    rw [turns]
    decide
  have ended : ∀ t ∈ afterMishap.tasks, t.isRunning = false := by decide
  have accounts := counters_account Provision.sampleConfig .unruly rfl rfl session calm ended
  refine ⟨entries, _, session, ?_, ?_, accounts⟩
  · rw [turns]
    rfl
  · have failed := accounts.failed
    rw [told] at failed
    exact congrArg (fun n => { afterMishap.shared.metrics with failed := n }) failed

end SignOnOperator
