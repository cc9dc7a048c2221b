import SignOnOperator.Proofs.History
import SignOnOperator.Reconcile.Reconcile
import SignOnOperator.Rehearsal.World
/-!
# Systems

Any number of reconciliations side by side, over the state that they share and surroundings that answer their
calls.  They take their steps in any order, one request at a time; between two steps new events may come in, and the
surroundings may change on their own.  A rehearsal answers requests in the same way (`Rehearsal.handle_answers`).
-/
namespace SignOnOperator

open Rehearsal (Cell)

/-- The state that all reconciliations share. -/
structure Shared where
  inFlight : InFlight := .empty
  metrics : Metrics := {}
  cell : Cell := .empty

/-- How the shared state answers a request, and what becomes of it.  It leaves open how a call ends, what the time is
and what is drawn; nobody enters a cell while somebody else is loading it. -/
def Shared.Answers (s : Shared) : (r : OperatorRequest) → r.Reply → Shared → Prop
  | .acquire key, free, s' =>
    match s.inFlight.tryAcquire key with
    | some inFlight => free = true ∧ s' = { s with inFlight }
    | none => free = false ∧ s' = s
  | .release key, _, s' => s' = { s with inFlight := s.inFlight.release key }
  | .count c, _, s' => s' = { s with metrics := s.metrics.count c }
  | .enterCell, held, s' =>
    match s.cell with
    | .empty => held = none ∧ s' = { s with cell := .loading }
    | .loading => False
    | .filled secret => held = some secret ∧ s' = s
  | .fillCell secret, _, s' => s' = { s with cell := .filled secret }
  | .leaveCell, _, s' => s' = { s with cell := .empty }
  | .call _, _, s' | .clock, _, s' | .pause _, _, s' | .draw, _, s' => s' = s

/-- What answers the calls: how a call made for an event may end in a state, and what state it leaves; and how the
state may change on its own. -/
structure Surroundings (E : Type) where
  answers : E → Sso → (c : Call) → Outcome c.Result → E → Prop
  drifts : E → E → Prop

/-- How the surroundings take a request made for an event; only calls concern them. -/
def Surroundings.Answers {E : Type} (surroundings : Surroundings E) (env : E) (event : Sso) :
    (r : OperatorRequest) → r.Reply → E → Prop
  | .call c, outcome, env' => surroundings.answers env event c outcome env'
  | _, _, env' => env' = env

/-- A reconciliation: the event that it deals with, what it has been given, and what is left of it. -/
structure Task where
  event : Sso
  history : History Operator
  rest : Program Operator (Outcome Followup)

namespace Task

def start (config : Config) (event : Sso) : Task := ⟨event, [], Reconcile.run config event⟩

def isRunning (t : Task) : Bool :=
  match t.rest with
  | .ask _ _ => true
  | .done _ => false

def after (t : Task) (turn : Turn Operator) (rest : Program Operator (Outcome Followup)) : Task :=
  { t with history := t.history ++ [turn], rest }

end Task

/-- Reconciliations in the order of their events, with what they share. -/
structure System (E : Type) where
  shared : Shared
  env : E
  tasks : List Task

inductive Label where
  | arrives (event : Sso)
  | proceeds (i : Nat) (turn : Turn Operator)
  | drifts

variable {E : Type}

/-- One step of a system. -/
inductive Step (config : Config) (surroundings : Surroundings E) : System E → Label → System E → Prop where
  | arrives (s : System E) (event : Sso) :
      Step config surroundings s (.arrives event) { s with tasks := s.tasks ++ [.start config event] }
  | proceeds {s : System E} {i : Nat} {t : Task} {r : OperatorRequest}
      {next : r.Reply → Program Operator (Outcome Followup)} {reply : r.Reply} {shared : Shared} {env : E}
      (ht : s.tasks[i]? = some t) (asks : t.rest = .ask (I := Operator) r next)
      (answered : s.shared.Answers r reply shared) (taken : surroundings.Answers s.env t.event r reply env) :
      Step config surroundings s (.proceeds i ⟨r, reply⟩) ⟨shared, env, s.tasks.set i (t.after ⟨r, reply⟩ (next reply))⟩
  | drifts {s : System E} {env : E} (drift : surroundings.drifts s.env env) :
      Step config surroundings s .drifts { s with env }

inductive Run (config : Config) (surroundings : Surroundings E) : System E → List Label → System E → Prop where
  | none (s : System E) : Run config surroundings s [] s
  | step {s s' s'' : System E} {l : Label} {ls : List Label} (first : Step config surroundings s l s')
      (later : Run config surroundings s' ls s'') : Run config surroundings s (l :: ls) s''

variable {config : Config} {surroundings : Surroundings E}

theorem run_append_iff {s s'' : System E} {ls ls' : List Label} :
    Run config surroundings s (ls ++ ls') s'' ↔
      ∃ s', Run config surroundings s ls s' ∧ Run config surroundings s' ls' s'' := by
  constructor
  · intro run
    induction ls generalizing s with
    | nil => exact ⟨s, .none s, run⟩
    | cons l ls ih =>
      cases run with
      | step first later =>
        obtain ⟨s', run, rest⟩ := ih later
        exact ⟨s', .step first run, rest⟩
  · rintro ⟨s', run, rest⟩
    induction run with
    | none _ => exact rest
    | step first _ ih => exact .step first (ih rest)

/-- What every step keeps, a run keeps. -/
theorem Run.keeps {P : System E → Prop} {s s' : System E} {ls : List Label} (run : Run config surroundings s ls s')
    (keeps : ∀ {s l s'}, P s → Step config surroundings s l s' → P s') (start : P s) : P s' := by
  induction run with
  | none _ => exact start
  | step first _ ih => exact ih (keeps start first)

/-! ## One reconciliation of a system -/

/-- The second is the first, some turns later. -/
def Task.Later (t t' : Task) : Prop :=
  t'.event = t.event ∧ ∃ h, t'.history = t.history ++ h ∧ t.rest.Leads h t'.rest

namespace Task.Later

theorem refl (t : Task) : t.Later t := ⟨rfl, [], (List.append_nil _).symm, .here _⟩

theorem trans {t t' t'' : Task} (l : t.Later t') (l' : t'.Later t'') : t.Later t'' := by
  obtain ⟨he, h, hh, leads⟩ := l
  obtain ⟨he', h', hh', leads'⟩ := l'
  exact ⟨he'.trans he, h ++ h', by rw [hh', hh, List.append_assoc], leads.append leads'⟩

theorem isRunning {t t' : Task} (l : t.Later t') (running : t'.isRunning = true) : t.isRunning = true := by
  obtain ⟨-, h, -, leads⟩ := l
  unfold Task.isRunning
  cases hr : t.rest with
  | ask _ _ => rfl
  | done o =>
    rw [hr] at leads
    have same := (Program.leads_done_iff.1 leads).2
    unfold Task.isRunning at running
    rw [same] at running
    cases running

end Task.Later

/-- The list with an item replaced, cut at that item. -/
theorem exists_of_getElem?_eq_some {α : Type} {l : List α} {i : Nat} {a : α} (h : l[i]? = some a) :
    ∃ before later, l = before ++ a :: later ∧ before.length = i ∧ ∀ b, l.set i b = before ++ b :: later := by
  obtain ⟨hi, ha⟩ := List.getElem?_eq_some_iff.1 h
  refine ⟨l.take i, l.drop (i + 1), ?_, List.length_take_of_le (Nat.le_of_lt hi), fun b => ?_⟩
  · rw [← ha, ← List.drop_eq_getElem_cons, List.take_append_drop]
  · exact List.set_eq_take_append_cons_drop.trans (if_pos hi)

/-- Every reconciliation is still there after a step, at its place. -/
theorem Step.later {s s' : System E} {l : Label} (step : Step config surroundings s l s') {i : Nat} {t : Task}
    (ht : s.tasks[i]? = some t) : ∃ t', s'.tasks[i]? = some t' ∧ t.Later t' := by
  cases step with
  | arrives event =>
    exact ⟨t, (List.getElem?_append_left (List.getElem?_eq_some_iff.1 ht).1).trans ht, .refl t⟩
  | drifts _ => exact ⟨t, ht, .refl t⟩
  | @proceeds j u r next reply shared env hu asks answered taken =>
    by_cases same : j = i
    · subst same
      obtain rfl := Option.some.inj (hu.symm.trans ht)
      refine ⟨_, List.getElem?_set_self (List.getElem?_eq_some_iff.1 ht).1, rfl, [⟨r, reply⟩], rfl, ?_⟩
      rw [asks]
      exact .turn (.here _)
    · exact ⟨t, (List.getElem?_set_ne same).trans ht, .refl t⟩

theorem Run.later {s s' : System E} {ls : List Label} (run : Run config surroundings s ls s') {i : Nat} {t : Task}
    (ht : s.tasks[i]? = some t) : ∃ t', s'.tasks[i]? = some t' ∧ t.Later t' := by
  induction run generalizing t with
  | none _ => exact ⟨t, ht, .refl t⟩
  | step first _ ih =>
    obtain ⟨t', ht', l⟩ := first.later ht
    obtain ⟨t'', ht'', l'⟩ := ih ht'
    exact ⟨t'', ht'', l.trans l'⟩

/-! ## One reconciliation alone -/

/-- How a history of a reconciliation is answered while nothing else happens. -/
inductive Serves (surroundings : Surroundings E) (event : Sso) :
    Shared → E → History Operator → Shared → E → Prop where
  | none (shared : Shared) (env : E) : Serves surroundings event shared env [] shared env
  | turn {shared shared' shared'' : Shared} {env env' env'' : E} {r : OperatorRequest} {reply : r.Reply}
      {h : History Operator} (answered : shared.Answers r reply shared')
      (taken : surroundings.Answers env event r reply env')
      (later : Serves surroundings event shared' env' h shared'' env'') :
      Serves surroundings event shared env (⟨r, reply⟩ :: h) shared'' env''

theorem Serves.append {event : Sso} {shared shared' shared'' : Shared} {env env' env'' : E} {h h' : History Operator}
    (serves : Serves surroundings event shared env h shared' env')
    (serves' : Serves surroundings event shared' env' h' shared'' env'') :
    Serves surroundings event shared env (h ++ h') shared'' env'' := by
  induction serves with
  | none _ _ => exact serves'
  | turn answered taken _ ih => exact .turn answered taken (ih serves')

theorem Serves.run (config : Config) {s : System E} {i : Nat} {event : Sso} {h₀ h : History Operator}
    {p q : Program Operator (Outcome Followup)} {shared : Shared} {env : E} (ht : s.tasks[i]? = some ⟨event, h₀, p⟩)
    (led : p.Leads h q) (serves : Serves surroundings event s.shared s.env h shared env) :
    Run config surroundings s (h.map (.proceeds i)) ⟨shared, env, s.tasks.set i ⟨event, h₀ ++ h, q⟩⟩ := by
  -- Each turn is one step of the system, which leaves the same reconciliation at the same place.
  induction h generalizing s h₀ p with
  | nil =>
    cases serves
    obtain rfl := Program.leads_nil_iff.1 led
    obtain ⟨hi, here⟩ := List.getElem?_eq_some_iff.1 ht
    rw [List.append_nil, ← here, List.set_getElem_self]
    exact .none s
  | cons t h ih =>
    cases serves with
    | @turn _ shared' _ _ env' _ r reply _ answered taken later =>
      cases led with
      | @turn _ next _ _ _ led =>
        have hi := (List.getElem?_eq_some_iff.1 ht).1
        have rest := ih (s := ⟨shared', env', s.tasks.set i ⟨event, h₀ ++ [⟨r, reply⟩], next reply⟩⟩)
          (List.getElem?_set_self hi) led later
        rw [List.set_set, List.append_assoc] at rest
        exact .step (.proceeds ht rfl answered taken) rest

/-- An event comes in, and all that is done about it is done before anything else happens. -/
theorem Serves.attend {s : System E} {event : Sso} {h : History Operator} {o : Outcome Followup} {shared : Shared}
    {env : E} (ran : Program.Runs (Reconcile.run config event) h o)
    (serves : Serves surroundings event s.shared s.env h shared env) :
    Run config surroundings s (.arrives event :: h.map (.proceeds s.tasks.length))
      ⟨shared, env, s.tasks ++ [⟨event, h, .done o⟩]⟩ := by
  refine .step (.arrives s event) ?_
  have run := serves.run config (s := { s with tasks := s.tasks ++ [.start config event] })
    List.getElem?_concat_length ran
  rwa [List.set_append_right _ _ (Nat.le_refl _), Nat.sub_self] at run

/-! ## Rehearsals -/

namespace Rehearsal

def World.shared (w : World) : Shared := ⟨w.inFlight, w.metrics, w.cell⟩

/-- What becomes of a request in a rehearsal is an answer of the shared state, now or later, or there is none. -/
def Handled.Conforms {r : OperatorRequest} (w : World) : Handled r.Reply → Prop
  | .reply given w' _ => w.shared.Answers r given w'.shared
  | .sleep _ w' _ finish =>
    w'.shared = w.shared ∧ ∀ (v : World) stage, v.shared.Answers r (finish v stage).1 (finish v stage).2.1.shared
  | .queue => ∀ given s', ¬w.shared.Answers r given s'

theorem World.modify_shared (w : World) (key : String) (f : Sso → Sso) : (w.modify key f).shared = w.shared := by
  unfold modify
  split
  · rfl
  · rfl

theorem World.collect_shared (w : World) (key : String) : (w.collect key).shared = w.shared := by
  unfold collect
  split
  · split
    · rfl
    · rfl
  · rfl

theorem settle_shared (w : World) (stage : Stage) (c : Call) : (settle w stage c).1.shared = w.shared := by
  cases c with
  | patchSsoStatus ns name status => exact w.modify_shared _ _
  | patchSsoFinalizers ns name finalizers => exact (World.collect_shared _ _).trans (w.modify_shared _ _)
  | _ => rfl

theorem endCall_shared (w : World) (stage : Stage) (c : Call) (ending : Ending) :
    (endCall w stage c ending).2.1.shared = w.shared := by
  unfold endCall
  dsimp only
  split
  · exact settle_shared w stage c
  · rfl

theorem after_conforms {r : OperatorRequest} (d : Duration) (w : World) (stage : Stage)
    {finish : World → Stage → r.Reply × World × Stage}
    (answers : ∀ (v : World) stage, v.shared.Answers r (finish v stage).1 (finish v stage).2.1.shared) :
    (Handled.after d w stage finish).Conforms w := by
  unfold Handled.after
  split
  · exact answers w stage
  · exact ⟨rfl, answers⟩

/-- **A rehearsal answers requests as a system does.** -/
theorem handle_answers (w : World) (stage : Stage) (r : OperatorRequest) : (handle w stage r).Conforms w := by
  cases r with
  | call c => exact after_conforms _ w _ fun v stage => endCall_shared v stage c _
  | pause d => exact after_conforms d w stage fun _ _ => rfl
  | acquire key =>
    cases h : w.inFlight.tryAcquire key with
    | some inFlight =>
      simp only [handle, Handled.Conforms, Shared.Answers, World.shared, h]
      exact ⟨rfl, trivial⟩
    | none =>
      simp only [handle, Handled.Conforms, Shared.Answers, World.shared, h]
      exact ⟨rfl, trivial⟩
  | enterCell =>
    cases h : w.cell with
    | empty =>
      simp only [handle, Handled.Conforms, Shared.Answers, World.shared, h]
      exact ⟨rfl, trivial⟩
    | loading =>
      simp only [handle, Handled.Conforms, Shared.Answers, World.shared, h]
      exact fun _ _ => id
    | filled secret =>
      simp only [handle, Handled.Conforms, Shared.Answers, World.shared, h]
      exact ⟨rfl, trivial⟩
  | clock | draw | release _ | count _ | fillCell _ | leaveCell =>
    simp [handle, Handled.Conforms, Shared.Answers, World.shared]

end Rehearsal
end SignOnOperator
