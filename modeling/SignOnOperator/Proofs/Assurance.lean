import SignOnOperator.Proofs.Agreement
import SignOnOperator.Proofs.System
/-!
# What is sure to come about

What a program comes to that runs alone, over surroundings that may answer a call in several ways.  It is sure of an
end if it is answered whatever it asks for, and comes to that end however it is answered (`Program.Sure`).  That is
shown along the program, request by request (`Program.Assures`), where the parts of a program are taken one after
another (`Program.assures_bind_iff`).
-/
namespace SignOnOperator

variable {E α β : Type} {surroundings : Surroundings E} {event : Sso} {shared shared' : Shared} {env env' : E}

namespace Program

/-- Running alone, the program can go on to its end whatever it has been given, and it ends as stated. -/
structure Sure (surroundings : Surroundings E) (event : Sso) (post : α → Shared → E → Prop) (p : Program Operator α)
    (shared : Shared) (env : E) : Prop where
  ends : ∀ {h q shared' env'}, p.Leads h q → Serves surroundings event shared env h shared' env' →
    ∃ h' a shared'' env'', q.Runs h' a ∧ Serves surroundings event shared' env' h' shared'' env''
  post : ∀ {h a shared' env'}, p.Runs h a → Serves surroundings event shared env h shared' env' → post a shared' env'

/-- Each request is answered, and however it is, the program goes on to an end as stated. -/
def Assures (surroundings : Surroundings E) (event : Sso) (post : α → Shared → E → Prop) :
    Program Operator α → Shared → E → Prop
  | done a, shared, env => post a shared env
  | ask r next, shared, env =>
    (∃ reply shared' env', shared.Answers r reply shared' ∧ surroundings.Answers env event r reply env') ∧
      ∀ reply shared' env', shared.Answers r reply shared' → surroundings.Answers env event r reply env' →
        (next reply).Assures surroundings event post shared' env'

variable {post post' : α → Shared → E → Prop} {p : Program Operator α}

theorem Assures.imp (assures : p.Assures surroundings event post shared env)
    (h : ∀ a shared env, post a shared env → post' a shared env) : p.Assures surroundings event post' shared env := by
  induction p generalizing shared env with
  | done a => exact h a shared env assures
  | ask r next ih =>
    obtain ⟨answered, later⟩ := assures
    exact ⟨answered, fun reply shared' env' answers taken => ih reply (later reply shared' env' answers taken)⟩

theorem assures_bind_iff {post : β → Shared → E → Prop} {f : α → Program Operator β} :
    (p.bind f).Assures surroundings event post shared env ↔
      p.Assures surroundings event (fun a shared env => (f a).Assures surroundings event post shared env) shared
        env := by
  induction p generalizing shared env with
  | done a => exact Iff.rfl
  | ask r next ih =>
    refine and_congr_right fun _ => forall₃_congr fun reply shared' env' => ?_
    exact imp_congr_right fun _ => imp_congr_right fun _ => ih reply

namespace Assures

theorem resumes {q : Program Operator α} {h : History Operator} (assures : p.Assures surroundings event post shared env)
    (led : p.Leads h q) (serves : Serves surroundings event shared env h shared' env') :
    q.Assures surroundings event post shared' env' := by
  induction led generalizing shared env with
  | here _ =>
    cases serves
    exact assures
  | turn _ ih =>
    cases serves with
    | turn answered taken later => exact ih (assures.2 _ _ _ answered taken) later

theorem exists_runs (assures : p.Assures surroundings event post shared env) :
    ∃ h a shared' env', p.Runs h a ∧ Serves surroundings event shared env h shared' env' := by
  induction p generalizing shared env with
  | done a => exact ⟨[], a, shared, env, .here _, .none _ _⟩
  | ask r next ih =>
    obtain ⟨⟨reply, shared', env', answered, taken⟩, later⟩ := assures
    obtain ⟨h, a, shared'', env'', run, serves⟩ := ih reply (later reply shared' env' answered taken)
    exact ⟨_, a, shared'', env'', .turn run, .turn answered taken serves⟩

/-- **What is assured is sure to come about.** -/
theorem sure (assures : p.Assures surroundings event post shared env) : p.Sure surroundings event post shared env where
  ends led serves := (assures.resumes led serves).exists_runs
  post run serves := assures.resumes run serves

end Assures

end Program

/-! ## Actions -/

/-- That an action ends with a value, of which something is so. -/
def Outcome.Yields (good : α → Shared → E → Prop) : Outcome α → Shared → E → Prop
  | .ok a, shared, env => good a shared env
  | .error _, _, _ => False
  | .panic, _, _ => False

/-- That an action ends with an error, of which something is so. -/
def Outcome.Fails (bad : Error → Shared → E → Prop) : Outcome α → Shared → E → Prop
  | .ok _, _, _ => False
  | .error e, shared, env => bad e shared env
  | .panic, _, _ => False

theorem Outcome.Yields.imp {good good' : α → Shared → E → Prop} (h : ∀ a, good a shared env → good' a shared' env')
    {o : Outcome α} (yields : o.Yields good shared env) : o.Yields good' shared' env' := by
  cases o with
  | ok a => exact h a yields
  | error _ => exact yields
  | panic => exact yields

theorem Outcome.Fails.imp {bad bad' : Error → Shared → E → Prop} (h : ∀ e, bad e shared env → bad' e shared' env')
    {o : Outcome α} (fails : o.Fails bad shared env) : o.Fails bad' shared' env' := by
  cases o with
  | ok _ => exact fails
  | error e => exact h e fails
  | panic => exact fails

namespace Action

variable {good : α → Shared → E → Prop} {bad : Error → Shared → E → Prop} {x : Routine α}

theorem assures_bind {mid : Outcome α → Shared → E → Prop} {post : Outcome β → Shared → E → Prop} {f : α → Routine β}
    (first : Program.Assures surroundings event mid x shared env)
    (value : ∀ a shared env, mid (.ok a) shared env → Program.Assures surroundings event post (f a) shared env)
    (failure : ∀ e shared env, mid (.error e) shared env → post (.error e) shared env)
    (breakdown : ∀ shared env, mid .panic shared env → post .panic shared env) :
    Program.Assures surroundings event post (Action.bind x f) shared env := by
  refine Program.assures_bind_iff.2 (first.imp fun o shared env ho => ?_)
  cases o with
  | ok a => exact value a shared env ho
  | error e => exact failure e shared env ho
  | panic => exact breakdown shared env ho

/-- What goes on with a value that is sure to be there. -/
theorem assures_bind_yields {post : Outcome β → Shared → E → Prop} {f : α → Routine β}
    (first : Program.Assures surroundings event (Outcome.Yields good) x shared env)
    (later : ∀ a shared env, good a shared env → Program.Assures surroundings event post (f a) shared env) :
    Program.Assures surroundings event post (Action.bind x f) shared env :=
  assures_bind first later (fun _ _ _ => False.elim) fun _ _ => False.elim

/-- What is not gone on with, since there is sure to be an error. -/
theorem assures_bind_fails {f : α → Routine β}
    (first : Program.Assures surroundings event (Outcome.Fails bad) x shared env) :
    Program.Assures surroundings event (Outcome.Fails bad) (Action.bind x f) shared env :=
  assures_bind first (fun _ _ _ => False.elim) (fun _ _ _ => id) fun _ _ => id

theorem assures_ofExcept_bind {post : Outcome β → Shared → E → Prop} {result : Except Error α} {a : α}
    {f : α → Routine β} (ha : result = .ok a) (later : Program.Assures surroundings event post (f a) shared env) :
    Program.Assures surroundings event post (Action.bind (Action.ofExcept result) f) shared env := by
  subst ha
  exact later

theorem assures_mapError {post : Outcome α → Shared → E → Prop} {f : Error → Error}
    (assures : Program.Assures surroundings event (fun o => post (o.mapError f)) x shared env) :
    Program.Assures surroundings event post (x.mapError f) shared env :=
  mapError_eq x f ▸ Program.assures_bind_iff.2 assures

theorem yields_mapError {f : Error → Error}
    (assures : Program.Assures surroundings event (Outcome.Yields good) x shared env) :
    Program.Assures surroundings event (Outcome.Yields good) (x.mapError f) shared env := by
  refine assures_mapError (assures.imp fun o _ _ ho => ?_)
  cases o with
  | ok _ => exact ho
  | error _ => exact ho
  | panic => exact ho

theorem fails_mapError {f : Error → Error}
    (assures : Program.Assures surroundings event (Outcome.Fails fun e => bad (f e)) x shared env) :
    Program.Assures surroundings event (Outcome.Fails bad) (x.mapError f) shared env := by
  refine assures_mapError (assures.imp fun o _ _ ho => ?_)
  cases o with
  | ok _ => exact ho
  | error _ => exact ho
  | panic => exact ho

theorem assures_attempt {post : Outcome (Except Error α) → Shared → E → Prop}
    (assures : Program.Assures surroundings event (fun o => post o.attempt) x shared env) :
    Program.Assures surroundings event post x.attempt shared env :=
  attempt_eq x ▸ Program.assures_bind_iff.2 assures

theorem assures_attempt_bind {mid : Outcome α → Shared → E → Prop} {post : Outcome β → Shared → E → Prop}
    {f : Except Error α → Routine β} (first : Program.Assures surroundings event mid x shared env)
    (value : ∀ a shared env, mid (.ok a) shared env → Program.Assures surroundings event post (f (.ok a)) shared env)
    (failure : ∀ e shared env, mid (.error e) shared env →
      Program.Assures surroundings event post (f (.error e)) shared env)
    (breakdown : ∀ shared env, mid .panic shared env → post .panic shared env) :
    Program.Assures surroundings event post (Action.bind x.attempt f) shared env := by
  refine Program.assures_bind_iff.2 (assures_attempt (first.imp fun o shared env ho => ?_))
  cases o with
  | ok a => exact value a shared env ho
  | error e => exact failure e shared env ho
  | panic => exact breakdown shared env ho

/-- What is tried, and is sure to work. -/
theorem assures_attempt_bind_yields {post : Outcome β → Shared → E → Prop} {f : Except Error α → Routine β}
    (first : Program.Assures surroundings event (Outcome.Yields good) x shared env)
    (later : ∀ a shared env, good a shared env →
      Program.Assures surroundings event post (f (.ok a)) shared env) :
    Program.Assures surroundings event post (Action.bind x.attempt f) shared env :=
  assures_attempt_bind first later (fun _ _ _ => False.elim) fun _ _ => False.elim

/-- What is tried, and is sure not to work. -/
theorem assures_attempt_bind_fails {post : Outcome β → Shared → E → Prop} {f : Except Error α → Routine β}
    (first : Program.Assures surroundings event (Outcome.Fails bad) x shared env)
    (later : ∀ e shared env, bad e shared env →
      Program.Assures surroundings event post (f (.error e)) shared env) :
    Program.Assures surroundings event post (Action.bind x.attempt f) shared env :=
  assures_attempt_bind first (fun _ _ _ => False.elim) later fun _ _ => False.elim

end Action

/-! ## Requests -/

namespace Routine

theorem assures_call {c : Call} {post : Outcome c.Result → Shared → E → Prop}
    (answered : ∃ outcome env', surroundings.answers env event c outcome env')
    (ends : ∀ outcome env', surroundings.answers env event c outcome env' → post outcome shared env') :
    Program.Assures surroundings event post (Routine.call c) shared env := by
  obtain ⟨outcome, env', taken⟩ := answered
  refine ⟨⟨outcome, shared, env', rfl, taken⟩, ?_⟩
  rintro outcome _ env' rfl taken
  exact ends outcome env' taken

/-- A request that the surroundings have nothing to do with. -/
theorem assures_ask {post : α → Shared → E → Prop} {r : OperatorRequest} {next : r.Reply → Program Operator α}
    (own : ∀ reply env', surroundings.Answers env event r reply env' ↔ env' = env)
    (answered : ∃ reply shared', shared.Answers r reply shared')
    (later : ∀ reply shared', shared.Answers r reply shared' →
      Program.Assures surroundings event post (next reply) shared' env) :
    Program.Assures surroundings event post (.ask (I := Operator) r next) shared env := by
  obtain ⟨reply, shared', answers⟩ := answered
  refine ⟨⟨reply, shared', env, answers, (own reply env).2 rfl⟩, fun reply shared' env' answers taken => ?_⟩
  obtain rfl := (own reply env').1 taken
  exact later reply shared' answers

theorem assures_request_bind {post : Outcome β → Shared → E → Prop} {r : OperatorRequest} {f : r.Reply → Routine β}
    (own : ∀ reply env', surroundings.Answers env event r reply env' ↔ env' = env)
    (answered : ∃ reply shared', shared.Answers r reply shared')
    (later : ∀ reply shared', shared.Answers r reply shared' →
      Program.Assures surroundings event post (f reply) shared' env) :
    Program.Assures surroundings event post (Action.bind (Action.request (I := Operator) r) f) shared env :=
  assures_ask own answered later

end Routine

namespace Waiting

/-- **A wait for what is there already** ends with the first question. -/
theorem assures_wait {what : String} {polling : Polling} {c : Call} {judge : c.Result → Verdict}
    {post : Outcome Unit → Shared → E → Prop}
    (asked : Program.Assures surroundings event
      (Outcome.Yields fun found shared env => judge found = .ready ∧ post (.ok ()) shared env) (Routine.call c)
      shared env) :
    Program.Assures surroundings event post (wait what polling (ask c judge)) shared env := by
  have question : Program.Assures surroundings event
      (Outcome.Yields fun verdict shared env => verdict = .ready ∧ post (.ok ()) shared env) (ask c judge) shared env :=
    Action.assures_attempt_bind_yields asked fun _ _ _ => id
  have first : ∀ deadline again,
      Program.Assures surroundings event post (askUntil what polling deadline (ask c judge) again) shared env := by
    refine fun deadline again => Action.assures_bind_yields question ?_
    rintro _ shared env ⟨rfl, ended⟩
    exact ended
  refine Routine.assures_request_bind (r := .clock) (fun _ _ => Iff.rfl) ⟨(0 : Nat), shared, rfl⟩ ?_
  rintro start _ rfl
  cases polling.rounds with
  | zero => exact first _ _
  | succ _ => exact first _ _

end Waiting
end SignOnOperator
