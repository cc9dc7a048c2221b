import SignOnOperator.Cluster.Call
/-!
# Histories

What a program has asked for so far and what it was given, in order.  A history leads from a program to what is left
of it.  The statements here take the histories of a composed program apart into those of its parts: `runs_bind_iff`
for those that come to the end, `asks_bind_iff` for those that come to a request.
-/
namespace SignOnOperator

structure Turn (I : Interface) where
  request : I.Request
  reply : I.Reply request

abbrev History (I : Interface) : Type := List (Turn I)

namespace Program

variable {I : Interface} {α β : Type}

/-- The history takes the first program to the second, which is what is left of it. -/
inductive Leads : Program I α → History I → Program I α → Prop where
  | here (p : Program I α) : Leads p [] p
  | turn {r : I.Request} {next : I.Reply r → Program I α} {reply : I.Reply r} {h : History I} {q : Program I α}
      (later : Leads (next reply) h q) : Leads (.ask r next) (⟨r, reply⟩ :: h) q

/-- The history takes the program to its end, with this result. -/
def Runs (p : Program I α) (h : History I) (a : α) : Prop := p.Leads h (.done a)

/-- The history takes the program to a request. -/
def Asks (p : Program I α) (h : History I) (r : I.Request) : Prop := ∃ next, p.Leads h (.ask r next)

theorem leads_nil_iff {p q : Program I α} : p.Leads [] q ↔ p = q :=
  ⟨fun h => by cases h; rfl, fun h => h ▸ .here p⟩

theorem leads_done_iff {a : α} {h : History I} {q : Program I α} : (done a).Leads h q ↔ h = [] ∧ q = done a :=
  ⟨fun l => by cases l; exact ⟨rfl, rfl⟩, fun ⟨hh, hq⟩ => hh ▸ hq ▸ .here _⟩

theorem leads_ask_iff {r : I.Request} {next : I.Reply r → Program I α} {h : History I} {q : Program I α} :
    (ask r next).Leads h q ↔
      (h = [] ∧ q = ask r next) ∨ ∃ reply h', h = ⟨r, reply⟩ :: h' ∧ (next reply).Leads h' q := by
  constructor
  · intro l
    cases l with
    | here => exact .inl ⟨rfl, rfl⟩
    | turn later => exact .inr ⟨_, _, rfl, later⟩
  · rintro (⟨rfl, rfl⟩ | ⟨reply, h', rfl, later⟩)
    · exact .here _
    · exact .turn later

theorem Leads.append {p q s : Program I α} {h h' : History I} (l : p.Leads h q) (l' : q.Leads h' s) :
    p.Leads (h ++ h') s := by
  induction l with
  | here _ => exact l'
  | turn _ ih => exact .turn (ih l')

theorem leads_append_iff {p s : Program I α} {h h' : History I} :
    p.Leads (h ++ h') s ↔ ∃ q, p.Leads h q ∧ q.Leads h' s := by
  constructor
  · intro l
    induction h generalizing p with
    | nil => exact ⟨p, .here p, l⟩
    | cons t h ih =>
      cases l with
      | turn later =>
        obtain ⟨q, hq, hs⟩ := ih later
        exact ⟨q, .turn hq, hs⟩
  · rintro ⟨q, hq, hs⟩
    exact hq.append hs

/-- What is left of a program depends only on what it has been given. -/
theorem Leads.unique {p q q' : Program I α} {h : History I} (l : p.Leads h q) (l' : p.Leads h q') : q = q' := by
  induction l with
  | here _ => exact leads_nil_iff.1 l'
  | turn _ ih =>
    cases l' with
    | turn later => exact ih later

/-! ## Programs in sequence -/

theorem Leads.bind {p q : Program I α} {h : History I} (l : p.Leads h q) (f : α → Program I β) :
    (p.bind f).Leads h (q.bind f) := by
  induction l with
  | here _ => exact .here _
  | turn _ ih => exact .turn ih

theorem leads_bind_iff {p : Program I α} {f : α → Program I β} {h : History I} {q : Program I β} :
    (p.bind f).Leads h q ↔
      (∃ p', q = p'.bind f ∧ p.Leads h p') ∨
        ∃ a h₁ h₂, h = h₁ ++ h₂ ∧ p.Runs h₁ a ∧ (f a).Leads h₂ q := by
  constructor
  · -- The history ends within the first program, or it runs through that and goes on in the second.
    intro l
    induction p generalizing h with
    | done a => exact .inr ⟨a, [], h, rfl, .here _, l⟩
    | ask r next ih =>
      rcases leads_ask_iff.1 l with ⟨rfl, rfl⟩ | ⟨reply, h', rfl, later⟩
      · exact .inl ⟨ask r next, rfl, .here _⟩
      · rcases ih reply later with ⟨p', rfl, l'⟩ | ⟨a, h₁, h₂, rfl, run, l'⟩
        · exact .inl ⟨p', rfl, .turn l'⟩
        · exact .inr ⟨a, ⟨r, reply⟩ :: h₁, h₂, rfl, .turn run, l'⟩
  · rintro (⟨p', rfl, l⟩ | ⟨a, h₁, h₂, rfl, run, l⟩)
    · exact l.bind f
    · exact (Leads.bind run f).append l

theorem Runs.unique {p : Program I α} {h : History I} {a b : α} (run : p.Runs h a) (run' : p.Runs h b) : a = b := by
  cases Leads.unique run run'
  rfl

/-- Once it has ended, a program asks for nothing. -/
theorem Runs.not_asks {p : Program I α} {h : History I} {a : α} {r : I.Request} (run : p.Runs h a) : ¬p.Asks h r := by
  rintro ⟨next, led⟩
  cases Leads.unique run led

theorem bind_eq_done {p : Program I α} {f : α → Program I β} {b : β} (h : p.bind f = done b) :
    ∃ a, p = done a ∧ f a = done b := by
  cases p with
  | done a => exact ⟨a, rfl, h⟩
  | ask r next => cases h

theorem runs_done_iff {a b : α} {h : History I} : (done a).Runs h b ↔ h = [] ∧ b = a := by
  unfold Runs
  rw [leads_done_iff, done.injEq]

theorem runs_ask_iff {r : I.Request} {next : I.Reply r → Program I α} {h : History I} {a : α} :
    (ask r next).Runs h a ↔ ∃ reply h', h = ⟨r, reply⟩ :: h' ∧ (next reply).Runs h' a := by
  unfold Runs
  rw [leads_ask_iff]
  simp

theorem runs_ask_done_iff {r : I.Request} {f : I.Reply r → α} {h : History I} {a : α} :
    (ask r fun reply => done (f reply)).Runs h a ↔ ∃ reply, h = [⟨r, reply⟩] ∧ a = f reply := by
  rw [runs_ask_iff]
  constructor
  · rintro ⟨reply, h', rfl, last⟩
    obtain ⟨rfl, rfl⟩ := runs_done_iff.1 last
    exact ⟨reply, rfl, rfl⟩
  · rintro ⟨reply, rfl, rfl⟩
    exact ⟨reply, [], rfl, runs_done_iff.2 ⟨rfl, rfl⟩⟩

theorem runs_bind_iff {p : Program I α} {f : α → Program I β} {h : History I} {b : β} :
    (p.bind f).Runs h b ↔ ∃ a h₁ h₂, h = h₁ ++ h₂ ∧ p.Runs h₁ a ∧ (f a).Runs h₂ b := by
  constructor
  · intro l
    rcases leads_bind_iff.1 l with ⟨p', hp, l'⟩ | found
    · obtain ⟨a, rfl, hf⟩ := bind_eq_done hp.symm
      exact ⟨a, h, [], (List.append_nil h).symm, l', hf ▸ .here _⟩
    · exact found
  · intro found
    exact leads_bind_iff.2 (.inr found)

theorem not_asks_done {a : α} {h : History I} {r : I.Request} : ¬(done a).Asks h r := by
  rintro ⟨next, l⟩
  cases (leads_done_iff.1 l).2

theorem asks_ask_iff {r r' : I.Request} {next : I.Reply r → Program I α} {h : History I} :
    (ask r next).Asks h r' ↔ (h = [] ∧ r' = r) ∨ ∃ reply h', h = ⟨r, reply⟩ :: h' ∧ (next reply).Asks h' r' := by
  constructor
  · rintro ⟨next', l⟩
    rcases leads_ask_iff.1 l with ⟨rfl, hq⟩ | ⟨reply, h', rfl, later⟩
    · cases hq
      exact .inl ⟨rfl, rfl⟩
    · exact .inr ⟨reply, h', rfl, next', later⟩
  · rintro (⟨rfl, rfl⟩ | ⟨reply, h', rfl, next', later⟩)
    · exact ⟨next, .here _⟩
    · exact ⟨next', .turn later⟩

theorem asks_bind_iff {p : Program I α} {f : α → Program I β} {h : History I} {r : I.Request} :
    (p.bind f).Asks h r ↔ p.Asks h r ∨ ∃ a h₁ h₂, h = h₁ ++ h₂ ∧ p.Runs h₁ a ∧ (f a).Asks h₂ r := by
  constructor
  · rintro ⟨next, l⟩
    rcases leads_bind_iff.1 l with ⟨p', hp, l'⟩ | ⟨a, h₁, h₂, rfl, run, l'⟩
    · cases p' with
      | done a => exact .inr ⟨a, h, [], (List.append_nil h).symm, l', next, leads_nil_iff.2 hp.symm⟩
      | ask r' next' =>
        cases hp
        exact .inl ⟨next', l'⟩
    · exact .inr ⟨a, h₁, h₂, rfl, run, next, l'⟩
  · rintro (⟨next, l⟩ | ⟨a, h₁, h₂, rfl, run, next, l⟩)
    · exact ⟨_, l.bind f⟩
    · exact ⟨next, (Leads.bind run f).append l⟩

theorem runs_bind_done_iff {p : Program I α} {g : α → β} {h : History I} {b : β} :
    (p.bind fun a => done (g a)).Runs h b ↔ ∃ a, b = g a ∧ p.Runs h a := by
  rw [runs_bind_iff]
  constructor
  · rintro ⟨a, h₁, h₂, rfl, run, later⟩
    obtain ⟨rfl, rfl⟩ := runs_done_iff.1 later
    exact ⟨a, rfl, (List.append_nil h₁).symm ▸ run⟩
  · rintro ⟨a, rfl, run⟩
    exact ⟨a, h, [], (List.append_nil h).symm, run, .here _⟩

theorem asks_bind_done_iff {p : Program I α} {g : α → β} {h : History I} {r : I.Request} :
    (p.bind fun a => done (g a)).Asks h r ↔ p.Asks h r := by
  rw [asks_bind_iff]
  constructor
  · rintro (asked | ⟨a, h₁, h₂, rfl, run, later⟩)
    · exact asked
    · exact absurd later not_asks_done
  · exact .inl

end Program

/-! ## Actions -/

namespace Action

variable {I : Interface} {α β γ : Type}

theorem bind_def (x : Action I α) (f : α → Action I β) : (x >>= f) = Action.bind x f := rfl

/-- How an action ends that goes on with the value of another. -/
theorem runs_bind_iff {x : Action I α} {f : α → Action I β} {h : History I} {o : Outcome β} :
    Program.Runs (Action.bind x f) h o ↔
      (∃ a h₁ h₂, h = h₁ ++ h₂ ∧ Program.Runs x h₁ (.ok a) ∧ Program.Runs (f a) h₂ o) ∨
        (∃ e, o = .error e ∧ Program.Runs x h (.error e)) ∨ (o = .panic ∧ Program.Runs x h .panic) := by
  refine Iff.trans Program.runs_bind_iff ⟨?_, ?_⟩
  · rintro ⟨a, h₁, h₂, rfl, run, later⟩
    cases a with
    | ok a => exact .inl ⟨a, h₁, h₂, rfl, run, later⟩
    | error e =>
      obtain ⟨rfl, rfl⟩ := Program.runs_done_iff.1 later
      rw [List.append_nil]
      exact .inr (.inl ⟨e, rfl, run⟩)
    | panic =>
      obtain ⟨rfl, rfl⟩ := Program.runs_done_iff.1 later
      rw [List.append_nil]
      exact .inr (.inr ⟨rfl, run⟩)
  · rintro (⟨a, h₁, h₂, rfl, run, later⟩ | ⟨e, rfl, run⟩ | ⟨rfl, run⟩)
    · exact ⟨_, h₁, h₂, rfl, run, later⟩
    · exact ⟨_, h, [], (List.append_nil h).symm, run, .here _⟩
    · exact ⟨_, h, [], (List.append_nil h).symm, run, .here _⟩

theorem runs_bind_ok_iff {x : Action I α} {f : α → Action I β} {h : History I} {b : β} :
    Program.Runs (Action.bind x f) h (.ok b) ↔
      ∃ a h₁ h₂, h = h₁ ++ h₂ ∧ Program.Runs x h₁ (.ok a) ∧ Program.Runs (f a) h₂ (.ok b) := by
  rw [runs_bind_iff]
  simp

theorem asks_bind_iff {x : Action I α} {f : α → Action I β} {h : History I} {r : I.Request} :
    Program.Asks (Action.bind x f) h r ↔
      Program.Asks x h r ∨
        ∃ a h₁ h₂, h = h₁ ++ h₂ ∧ Program.Runs x h₁ (.ok a) ∧ Program.Asks (f a) h₂ r := by
  refine Iff.trans Program.asks_bind_iff ⟨?_, ?_⟩
  · rintro (asked | ⟨o, h₁, h₂, rfl, run, later⟩)
    · exact .inl asked
    · cases o with
      | ok a => exact .inr ⟨a, h₁, h₂, rfl, run, later⟩
      | error e => exact absurd later Program.not_asks_done
      | panic => exact absurd later Program.not_asks_done
  · rintro (asked | ⟨a, h₁, h₂, rfl, run, later⟩)
    · exact .inl asked
    · exact .inr ⟨_, h₁, h₂, rfl, run, later⟩

theorem bind_assoc (x : Action I α) (f : α → Action I β) (g : β → Action I γ) :
    Action.bind (Action.bind x f) g = Action.bind x fun a => Action.bind (f a) g := by
  refine (Program.bind_assoc x _ _).trans (congrArg (Program.bind x) (funext fun o => ?_))
  cases o with
  | ok a => rfl
  | error e => rfl
  | panic => rfl

/-! ### The simplest actions -/

theorem runs_pure_iff {a : α} {h : History I} {o : Outcome α} :
    Program.Runs (pure a : Action I α) h o ↔ h = [] ∧ o = .ok a := Program.runs_done_iff

theorem runs_fail_iff {e : Error} {h : History I} {o : Outcome α} :
    Program.Runs (fail e : Action I α) h o ↔ h = [] ∧ o = .error e := Program.runs_done_iff

theorem runs_request_bind_iff {r : I.Request} {f : I.Reply r → Action I α} {h : History I} {o : Outcome α} :
    Program.Runs (Action.bind (request r) f) h o ↔ ∃ reply h', h = ⟨r, reply⟩ :: h' ∧ Program.Runs (f reply) h' o :=
  Program.runs_ask_iff

theorem asks_request_bind_iff {r r' : I.Request} {f : I.Reply r → Action I α} {h : History I} :
    Program.Asks (Action.bind (request r) f) h r' ↔
      (h = [] ∧ r' = r) ∨ ∃ reply h', h = ⟨r, reply⟩ :: h' ∧ Program.Asks (f reply) h' r' :=
  Program.asks_ask_iff

theorem runs_ofExcept_bind_ok_iff {result : Except Error α} {f : α → Action I β} {h : History I} {b : β} :
    Program.Runs (Action.bind (ofExcept result) f) h (.ok b) ↔ ∃ a, result = .ok a ∧ Program.Runs (f a) h (.ok b) := by
  cases result with
  | ok a => exact ⟨fun run => ⟨a, rfl, run⟩, fun ⟨_, ha, run⟩ => Except.ok.inj ha ▸ run⟩
  | error e =>
    constructor
    · intro run
      cases (Program.runs_done_iff.1 run).2
    · rintro ⟨_, ⟨⟩, _⟩

theorem runs_require_bind_ok_iff {value : Option α} {e : Error} {f : α → Action I β} {h : History I} {b : β} :
    Program.Runs (Action.bind (require value e) f) h (.ok b) ↔ ∃ a, value = some a ∧ Program.Runs (f a) h (.ok b) := by
  cases value with
  | some a => exact ⟨fun run => ⟨a, rfl, run⟩, fun ⟨_, ha, run⟩ => Option.some.inj ha ▸ run⟩
  | none =>
    constructor
    · intro run
      cases (Program.runs_done_iff.1 run).2
    · rintro ⟨_, ⟨⟩, _⟩

theorem asks_ofExcept_bind_iff {result : Except Error α} {f : α → Action I β} {h : History I} {r : I.Request} :
    Program.Asks (Action.bind (ofExcept result) f) h r ↔ ∃ a, result = .ok a ∧ Program.Asks (f a) h r := by
  cases result with
  | ok a => exact ⟨fun asked => ⟨a, rfl, asked⟩, fun ⟨_, ha, asked⟩ => Except.ok.inj ha ▸ asked⟩
  | error e => exact ⟨fun asked => absurd asked Program.not_asks_done, nofun⟩

theorem asks_require_bind_iff {value : Option α} {e : Error} {f : α → Action I β} {h : History I} {r : I.Request} :
    Program.Asks (Action.bind (require value e) f) h r ↔ ∃ a, value = some a ∧ Program.Asks (f a) h r := by
  cases value with
  | some a => exact ⟨fun asked => ⟨a, rfl, asked⟩, fun ⟨_, ha, asked⟩ => Option.some.inj ha ▸ asked⟩
  | none => exact ⟨fun asked => absurd asked Program.not_asks_done, nofun⟩

/-! ### Failures replaced and failures as values -/

end Action

def Outcome.mapError {α : Type} (f : Error → Error) : Outcome α → Outcome α
  | .ok a => .ok a
  | .error e => .error (f e)
  | .panic => .panic

def Outcome.attempt {α : Type} : Outcome α → Outcome (Except Error α)
  | .ok a => .ok (.ok a)
  | .error e => .ok (.error e)
  | .panic => .panic

namespace Action

variable {I : Interface} {α β : Type}

theorem mapError_eq (x : Action I α) (f : Error → Error) :
    x.mapError f = Program.bind x fun o => .done (o.mapError f) :=
  congrArg (Program.bind x) (funext fun o => by cases o <;> rfl)

theorem attempt_eq (x : Action I α) : x.attempt = Program.bind x fun o => .done o.attempt :=
  congrArg (Program.bind x) (funext fun o => by cases o <;> rfl)

theorem runs_mapError_iff {x : Action I α} {f : Error → Error} {h : History I} {o : Outcome α} :
    Program.Runs (x.mapError f) h o ↔ ∃ o', o = o'.mapError f ∧ Program.Runs x h o' :=
  mapError_eq x f ▸ Program.runs_bind_done_iff

theorem runs_mapError_ok_iff {x : Action I α} {f : Error → Error} {h : History I} {a : α} :
    Program.Runs (x.mapError f) h (.ok a) ↔ Program.Runs x h (.ok a) := by
  refine runs_mapError_iff.trans ⟨?_, fun run => ⟨.ok a, rfl, run⟩⟩
  rintro ⟨o', ho, run⟩
  cases o' with
  | ok b => cases ho; exact run
  | error e => cases ho
  | panic => cases ho

theorem asks_mapError_iff {x : Action I α} {f : Error → Error} {h : History I} {r : I.Request} :
    Program.Asks (x.mapError f) h r ↔ Program.Asks x h r :=
  mapError_eq x f ▸ Program.asks_bind_done_iff

theorem runs_attempt_iff {x : Action I α} {h : History I} {o : Outcome (Except Error α)} :
    Program.Runs x.attempt h o ↔ ∃ o', o = o'.attempt ∧ Program.Runs x h o' :=
  attempt_eq x ▸ Program.runs_bind_done_iff

theorem runs_attempt_bind_iff {x : Action I α} {f : Except Error α → Action I β} {h : History I} {o : Outcome β} :
    Program.Runs (Action.bind x.attempt f) h o ↔
      (∃ a h₁ h₂, h = h₁ ++ h₂ ∧ Program.Runs x h₁ (.ok a) ∧ Program.Runs (f (.ok a)) h₂ o) ∨
        (∃ e h₁ h₂, h = h₁ ++ h₂ ∧ Program.Runs x h₁ (.error e) ∧ Program.Runs (f (.error e)) h₂ o) ∨
          (o = .panic ∧ Program.Runs x h .panic) := by
  refine runs_bind_iff.trans ⟨?_, ?_⟩
  · rintro (⟨result, h₁, h₂, rfl, tried, later⟩ | ⟨e, rfl, tried⟩ | ⟨rfl, tried⟩)
    · obtain ⟨o', ho, run⟩ := runs_attempt_iff.1 tried
      cases o' with
      | ok a => cases ho; exact .inl ⟨a, h₁, h₂, rfl, run, later⟩
      | error e => cases ho; exact .inr (.inl ⟨e, h₁, h₂, rfl, run, later⟩)
      | panic => cases ho
    · obtain ⟨o', ho, -⟩ := runs_attempt_iff.1 tried
      cases o' <;> cases ho
    · obtain ⟨o', ho, run⟩ := runs_attempt_iff.1 tried
      cases o' with
      | ok a => cases ho
      | error e => cases ho
      | panic => exact .inr (.inr ⟨rfl, run⟩)
  · rintro (⟨a, h₁, h₂, rfl, run, later⟩ | ⟨e, h₁, h₂, rfl, run, later⟩ | ⟨rfl, run⟩)
    · exact .inl ⟨_, h₁, h₂, rfl, runs_attempt_iff.2 ⟨_, rfl, run⟩, later⟩
    · exact .inl ⟨_, h₁, h₂, rfl, runs_attempt_iff.2 ⟨_, rfl, run⟩, later⟩
    · exact .inr (.inr ⟨rfl, runs_attempt_iff.2 ⟨_, rfl, run⟩⟩)

theorem asks_attempt_iff {x : Action I α} {h : History I} {r : I.Request} :
    Program.Asks x.attempt h r ↔ Program.Asks x h r :=
  attempt_eq x ▸ Program.asks_bind_done_iff

end Action

namespace Routine

theorem runs_call_iff {c : Call} {h : History Operator} {o : Outcome c.Result} :
    Program.Runs (call c) h o ↔ h = [⟨.call c, o⟩] := by
  refine Iff.trans Program.runs_ask_iff ⟨?_, ?_⟩
  · rintro ⟨reply, h', rfl, later⟩
    obtain ⟨rfl, rfl⟩ := Program.runs_done_iff.1 later
    rfl
  · rintro rfl
    exact ⟨o, [], rfl, .here _⟩

theorem runs_call_bind_ok_iff {α : Type} {c : Call} {f : c.Result → Routine α} {h : History Operator} {a : α} :
    Program.Runs (Action.bind (call c) f) h (.ok a) ↔
      ∃ found h', h = ⟨.call c, .ok found⟩ :: h' ∧ Program.Runs (f found) h' (.ok a) := by
  refine Action.runs_bind_ok_iff.trans ⟨?_, ?_⟩
  · rintro ⟨found, h₁, h', rfl, called, later⟩
    obtain rfl := runs_call_iff.1 called
    exact ⟨found, h', rfl, later⟩
  · rintro ⟨found, h', rfl, later⟩
    exact ⟨found, _, h', rfl, runs_call_iff.2 rfl, later⟩

theorem asks_call_iff {c : Call} {h : History Operator} {r : OperatorRequest} :
    Program.Asks (call c) h r ↔ h = [] ∧ r = .call c := by
  refine Iff.trans Program.asks_ask_iff ⟨?_, .inl⟩
  rintro (asked | ⟨reply, h', _, later⟩)
  · exact asked
  · exact absurd later Program.not_asks_done

theorem asks_call_bind_iff {α : Type} {c : Call} {f : c.Result → Routine α} {h : History Operator}
    {r : OperatorRequest} :
    Program.Asks (Action.bind (call c) f) h r ↔
      (h = [] ∧ r = .call c) ∨ ∃ found h', h = ⟨.call c, .ok found⟩ :: h' ∧ Program.Asks (f found) h' r := by
  refine Action.asks_bind_iff.trans (or_congr asks_call_iff ⟨?_, ?_⟩)
  · rintro ⟨found, h₁, h', rfl, called, later⟩
    obtain rfl := runs_call_iff.1 called
    exact ⟨found, h', rfl, later⟩
  · rintro ⟨found, h', rfl, later⟩
    exact ⟨found, _, h', rfl, runs_call_iff.2 rfl, later⟩

end Routine
end SignOnOperator
