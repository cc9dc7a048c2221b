import SignOnOperator.Proofs.CellUse
/-!
# Time

How time passes for a program that runs alone: while a call is made, as long as that takes, and in pauses.  What a
program spends in pauses may keep to a limit (`Timely`): a wait makes no pause beyond its deadline
(`Waiting.wait_timely`), the limits of parts that follow one another add up (`Timely.bind`), and a part that makes no
pauses spends no time of its own (`Timely.of_confined`).
-/
namespace SignOnOperator

open CookieSecret
open Rehearsal (Cell)

/-! ## Time -/

/-- What the calls come to, one after another: how the one of that number ends and how long it takes, in nanoseconds,
and what is drawn after so many calls. -/
structure Supply where
  outcome : Nat → (c : Call) → Outcome c.Result
  delay : Nat → Nat
  choices : Nat → Fin secretLength → Fin alphabetSize

/-- A moment in the course of a reconciliation: what is shared, the time, how many calls were made, and how long they
took together. -/
structure Moment where
  shared : Shared
  now : Nat
  calls : Nat
  delays : Nat

namespace Moment

/-- The moment at which a call is over. -/
def afterCall (m : Moment) (delay : Nat) : Moment :=
  { m with now := m.now + delay, calls := m.calls + 1, delays := m.delays + delay }

/-- The moment at which a pause is over.  Time is ideal here: a timer may wait for the next whole millisecond. -/
def afterPause (m : Moment) (d : Duration) : Moment := { m with now := m.now + d.nanoseconds }

end Moment

/-- How a request is answered while nothing else is going on, and the moment after that. -/
def Supply.Answers (supply : Supply) (m : Moment) : (r : OperatorRequest) → r.Reply → Moment → Prop
  | .call c, outcome, m' => outcome = supply.outcome m.calls c ∧ m' = m.afterCall (supply.delay m.calls)
  | .clock, now, m' => now = m.now ∧ m' = m
  | .pause d, _, m' => m' = m.afterPause d
  | .draw, choices, m' => choices = supply.choices m.calls ∧ m' = m
  | r, reply, m' => ∃ shared, m.shared.Answers r reply shared ∧ m' = { m with shared }

/-- How a history is answered from one moment on, and the moment at which it ends. -/
inductive Attended (supply : Supply) : Moment → History Operator → Moment → Prop where
  | none (m : Moment) : Attended supply m [] m
  | turn {m m' m'' : Moment} {r : OperatorRequest} {reply : r.Reply} {h : History Operator}
      (answered : supply.Answers m r reply m') (later : Attended supply m' h m'') :
      Attended supply m (⟨r, reply⟩ :: h) m''

variable {supply : Supply} {m m' m'' : Moment} {α β : Type}

namespace Supply

/-- What takes no time. -/
theorem Answers.elapsed {r : OperatorRequest} {reply : r.Reply} (answered : supply.Answers m r reply m')
    (pause : r.kind ≠ .pause) : m'.now + m.delays = m.now + m'.delays := by
  cases r with
  | call c =>
    rw [answered.2]
    simp only [Moment.afterCall]
    omega
  | clock | draw => rw [answered.2]
  | pause d => exact absurd rfl pause
  | acquire _ | release _ | count _ | enterCell | fillCell _ | leaveCell =>
    obtain ⟨shared, -, rfl⟩ := answered
    rfl

end Supply

namespace Attended

theorem append_iff {h h' : History Operator} :
    Attended supply m (h ++ h') m'' ↔ ∃ m', Attended supply m h m' ∧ Attended supply m' h' m'' := by
  constructor
  · intro attended
    induction h generalizing m with
    | nil => exact ⟨m, .none m, attended⟩
    | cons t h ih =>
      cases attended with
      | turn answered later =>
        obtain ⟨m', first, rest⟩ := ih later
        exact ⟨m', .turn answered first, rest⟩
  · rintro ⟨m', first, rest⟩
    induction first with
    | none _ => exact rest
    | turn answered _ ih => exact .turn answered (ih rest)

/-- Without pauses only the calls take time. -/
theorem elapsed {h : History Operator} (attended : Attended supply m h m') (pauses : ∀ t ∈ h, t.kind ≠ .pause) :
    m'.now + m.delays = m.now + m'.delays := by
  induction attended with
  | none _ => rfl
  | turn answered _ ih =>
    obtain ⟨first, rest⟩ := List.forall_mem_cons.1 pauses
    have now := answered.elapsed first
    have later := ih rest
    omega

end Attended

/-! ## Programs that keep to a limit -/

/-- What a program spends in pauses stays within a limit, and after each pause it goes on with a call. -/
structure Timely (supply : Supply) (limit : Nat) (p : Program Operator α) : Prop where
  within : ∀ {m h q m'}, p.Leads h q → Attended supply m h m' → m'.now + m.delays ≤ m.now + limit + m'.delays
  resumes : ∀ {m h d q m'}, p.Leads (h ++ [⟨.pause d, ()⟩]) q → Attended supply m (h ++ [⟨.pause d, ()⟩]) m' →
    ∃ c next, q = .ask (I := Operator) (.call c) next

namespace Timely

variable {limit limit' : Nat}

theorem mono {p : Program Operator α} (timely : Timely supply limit p) (le : limit ≤ limit') :
    Timely supply limit' p where
  within led attended := by
    have spent := timely.within led attended
    omega
  resumes := timely.resumes

theorem done (a : α) : Timely supply 0 (.done a) where
  within led attended := by
    obtain ⟨rfl, -⟩ := Program.leads_done_iff.1 led
    cases attended
    omega
  resumes led _ := absurd (Program.leads_done_iff.1 led).1 (by simp)

/-- A request that is no pause. -/
theorem ask {r : OperatorRequest} {next : r.Reply → Program Operator α} (steady : r.kind ≠ .pause)
    (later : ∀ reply, Timely supply limit (next reply)) : Timely supply limit (.ask (I := Operator) r next) where
  within led attended := by
    rcases Program.leads_ask_iff.1 led with ⟨rfl, -⟩ | ⟨reply, h, rfl, led'⟩
    · cases attended
      omega
    · cases attended with
      | turn answered rest =>
        have now := answered.elapsed steady
        have spent := (later reply).within led' rest
        omega
  resumes {m h d q m'} led attended := by
    rcases Program.leads_ask_iff.1 led with ⟨none, -⟩ | ⟨reply, h', split, led'⟩
    · simp at none
    · cases h with
      | nil =>
        cases split
        exact absurd rfl steady
      | cons t h =>
        obtain ⟨rfl, rfl⟩ := List.cons.inj split
        cases attended with
        | turn answered rest => exact (later reply).resumes led' rest

theorem bind {p : Program Operator α} {f : α → Program Operator β} (first : Timely supply limit p)
    (later : ∀ a, Timely supply limit' (f a)) : Timely supply (limit + limit') (p.bind f) where
  within led attended := by
    rcases Program.leads_bind_iff.1 led with ⟨p', rfl, led'⟩ | ⟨a, h₁, h₂, rfl, run, led'⟩
    · have spent := first.within led' attended
      omega
    · obtain ⟨_, attended₁, attended₂⟩ := Attended.append_iff.1 attended
      have spent₁ := first.within run attended₁
      have spent₂ := (later a).within led' attended₂
      omega
  resumes {m h d q m'} led attended := by
    rcases Program.leads_bind_iff.1 led with ⟨p', rfl, led'⟩ | ⟨a, h₁, h₂, split, run, led'⟩
    · obtain ⟨c, next, rfl⟩ := first.resumes led' attended
      exact ⟨c, _, rfl⟩
    · -- The pause is not the last turn of the first program, since that would have gone on.
      rcases List.eq_nil_or_concat h₂ with rfl | ⟨h₃, t, rfl⟩
      · rw [List.append_nil] at split
        rw [← split] at run
        obtain ⟨c, next, ended⟩ := first.resumes run attended
        cases ended
      · rw [List.concat_eq_append] at led'
        rw [List.concat_eq_append, ← List.append_assoc] at split
        obtain ⟨rfl, last⟩ := List.append_inj' split rfl
        cases last
        rw [List.append_assoc] at attended
        obtain ⟨_, -, attended₂⟩ := Attended.append_iff.1 attended
        exact (later a).resumes led' attended₂

/-- What makes no pauses spends no time in them. -/
theorem of_confined {kinds : List RequestKind} {x : Routine α} (confined : Confined kinds x)
    (steady : .pause ∉ kinds) : Timely supply 0 x where
  within led attended := by
    have spent := attended.elapsed fun t ht pauses => steady (pauses ▸ confined.turns led t ht)
    omega
  resumes led _ := by
    refine absurd (confined.turns led _ (List.mem_append_right _ (List.mem_singleton_self _))) ?_
    exact steady

theorem action_bind {x : Routine α} {f : α → Routine β} (first : Timely supply limit x)
    (later : ∀ a, Timely supply limit' (f a)) : Timely supply (limit + limit') (Action.bind x f) := by
  refine bind first fun o => ?_
  cases o with
  | ok a => exact later a
  | error e => exact (done _).mono (Nat.zero_le _)
  | panic => exact (done _).mono (Nat.zero_le _)

theorem steady_bind {x : Routine α} {f : α → Routine β} (first : Timely supply 0 x)
    (later : ∀ a, Timely supply limit (f a)) : Timely supply limit (Action.bind x f) :=
  Nat.zero_add limit ▸ action_bind first later

theorem bind_steady {x : Routine α} {f : α → Routine β} (first : Timely supply limit x)
    (later : ∀ a, Timely supply 0 (f a)) : Timely supply limit (Action.bind x f) :=
  action_bind first later

theorem call {c : Call} : Timely supply 0 (Routine.call c) := ask nofun done

theorem count {c : Counter} : Timely supply 0 (Routine.count c) := ask nofun fun _ => done _

theorem ofExcept_bind {result : Except Error α} {f : α → Routine β} (later : ∀ a, Timely supply limit (f a)) :
    Timely supply limit (Action.bind (Action.ofExcept result) f) := by
  cases result with
  | ok a => exact later a
  | error e => exact (done _).mono (Nat.zero_le _)

theorem require_bind {value : Option α} {e : Error} {f : α → Routine β} (later : ∀ a, Timely supply limit (f a)) :
    Timely supply limit (Action.bind (Action.require value e) f) := by
  cases value with
  | some a => exact later a
  | none => exact (done _).mono (Nat.zero_le _)

theorem mapError {x : Routine α} {f : Error → Error} (timely : Timely supply limit x) :
    Timely supply limit (x.mapError f) :=
  Action.mapError_eq x f ▸ bind timely fun o => done (o.mapError f)

theorem attempt {x : Routine α} (timely : Timely supply limit x) : Timely supply limit x.attempt :=
  Action.attempt_eq x ▸ bind timely fun o => done o.attempt

end Timely

/-! ## Waits -/

/-- As many pauses as there may be take at least as long as the wait. -/
theorem Polling.limit_le_rounds {p : Polling} (brisk : 0 < p.interval.nanoseconds) :
    p.limit.nanoseconds ≤ p.rounds * p.interval.nanoseconds := by
  unfold rounds
  rw [if_neg (Nat.pos_iff_ne_zero.1 brisk)]
  have whole := Nat.div_add_mod (p.limit.nanoseconds + p.interval.nanoseconds - 1) p.interval.nanoseconds
  have rest := Nat.mod_lt (p.limit.nanoseconds + p.interval.nanoseconds - 1) brisk
  rw [Nat.mul_comm] at whole
  omega

/-- One round of a wait: a question, a look at the clock and a pause. -/
theorem Attended.round {c : Call} {outcome : Outcome c.Result} {now : Nat} {d : Duration} {h : History Operator}
    (attended : Attended supply m (⟨.call c, outcome⟩ :: ⟨.clock, now⟩ :: ⟨.pause d, ()⟩ :: h) m') :
    ∃ m₁, Attended supply m₁ h m' ∧ m.now ≤ now ∧ m₁.now = now + d.nanoseconds ∧
      m₁.delays + m.now = m.delays + now := by
  cases attended with
  | turn called rest =>
    cases rest with
    | turn clocked rest =>
      cases rest with
      | turn paused later =>
        obtain ⟨-, rfl⟩ := called
        obtain ⟨rfl, rfl⟩ := clocked
        obtain rfl := paused
        refine ⟨_, later, ?_, rfl, ?_⟩
        · exact Nat.le_add_right _ _
        · simp only [Moment.afterCall, Moment.afterPause]
          omega

namespace Waiting

variable {what : String} {polling : Polling} {deadline : Nat} {c : Call} {judge : c.Result → Verdict}

theorem ask_leads {h : History Operator} {p : Program Operator (Outcome Verdict)}
    (led : Program.Leads (ask c judge) h p) : h = [] ∨ ∃ outcome, h = [⟨.call c, outcome⟩] := by
  rcases Program.leads_ask_iff.1 led with ⟨rfl, -⟩ | ⟨outcome, h', rfl, rest⟩
  · exact .inl rfl
  · refine .inr ⟨outcome, ?_⟩
    cases outcome with
    | ok _ | error _ | panic => rw [(Program.leads_done_iff.1 rest).1]

/-- A question that has been asked, and nothing else but a look at the clock, is no pause. -/
theorem steady_of_asked {outcome : Outcome c.Result} {h : History Operator} (rest : ∀ t ∈ h, t.kind = .clock) :
    ∀ t ∈ ⟨.call c, outcome⟩ :: h, t.kind ≠ .pause := by
  refine List.forall_mem_cons.2 ⟨show RequestKind.call c.kind ≠ .pause from nofun, fun t ht => ?_⟩
  rw [rest t ht]
  decide

/-- A wait has come to no pause yet, or it has paused before the deadline and goes on. -/
theorem askUntil_leads {again : Unit → Routine Unit} {h : History Operator} {q : Program Operator (Outcome Unit)}
    (led : Program.Leads (askUntil what polling deadline (ask c judge) again) h q) :
    (∀ t ∈ h, t.kind ≠ .pause) ∨
      ∃ outcome, ∃ now : Nat, ∃ h',
        h = ⟨.call c, outcome⟩ :: ⟨.clock, now⟩ ::
          ⟨.pause ⟨min polling.interval.nanoseconds (deadline - now)⟩, ()⟩ :: h' ∧
        now < deadline ∧ Program.Leads (again ()) h' q := by
  rcases Program.leads_bind_iff.1 led with ⟨p, -, asked⟩ | ⟨o, h₁, h₂, rfl, asked, rest⟩
  · rcases ask_leads asked with rfl | ⟨outcome, rfl⟩
    · exact .inl (List.forall_mem_nil _)
    · exact .inl (steady_of_asked (List.forall_mem_nil _))
  · obtain ⟨outcome, rfl⟩ : ∃ outcome, h₁ = [⟨.call c, outcome⟩] := by
      rcases ask_leads asked with rfl | found
      · cases Program.leads_nil_iff.1 asked
      · exact found
    have ended : h₂ = [] → ∀ t ∈ ⟨.call c, outcome⟩ :: h₂, t.kind ≠ .pause :=
      fun none => none ▸ steady_of_asked (List.forall_mem_nil _)
    rcases o with (- | - | e) | e | -
    · exact .inl (ended (Program.leads_done_iff.1 rest).1)
    · rcases Program.leads_ask_iff.1 rest with ⟨none, -⟩ | ⟨now, h₃, rfl, decided⟩
      · exact .inl (ended none)
      · change Nat at now
        have looked : h₃ = [] → ∀ t ∈ ⟨.call c, outcome⟩ :: ⟨.clock, now⟩ :: h₃, t.kind ≠ .pause := by
          rintro rfl
          exact steady_of_asked (List.forall_mem_singleton.2 rfl)
        change Program.Leads (if deadline ≤ now then Action.fail _ else _ : Routine Unit) h₃ q at decided
        by_cases late : deadline ≤ now
        · rw [if_pos late] at decided
          exact .inl (looked (Program.leads_done_iff.1 decided).1)
        · rw [if_neg late] at decided
          rcases Program.leads_ask_iff.1 decided with ⟨none, -⟩ | ⟨⟨⟩, h', rfl, later⟩
          · exact .inl (looked none)
          · exact .inr ⟨outcome, now, h', rfl, Nat.lt_of_not_le late, later⟩
    · exact .inl (ended (Program.leads_done_iff.1 rest).1)
    · exact .inl (ended (Program.leads_done_iff.1 rest).1)
    · exact .inl (ended (Program.leads_done_iff.1 rest).1)

/-- The next thing that a wait does is to ask. -/
theorem waitUntil_asks (rounds : Nat) :
    ∃ next, waitUntil what polling deadline (ask c judge) rounds = .ask (I := Operator) (.call c) next := by
  cases rounds with
  | zero => exact ⟨_, rfl⟩
  | succ rounds => exact ⟨_, rfl⟩

/-- What a program spends in pauses from one moment on ends at a deadline. -/
def EndsBy (supply : Supply) (deadline : Nat) (p : Program Operator α) : Prop :=
  ∀ {m h q m'}, p.Leads h q → Attended supply m h m' → m'.now + m.delays ≤ max m.now deadline + m'.delays

theorem askUntil_endsBy {again : Unit → Routine Unit} (later : EndsBy supply deadline (again ())) :
    EndsBy supply deadline (askUntil what polling deadline (ask c judge) again) := by
  intro m h q m' led attended
  rcases askUntil_leads led with steady | ⟨outcome, now, h', rfl, early, led'⟩
  · have spent := attended.elapsed steady
    omega
  · obtain ⟨m₁, attended', begun, paused, called⟩ := attended.round
    have spent := later led' attended'
    dsimp only at paused
    omega

/-- A wait makes no pause beyond its deadline. -/
theorem waitUntil_endsBy (rounds : Nat) :
    EndsBy supply deadline (waitUntil what polling deadline (ask c judge) rounds) := by
  induction rounds with
  | zero =>
    refine askUntil_endsBy fun led attended => ?_
    have spent := (Timely.done _).within led attended
    omega
  | succ rounds ih => exact askUntil_endsBy ih

/-- While enough rounds are left to come to the deadline, every pause is followed by a question. -/
theorem waitUntil_resumes (rounds : Nat) {h : History Operator} {d : Duration} {q : Program Operator (Outcome Unit)}
    (enough : deadline ≤ m.now + rounds * polling.interval.nanoseconds)
    (led : Program.Leads (waitUntil what polling deadline (ask c judge) rounds) (h ++ [⟨.pause d, ()⟩]) q)
    (attended : Attended supply m (h ++ [⟨.pause d, ()⟩]) m') :
    ∃ c next, q = .ask (I := Operator) (.call c) next := by
  induction rounds generalizing m h with
  | zero =>
    rcases askUntil_leads led with steady | ⟨outcome, now, h', split, early, -⟩
    · exact absurd rfl (steady _ (List.mem_append_right _ (List.mem_singleton_self _)))
    · -- The deadline has come, so there is no pause.
      rw [split] at attended
      obtain ⟨-, -, begun, -⟩ := attended.round
      omega
  | succ rounds ih =>
    rcases askUntil_leads led with steady | ⟨outcome, now, h', split, early, led'⟩
    · exact absurd rfl (steady _ (List.mem_append_right _ (List.mem_singleton_self _)))
    · rw [split] at attended
      obtain ⟨m₁, attended', begun, paused, -⟩ := attended.round
      rcases List.eq_nil_or_concat h' with rfl | ⟨h₁, t, rfl⟩
      · obtain ⟨next, asks⟩ := waitUntil_asks rounds
        exact ⟨c, next, (Program.leads_nil_iff.1 led').symm.trans asks⟩
      · -- The last turn is that of the later rounds, for which enough are left.
        have last : t = ⟨.pause d, ()⟩ := by
          rw [List.concat_eq_append, ← List.cons_append, ← List.cons_append, ← List.cons_append] at split
          exact (List.singleton_inj.1 (List.append_inj' split rfl).2).symm
        rw [List.concat_eq_append, last] at led' attended'
        refine ih ?_ led' attended'
        dsimp only at paused
        rw [Nat.succ_mul] at enough
        omega

/-- **A wait keeps to its limit**, and does not stop asking before that. -/
theorem wait_timely (brisk : 0 < polling.interval.nanoseconds) :
    Timely supply polling.limit.nanoseconds (wait what polling (ask c judge)) where
  within led attended := by
    rcases Program.leads_ask_iff.1 led with ⟨rfl, -⟩ | ⟨start, h, rfl, led'⟩
    · cases attended
      omega
    · cases attended with
      | turn clocked later =>
        obtain ⟨rfl, rfl⟩ := clocked
        have spent := waitUntil_endsBy _ led' later
        omega
  resumes {m h d q m'} led attended := by
    rcases Program.leads_ask_iff.1 led with ⟨none, -⟩ | ⟨start, h', split, led'⟩
    · simp at none
    · cases h with
      | nil => cases split
      | cons t h =>
        obtain ⟨rfl, rfl⟩ := List.cons.inj split
        cases attended with
        | turn clocked later =>
          obtain ⟨rfl, rfl⟩ := clocked
          exact waitUntil_resumes _ (Nat.add_le_add_left (Polling.limit_le_rounds brisk) _) led' later

end Waiting

/-! ## Programs that run alone -/

namespace Supply

/-- A request has at most one answer. -/
theorem Answers.unique {r : OperatorRequest} {reply reply' : r.Reply} (answered : supply.Answers m r reply m')
    (answered' : supply.Answers m r reply' m'') : reply = reply' ∧ m' = m'' := by
  cases r with
  | call c => exact ⟨answered.1.trans answered'.1.symm, answered.2.trans answered'.2.symm⟩
  | clock => exact ⟨answered.1.trans answered'.1.symm, answered.2.trans answered'.2.symm⟩
  | draw => exact ⟨answered.1.trans answered'.1.symm, answered.2.trans answered'.2.symm⟩
  | pause d => exact ⟨rfl, Eq.trans answered (Eq.symm answered')⟩
  | acquire key =>
    obtain ⟨shared, answered, rfl⟩ := answered
    obtain ⟨shared', answered', rfl⟩ := answered'
    simp only [Shared.Answers] at answered answered'
    cases free : m.shared.inFlight.tryAcquire key with
    | none | some _ =>
      simp only [free] at answered answered'
      exact ⟨answered.1.trans answered'.1.symm, by rw [answered.2, answered'.2]⟩
  | enterCell =>
    obtain ⟨shared, answered, rfl⟩ := answered
    obtain ⟨shared', answered', rfl⟩ := answered'
    simp only [Shared.Answers] at answered answered'
    cases cell : m.shared.cell with
    | loading =>
      simp only [cell] at answered
    | empty | filled _ =>
      simp only [cell] at answered answered'
      exact ⟨answered.1.trans answered'.1.symm, by rw [answered.2, answered'.2]⟩
  | release _ | count _ | fillCell _ | leaveCell =>
    obtain ⟨shared, answered, rfl⟩ := answered
    obtain ⟨shared', answered', rfl⟩ := answered'
    exact ⟨rfl, by rw [show shared = _ from answered, show shared' = _ from answered']⟩

/-- The shared state is as it says in a system. -/
theorem Answers.shared {r : OperatorRequest} {reply : r.Reply} (answered : supply.Answers m r reply m') :
    m.shared.Answers r reply m'.shared := by
  cases r with
  | call c => rw [answered.2]; rfl
  | clock => rw [answered.2]; rfl
  | draw => rw [answered.2]; rfl
  | pause d => rw [show m' = _ from answered]; rfl
  | acquire _ | release _ | count _ | enterCell | fillCell _ | leaveCell =>
    obtain ⟨shared, answered, rfl⟩ := answered
    exact answered

/-- A request is answered unless it comes to a cell that is being loaded. -/
theorem exists_answers (supply : Supply) (m : Moment) (r : OperatorRequest)
    (free : r.kind = .enterCell → m.shared.cell ≠ .loading) : ∃ reply m', supply.Answers m r reply m' := by
  cases r with
  | call c => exact ⟨_, _, rfl, rfl⟩
  | clock => exact ⟨_, _, rfl, rfl⟩
  | draw => exact ⟨_, _, rfl, rfl⟩
  | pause d => exact ⟨(), _, rfl⟩
  | acquire key =>
    obtain ⟨shared, answered⟩ := Shared.exists_answers_acquire (decide_eq_true_iff (p := key ∉ m.shared.inFlight.keys))
    exact ⟨_, _, shared, answered, rfl⟩
  | enterCell =>
    have idle := free rfl
    cases cell : m.shared.cell with
    | empty => exact ⟨none, _, _, Shared.answers_enterCell_iff.2 (.inl ⟨rfl, cell, rfl⟩), rfl⟩
    | loading => exact absurd cell idle
    | filled value => exact ⟨some value, _, _, Shared.answers_enterCell_iff.2 (.inr ⟨value, rfl, cell, rfl⟩), rfl⟩
  | release _ => exact ⟨(), _, _, rfl, rfl⟩
  | count _ => exact ⟨(), _, _, rfl, rfl⟩
  | fillCell _ => exact ⟨(), _, _, rfl, rfl⟩
  | leaveCell => exact ⟨(), _, _, rfl, rfl⟩

end Supply

/-- Whatever a program has been given is the beginning of all that it is given in the end. -/
theorem Attended.prefix_of_runs {p q : Program Operator α} {h h' : History Operator} {a : α} (led : p.Leads h q)
    (attended : Attended supply m h m') (run : p.Runs h' a) (attended' : Attended supply m h' m'') : h <+: h' := by
  induction h generalizing p m h' with
  | nil => exact List.nil_prefix
  | cons t h ih =>
    cases led with
    | turn led =>
      obtain ⟨reply', h', rfl, run'⟩ := Program.runs_ask_iff.1 run
      cases attended with
      | turn answered rest =>
        cases attended' with
        | turn answered' rest' =>
          obtain ⟨rfl, rfl⟩ := answered.unique answered'
          exact List.cons_prefix_cons.2 ⟨rfl, ih led rest run' rest'⟩

/-- A program that runs alone can go only one way. -/
theorem Attended.unique {p q q' : Program Operator α} {h h' : History Operator} (led : p.Leads h q)
    (attended : Attended supply m h m') (led' : p.Leads h' q') (attended' : Attended supply m h' m'')
    (abreast : h.length = h'.length) : h = h' ∧ q = q' ∧ m' = m'' := by
  induction h generalizing p m h' with
  | nil =>
    obtain rfl := List.length_eq_zero_iff.1 abreast.symm
    cases attended
    cases attended'
    exact ⟨rfl, Program.Leads.unique led led', rfl⟩
  | cons t h ih =>
    cases led with
    | turn led =>
      cases h' with
      | nil => cases abreast
      | cons t' h' =>
        cases led' with
        | turn led' =>
          cases attended with
          | turn answered rest =>
            cases attended' with
            | turn answered' rest' =>
              obtain ⟨rfl, rfl⟩ := answered.unique answered'
              obtain ⟨rfl, same⟩ := ih led rest led' rest' (Nat.succ.inj abreast)
              exact ⟨rfl, same⟩

/-- **A program that uses the cell as it should comes to its end** while nobody else is loading the secret. -/
theorem exists_attended {ns : String} {post : Standing → α → Prop} {p : Program Operator α} {standing : Standing}
    (supply : Supply) (m : Moment) (keeps : p.Keeps (sharing ns) post standing)
    (free : standing.isLoading = false → m.shared.cell ≠ .loading) :
    ∃ h a m', p.Runs h a ∧ Attended supply m h m' := by
  induction p generalizing standing m with
  | done a => exact ⟨[], a, m, .here _, .none m⟩
  | ask r next ih =>
    obtain ⟨reply, m₁, answered⟩ := supply.exists_answers m r fun enters =>
      free (Standing.idle_of_enter keeps.1 enters)
    have freed := (dealing keeps.1 answered.shared).frees free
    obtain ⟨h, a, m', run, attended⟩ := ih reply m₁ (keeps.2 reply trivial) freed
    exact ⟨_, a, m', .turn run, .turn answered attended⟩

end SignOnOperator
