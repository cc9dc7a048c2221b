import Mathlib.Algebra.Order.Floor.Div
import SignOnOperator.Rehearsal.Checks
/-!
# The times of a wait

When a wait asks, and when it ends.  Both follow from how long the answers take: each question but the first is asked
an interval after the last answer, or at the deadline if that comes first (`Vigil.asked`), and the wait ends with the
first answer that decides or comes at the deadline or later (`Vigil.EndsAt`).  That every wait of the program keeps
this timetable is one induction over its rounds (`Vigil.Served.runWith_waitUntil`), whatever it asks and whoever
answers.
-/
namespace SignOnOperator

/-! ## Programs and the world that answers them -/

section Answered

variable {I : Interface} {α β σ : Type} {answer : σ → (r : I.Request) → I.Reply r × σ} {s s' : σ}

theorem Program.runWith_bind (p : Program I α) (f : α → Program I β) (s : σ) :
    (p.bind f).runWith answer s = (f (p.runWith answer s).1).runWith answer (p.runWith answer s).2 := by
  induction p generalizing s with
  | done a => rfl
  | ask r next ih => exact ih _ _

/-- What goes on with a value starts where that left the world. -/
theorem Action.runWith_bind {x : Action I α} {a : α} (run : Program.runWith answer x s = (.ok a, s'))
    (f : α → Action I β) : Program.runWith answer (Action.bind x f) s = Program.runWith answer (f a) s' := by
  refine (Program.runWith_bind x _ s).trans ?_
  rw [run]

theorem Action.runWith_attempt {x : Action I α} {result : Except Error α}
    (run : Program.runWith answer x s = (.ofExcept result, s')) :
    Program.runWith answer x.attempt s = (.ok result, s') := by
  refine (Program.runWith_bind x _ s).trans ?_
  rw [run]
  cases result with
  | ok a => rfl
  | error e => rfl

end Answered

/-! ## The timetable -/

/-- What the times of a wait depend on: when it began, and how long each of its questions takes to be answered. -/
structure Vigil where
  polling : Polling
  start : Nat
  delay : Nat → Nat

namespace Vigil

variable (v : Vigil)

def deadline : Nat := v.start + v.polling.limit.nanoseconds

/-- The pause after an answer that came at this time. -/
def rest (answered : Nat) : Nat := min v.polling.interval.nanoseconds (v.deadline - answered)

/-- When the question of this number is asked; the first has number 0. -/
def asked : Nat → Nat
  | 0 => v.start
  | i + 1 => asked i + v.delay i + v.rest (asked i + v.delay i)

/-- When it is answered. -/
def answered (i : Nat) : Nat := v.asked i + v.delay i

/-- The answer of this number ends the wait: it is the first one that decides or that comes at the deadline or
later. -/
structure EndsAt (verdict : Nat → Verdict) (n : Nat) : Prop where
  before : ∀ i < n, verdict i = .notReady ∧ v.answered i < v.deadline
  last : verdict n = .notReady → v.deadline ≤ v.answered n

variable {v} {verdict : Nat → Verdict} {n i : Nat}

theorem asked_succ (i : Nat) : v.asked (i + 1) = v.answered i + v.rest (v.answered i) := rfl

theorem asked_le_answered (i : Nat) : v.asked i ≤ v.answered i := Nat.le_add_right _ _

/-- By induction on the questions: each is asked a whole interval after the one before, or at the deadline. -/
theorem le_asked (i : Nat) : min (v.start + i * v.polling.interval.nanoseconds) v.deadline ≤ v.asked i := by
  induction i with
  | zero => exact Nat.le_trans (Nat.min_le_left _ _) (by simp [asked])
  | succ i ih =>
    have later := asked_le_answered (v := v) i
    rw [asked_succ, rest, Nat.succ_mul]
    omega

theorem rounds_eq_ceilDiv (brisk : 0 < v.polling.interval.nanoseconds) :
    v.polling.rounds = v.polling.limit.nanoseconds ⌈/⌉ v.polling.interval.nanoseconds := by
  unfold Polling.rounds
  rw [if_neg (Nat.pos_iff_ne_zero.1 brisk), Nat.ceilDiv_eq_add_pred_div]

/-- By the time that all rounds are over the deadline has come. -/
theorem deadline_le_asked_rounds (brisk : 0 < v.polling.interval.nanoseconds) :
    v.deadline ≤ v.asked v.polling.rounds := by
  have enough : v.polling.limit.nanoseconds ≤ v.polling.rounds * v.polling.interval.nanoseconds := by
    rw [rounds_eq_ceilDiv brisk, Nat.mul_comm]
    exact le_smul_ceilDiv brisk
  refine Nat.le_trans ?_ (le_asked v.polling.rounds)
  unfold deadline
  omega

/-- Every wait that makes pauses ends. -/
theorem exists_endsAt (brisk : 0 < v.polling.interval.nanoseconds) (verdict : Nat → Verdict) :
    ∃ n, v.EndsAt verdict n := by
  have late : ∃ n, verdict n = .notReady → v.deadline ≤ v.answered n :=
    ⟨_, fun _ => Nat.le_trans (deadline_le_asked_rounds brisk) (asked_le_answered _)⟩
  classical
  refine ⟨Nat.find late, fun i hi => ?_, Nat.find_spec late⟩
  have early := Nat.find_min late hi
  rw [Classical.not_imp, Nat.not_le] at early
  exact early

namespace EndsAt

theorem asked_le_deadline (ends : v.EndsAt verdict n) (hi : i ≤ n) : v.asked i ≤ v.deadline := by
  cases i with
  | zero => exact Nat.le_add_right _ _
  | succ i =>
    have early := (ends.before i hi).2
    rw [asked_succ, rest]
    omega

theorem le_rounds (ends : v.EndsAt verdict n) (brisk : 0 < v.polling.interval.nanoseconds) :
    n ≤ v.polling.rounds := by
  refine Nat.le_of_not_lt fun more => ?_
  have early := (ends.before _ more).2
  have late := deadline_le_asked_rounds brisk
  have later := asked_le_answered (v := v) v.polling.rounds
  omega

/-- While the answers take no time, the questions are a whole interval apart. -/
theorem asked_eq (ends : v.EndsAt verdict n) (instant : ∀ i ≤ n, v.delay i = 0) (hi : i ≤ n) :
    v.asked i = min (v.start + i * v.polling.interval.nanoseconds) v.deadline := by
  induction i with
  | zero => simp [asked, deadline]
  | succ i ih =>
    have early := (ends.before i hi).2
    have at_once : v.answered i = v.asked i := by rw [answered, instant i (by omega), Nat.add_zero]
    rw [asked_succ, rest, Nat.succ_mul]
    rw [at_once] at early ⊢
    have earlier := ih (by omega)
    omega

/-- A wait for what is never so, with answers that take no time, asks for the last time at the deadline. -/
theorem instant_timeout (ends : v.EndsAt verdict n) (brisk : 0 < v.polling.interval.nanoseconds)
    (instant : ∀ i ≤ n, v.delay i = 0) (undecided : verdict n = .notReady) :
    v.asked n = v.deadline ∧ n = v.polling.rounds := by
  have late := ends.last undecided
  have at_once : v.answered n = v.asked n := by rw [answered, instant n (Nat.le_refl n), Nat.add_zero]
  have time := ends.asked_eq instant (Nat.le_refl n)
  refine ⟨by omega, Nat.le_antisymm (ends.le_rounds brisk) ?_⟩
  rw [rounds_eq_ceilDiv brisk, ceilDiv_le_iff_le_mul brisk, Nat.mul_comm]
  unfold deadline at late time
  omega

end EndsAt
end Vigil

/-! ## Waits that keep the timetable -/

/-- How a wait ends whose last answer came to this. -/
def Verdict.conclusion (what : String) (limit : Duration) : Verdict → Outcome Unit
  | .ready => .ok ()
  | .fatal e => .error e
  | .notReady => .error (.timeout what limit)

namespace Vigil

variable {I : Interface} [Timed I] {σ : Type} {what : String}

/-- The world answers the questions of a wait with these verdicts and at the times of the vigil.  `before` and `after`
are its states when a question is asked and when it is answered. -/
structure Served (v : Vigil) (answer : σ → (r : I.Request) → I.Reply r × σ) (question : Action I Verdict)
    (verdict : Nat → Verdict) (before after : Nat → σ) : Prop where
  begin : Program.runWith answer Timed.clock (before 0) = (.ok v.start, before 0)
  question : ∀ i, Program.runWith answer question (before i) = (.ok (verdict i), after i)
  clock : ∀ i, Program.runWith answer Timed.clock (after i) = (.ok (v.answered i), after i)
  pause : ∀ i, Program.runWith answer (Timed.pause ⟨v.rest (v.answered i)⟩) (after i) = (.ok (), before (i + 1))

namespace Served

variable {v : Vigil} {answer : σ → (r : I.Request) → I.Reply r × σ} {question : Action I Verdict}
  {verdict : Nat → Verdict} {before after : Nat → σ} {n : Nat}

/-- The round of an answer that does not end the wait. -/
theorem runWith_askUntil_early (served : v.Served answer question verdict before after) {i : Nat}
    (undecided : verdict i = .notReady) (early : v.answered i < v.deadline) (again : Unit → Action I Unit) :
    Program.runWith answer (askUntil what v.polling v.deadline question again) (before i) =
      Program.runWith answer (again ()) (before (i + 1)) := by
  refine (Action.runWith_bind (served.question i) _).trans ?_
  rw [undecided]
  refine (Action.runWith_bind (served.clock i) _).trans ?_
  rw [if_neg (Nat.not_le_of_lt early)]
  exact Action.runWith_bind (served.pause i) _

/-- The round of the answer that ends the wait. -/
theorem runWith_askUntil_last (served : v.Served answer question verdict before after) {i : Nat}
    (late : verdict i = .notReady → v.deadline ≤ v.answered i) (again : Unit → Action I Unit) :
    Program.runWith answer (askUntil what v.polling v.deadline question again) (before i) =
      ((verdict i).conclusion what v.polling.limit, after i) := by
  refine (Action.runWith_bind (served.question i) _).trans ?_
  cases decided : verdict i with
  | ready => rfl
  | fatal e => rfl
  | notReady =>
    refine (Action.runWith_bind (served.clock i) _).trans ?_
    rw [if_pos (late decided)]
    rfl

/-- By induction on the rounds that are left: those left after the `i`-th question are enough for all later ones. -/
theorem runWith_waitUntil (served : v.Served answer question verdict before after)
    (ends : v.EndsAt verdict n) (rounds : Nat) {i : Nat} (hi : i ≤ n) (enough : n ≤ i + rounds) :
    Program.runWith answer (waitUntil what v.polling v.deadline question rounds) (before i) =
      ((verdict n).conclusion what v.polling.limit, after n) := by
  induction rounds generalizing i with
  | zero =>
    obtain rfl : i = n := Nat.le_antisymm hi enough
    exact served.runWith_askUntil_last ends.last _
  | succ rounds ih =>
    rcases Nat.lt_or_eq_of_le hi with more | rfl
    · obtain ⟨undecided, early⟩ := ends.before i more
      refine (served.runWith_askUntil_early undecided early _).trans ?_
      exact ih more (by omega)
    · exact served.runWith_askUntil_last ends.last _

/-- **A wait ends with the answer that ends it**, and with what that came to. -/
theorem runWith_wait (served : v.Served answer question verdict before after) (ends : v.EndsAt verdict n)
    (brisk : 0 < v.polling.interval.nanoseconds) (what : String) :
    Program.runWith answer (wait what v.polling question) (before 0) =
      ((verdict n).conclusion what v.polling.limit, after n) := by
  refine (Action.runWith_bind served.begin _).trans ?_
  exact served.runWith_waitUntil ends _ (Nat.zero_le n) (by have := ends.le_rounds brisk; omega)

end Served
end Vigil

/-! ## Waits by themselves -/

namespace Rehearsal

/-- The time, and when each question so far was asked and answered. -/
structure Watch where
  now : Nat
  questions : List (Nat × Nat) := []

/-- Answers one question after another with the verdicts given, each of which takes its time.  Time is ideal here: a
pause ends exactly when it is over, whereas a timer may wait for the next whole millisecond. -/
def Watch.handle (verdict : Nat → Verdict) (delay : Nat → Nat) (w : Watch) : (r : CheckRequest) → r.Reply × Watch
  | .clock => (w.now, w)
  | .pause d => ((), { w with now := w.now + d.nanoseconds })
  | .check =>
    let answered := w.now + delay w.questions.length
    (verdict w.questions.length, { now := answered, questions := w.questions ++ [(w.now, answered)] })

end Rehearsal

namespace Vigil

open Rehearsal

/-- When the first `n` questions are asked and answered. -/
def record (v : Vigil) (n : Nat) : List (Nat × Nat) := (List.range n).map fun i => (v.asked i, v.answered i)

theorem record_succ (v : Vigil) (n : Nat) : v.record (n + 1) = v.record n ++ [(v.asked n, v.answered n)] := by
  simp [record, List.range_succ]

theorem length_record (v : Vigil) (n : Nat) : (v.record n).length = n := by simp [record]

theorem served_watch (v : Vigil) (verdict : Nat → Verdict) :
    v.Served (I := Checks) (Watch.handle verdict v.delay) check verdict
      (fun i => ⟨v.asked i, v.record i⟩) (fun i => ⟨v.answered i, v.record (i + 1)⟩) where
  begin := rfl
  question i := by
    refine Prod.ext ?_ ?_
    · exact congrArg (fun n => Outcome.ok (verdict n)) (v.length_record i)
    · change (Watch.mk (v.asked i + v.delay (v.record i).length)
        (v.record i ++ [(v.asked i, v.asked i + v.delay (v.record i).length)])) = _
      rw [length_record, record_succ]
      rfl
  clock _ := rfl
  pause _ := rfl

end Vigil

open Rehearsal in
/-- **A wait keeps its timetable exactly.**  The first question is asked at once and each later one an interval after
the answer before, or at the deadline; the first answer that decides, or that comes at the deadline or later, ends the
wait at the time it comes.  So no question is asked after the deadline, the time is not up before it, and there are no
more questions than intervals until it, and one; just as many, the last of them at the deadline, if the answers take
no time and never decide. -/
theorem wait_keeps_timetable (polling : Polling) (brisk : 0 < polling.interval.nanoseconds) (what : String)
    (start : Nat) (verdict : Nat → Verdict) (delay : Nat → Nat) :
    let v : Vigil := ⟨polling, start, delay⟩
    let most := polling.limit.nanoseconds ⌈/⌉ polling.interval.nanoseconds + 1
    ∃ n outcome,
      Program.runWith (Watch.handle verdict delay) (wait what polling check) { now := start } =
        (outcome, { now := v.answered n, questions := v.record (n + 1) }) ∧
      (∀ i < n, verdict i = .notReady ∧ v.answered i < v.deadline) ∧
      ((verdict n = .ready ∧ outcome = .ok ()) ∨ (∃ e, verdict n = .fatal e ∧ outcome = .error e) ∨
        (verdict n = .notReady ∧ v.deadline ≤ v.answered n ∧ outcome = .error (.timeout what polling.limit))) ∧
      n + 1 ≤ most ∧ (∀ i ≤ n, v.asked i ≤ v.deadline) ∧
      ((∀ i ≤ n, delay i = 0) → verdict n = .notReady →
        v.asked n = v.deadline ∧ v.answered n = v.deadline ∧ n + 1 = most) := by
  intro v most
  obtain ⟨n, ends⟩ := v.exists_endsAt brisk verdict
  refine ⟨n, (verdict n).conclusion what polling.limit, (v.served_watch verdict).runWith_wait ends brisk what,
    ends.before, ?_, ?_, fun i hi => ends.asked_le_deadline hi, fun instant undecided => ?_⟩
  · cases decided : verdict n with
    | ready => exact .inl ⟨rfl, rfl⟩
    | fatal e => exact .inr (.inl ⟨e, rfl, rfl⟩)
    | notReady => exact .inr (.inr ⟨rfl, ends.last decided, rfl⟩)
  · have bounded := ends.le_rounds brisk
    rw [Vigil.rounds_eq_ceilDiv brisk] at bounded
    exact Nat.succ_le_succ bounded
  · obtain ⟨time, count⟩ := ends.instant_timeout brisk instant undecided
    rw [Vigil.rounds_eq_ceilDiv brisk] at count
    exact ⟨time, (congrArg (v.asked n + ·) (instant n (Nat.le_refl n))).trans time, congrArg Nat.succ count⟩

open Rehearsal in
/-- What never becomes so is asked for four times within a second at intervals of 400 milliseconds. -/
theorem never_so_timetable :
    0 < (Duration.ofMillis 400).nanoseconds ∧
      Program.runWith (Watch.handle (fun _ => .notReady) fun _ => 0)
          (wait "it" ⟨.ofMillis 400, .ofSeconds 1⟩ check) { now := 0 } =
        (.error (.timeout "it" (.ofSeconds 1)),
          { now := 1000000000
            questions := [(0, 0), (400000000, 400000000), (800000000, 800000000), (1000000000, 1000000000)] }) := by
  refine ⟨by decide, ?_⟩
  obtain ⟨n, outcome, run, -, decided, -, -, instant⟩ :=
    wait_keeps_timetable ⟨.ofMillis 400, .ofSeconds 1⟩ (by decide) "it" 0 (fun _ => .notReady) fun _ => 0
  obtain ⟨-, -, count⟩ := instant (fun _ _ => rfl) rfl
  obtain rfl : n = 3 := Nat.succ.inj count
  rcases decided with ⟨⟨⟩, -⟩ | ⟨_, ⟨⟩, -⟩ | ⟨-, -, rfl⟩
  exact run

end SignOnOperator
