import SignOnOperator.Proofs.Timing
/-!
# Timetables

The calls of a program that runs alone with the times when they are made.  They depend on nothing but how long each call
takes and what the program asks for, so that programs that ask for requests of the same length keep abreast
(`Supply.Answers.abreast`).
-/
namespace SignOnOperator

open Rehearsal (Recorded)

namespace OperatorRequest

def isCall : OperatorRequest → Bool
  | call _ => true
  | _ => false

/-- How long a request takes; for a call that is given, and a pause takes just as long as it is to be. -/
def duration (delay : Nat) : OperatorRequest → Nat
  | call _ => delay
  | pause d => d.nanoseconds
  | _ => 0

/-- Where both ask for the time, one is told a later time than the other. -/
def ClocksDiffer (shift : Nat) : (r r' : OperatorRequest) → r.Reply → r'.Reply → Prop
  | clock, clock, (now : Nat), (now' : Nat) => now' = now + shift
  | _, _, _, _ => True

/-- The call that is made, if it is one, with its time. -/
def recorded (now : Nat) : OperatorRequest → List Recorded
  | call c => [⟨now, c⟩]
  | _ => []

end OperatorRequest

/-- The calls of a history with their times, from a time and a number of earlier calls on. -/
def timetable (delay : Nat → Nat) : Nat → Nat → History Operator → List Recorded
  | _, _, [] => []
  | now, calls, t :: h =>
    OperatorRequest.recorded now t.request ++
      timetable delay (now + OperatorRequest.duration (delay calls) t.request)
        (calls + (OperatorRequest.isCall t.request).toNat) h

/-- The second moment is so much later than the first, after as many calls. -/
structure Moment.Abreast (shift : Nat) (m m' : Moment) : Prop where
  now : m'.now = m.now + shift
  calls : m'.calls = m.calls

variable {supply supply' : Supply} {m m₁ m' m₁' : Moment} {shift : Nat}

namespace Supply.Answers

theorem now_eq {r : OperatorRequest} {reply : r.Reply} (answered : supply.Answers m r reply m₁) :
    m₁.now = m.now + r.duration (supply.delay m.calls) := by
  cases r with
  | call c => rw [answered.2]; rfl
  | pause d => rw [show m₁ = _ from answered]; rfl
  | clock | draw => rw [answered.2]; rfl
  | acquire _ | release _ | count _ | enterCell | fillCell _ | leaveCell =>
    obtain ⟨shared, -, rfl⟩ := answered
    rfl

theorem calls_eq {r : OperatorRequest} {reply : r.Reply} (answered : supply.Answers m r reply m₁) :
    m₁.calls = m.calls + r.isCall.toNat := by
  cases r with
  | call c => rw [answered.2]; rfl
  | pause d => rw [show m₁ = _ from answered]; rfl
  | clock | draw => rw [answered.2]; rfl
  | acquire _ | release _ | count _ | enterCell | fillCell _ | leaveCell =>
    obtain ⟨shared, -, rfl⟩ := answered
    rfl

/-- A timetable follows the time. -/
theorem timetable_cons {r : OperatorRequest} {reply : r.Reply} (answered : supply.Answers m r reply m₁)
    (h : History Operator) :
    timetable supply.delay m.now m.calls (⟨r, reply⟩ :: h) =
      r.recorded m.now ++ timetable supply.delay m₁.now m₁.calls h := by
  rw [answered.now_eq, answered.calls_eq]
  rfl

theorem clocksDiffer {r r' : OperatorRequest} {reply : r.Reply} {reply' : r'.Reply}
    (answered : supply.Answers m r reply m₁) (answered' : supply'.Answers m' r' reply' m₁')
    (abreast : m.Abreast shift m') : r.ClocksDiffer shift r' reply reply' := by
  unfold OperatorRequest.ClocksDiffer
  split
  · exact answered'.1.trans (abreast.now.trans (congrArg (· + shift) answered.1.symm))
  · trivial

/-- Requests that take as long keep programs abreast. -/
theorem abreast {r r' : OperatorRequest} {reply : r.Reply} {reply' : r'.Reply}
    (answered : supply.Answers m r reply m₁) (answered' : supply'.Answers m' r' reply' m₁')
    (abreast : m.Abreast shift m') (delays : supply'.delay = supply.delay)
    (duration : ∀ delay, r'.duration delay = r.duration delay) (call : r'.isCall = r.isCall) :
    m₁.Abreast shift m₁' where
  now := by
    rw [answered'.now_eq, answered.now_eq, abreast.now, abreast.calls, delays, duration]
    omega
  calls := by rw [answered'.calls_eq, answered.calls_eq, abreast.calls, call]

end Supply.Answers
end SignOnOperator
