import SignOnOperator.Program
/-!
# Polling

Waiting for something by asking about it again and again, for a limited time.  The first question is asked at once;
between two questions a fixed interval passes, which is cut short so that the last question is asked at the deadline.
-/
namespace SignOnOperator

/-- How often to ask, and for how long. -/
structure Polling where
  interval : Duration
  limit : Duration
  deriving DecidableEq, Repr

/-- What a question came to. -/
inductive Verdict where
  | ready
  | notReady
  | fatal (e : Error)
  deriving DecidableEq, Repr

namespace Verdict

def readyIf (condition : Bool) : Verdict := if condition then ready else notReady

/-- A failure that clears up on its own is no answer yet; any other ends the waiting. -/
def ofError (e : Error) : Verdict := if e.isTransient then notReady else fatal e

/-- The verdict on what was found, or on the failure to find out. -/
def ofReply {α : Type} (judge : α → Verdict) : Except Error α → Verdict
  | .ok found => judge found
  | .error e => ofError e

end Verdict

/-- An interface with a clock, which counts nanoseconds, and pauses. -/
class Timed (I : Interface) where
  clock : Action I Nat
  pause : Duration → Action I Unit

/-- More pauses than a wait of this kind ever makes.  Without an interval the number of questions is bounded only by
the time that each takes. -/
def Polling.rounds (p : Polling) : Nat :=
  let interval := p.interval.nanoseconds
  if interval = 0 then Nat.pow 2 64 else (p.limit.nanoseconds + interval - 1) / interval

variable {I : Interface} [Timed I]

/-- Asks once.  Before the deadline an answer that decides nothing is followed by a pause and by `again`. -/
def askUntil (what : String) (polling : Polling) (deadline : Nat) (question : Action I Verdict)
    (again : Unit → Action I Unit) : Action I Unit := do
  match ← question with
  | .ready => return ()
  | .fatal e => Action.fail e
  | .notReady =>
    let now ← Timed.clock
    if deadline ≤ now then Action.fail (.timeout what polling.limit)
    else
      Timed.pause ⟨min polling.interval.nanoseconds (deadline - now)⟩
      again ()

/-- Asks until the answer is definite or comes at the deadline or later, with at most so many pauses. -/
def waitUntil (what : String) (polling : Polling) (deadline : Nat) (question : Action I Verdict) :
    Nat → Action I Unit
  | 0 => askUntil what polling deadline question fun _ => Action.fail (.timeout what polling.limit)
  | rounds + 1 =>
    askUntil what polling deadline question fun _ => waitUntil what polling deadline question rounds

/-- Waits for `what` from now on. -/
def wait (what : String) (polling : Polling) (question : Action I Verdict) : Action I Unit := do
  let start ← Timed.clock
  waitUntil what polling (start + polling.limit.nanoseconds) question polling.rounds

end SignOnOperator
