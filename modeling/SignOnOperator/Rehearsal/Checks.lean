import SignOnOperator.Waiting.Polling
/-!
# Waiting, rehearsed

Polling on its own: a list of verdicts answers the questions, one after another, the last one again and again, each
without taking time.
-/
namespace SignOnOperator.Rehearsal

/-- What polling on its own may ask for. -/
inductive CheckRequest where
  | clock
  | pause (d : Duration)
  | check

def CheckRequest.Reply : CheckRequest → Type
  | clock => Nat
  | pause _ => Unit
  | check => Verdict

def Checks : Interface := ⟨CheckRequest, CheckRequest.Reply⟩

instance : Timed Checks where
  clock := Action.request (I := Checks) .clock
  pause d := Action.request (I := Checks) (.pause d)

/-- The question whether it is so. -/
def check : Action Checks Verdict := Action.request (I := Checks) .check

/-- The time, the verdicts to come, and the times of the questions, the latest first. -/
structure CheckState where
  now : Nat := 0
  verdicts : List Verdict
  asked : List Nat := []

/-- The verdict that comes next; without any, nothing is ever decided. -/
def CheckState.next (s : CheckState) : Verdict × List Verdict :=
  match s.verdicts with
  | [] => (.notReady, [])
  | [v] => (v, [v])
  | v :: rest => (v, rest)

def CheckState.handle (s : CheckState) : (r : CheckRequest) → r.Reply × CheckState
  | .clock => (s.now, s)
  | .pause d => ((), { s with now := s.now + d.nanoseconds })
  | .check =>
    let (v, verdicts) := s.next
    (v, { s with verdicts, asked := s.now :: s.asked })

/-- Runs a program to its end. -/
def runChecks {α : Type} (p : Program Checks α) (s : CheckState) : α × CheckState := p.runWith CheckState.handle s

end SignOnOperator.Rehearsal
