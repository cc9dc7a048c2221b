import SignOnOperator.Rehearsal.World
/-!
# Schedules

Several programs side by side on one thread and one clock.  A program runs until it sleeps, waits for the cell or ends.
Then one that waits for a free cell goes on, the longest waiting first, or else the one that is to wake first; of
those that are to wake at the same time, the first in the list.
-/
namespace SignOnOperator.Rehearsal

/-- Where a program stands. -/
inductive Status (α : Type) where
  | sleeping (wake : Nat) (resume : World → Stage → Program Operator α × World × Stage)
  | queued (since : Nat) (again : Program Operator α)
  | finished (time : Nat) (result : α)

/-- A program with its stage. -/
structure Actor (α : Type) where
  stage : Stage
  status : Status α

variable {α : Type}

/-- Runs a program until it sleeps, waits or ends. -/
def advance : Program Operator α → World → Stage → World × Actor α
  | .done result, w, stage => (w, ⟨stage, .finished w.now result⟩)
  | .ask request next, w, stage =>
    match handle w stage request with
    | .reply reply w stage => advance (next reply) w stage
    | .sleep wake w stage finish =>
      (w, ⟨stage, .sleeping wake fun w stage =>
        let (reply, w, stage) := finish w stage
        (next reply, w, stage)⟩)
    | .queue => (w, ⟨stage, .queued w.now (.ask request next)⟩)

/-- Lets an actor go on. -/
def Actor.resume (a : Actor α) (w : World) : World × Actor α :=
  match a.status with
  | .sleeping wake resume =>
    let (program, w, stage) := resume { w with now := max w.now wake } a.stage
    advance program w stage
  | .queued _ again => advance again w a.stage
  | .finished _ _ => (w, a)

/-- How urgent it is that an actor goes on: those that wait for a free cell first, then by time. -/
def Actor.rank? (w : World) (a : Actor α) : Option (Nat × Nat) :=
  match a.status with
  | .sleeping wake _ => some (1, wake)
  | .queued since _ =>
    match w.cell with
    | .loading => none
    | _ => some (0, since)
  | .finished _ _ => none

def rankBefore (a b : Nat × Nat) : Bool := a.1 < b.1 || (a.1 == b.1 && a.2 < b.2)

/-- The index of the actor that goes on, with its rank, among those from `index` on. -/
def mostUrgent (w : World) : Nat → List (Actor α) → Option (Nat × (Nat × Nat))
  | _, [] => none
  | index, a :: rest =>
    match a.rank? w, mostUrgent w (index + 1) rest with
    | none, best => best
    | some rank, none => some (index, rank)
    | some rank, some best => if rankBefore best.2 rank then some best else some (index, rank)

/-- Lets one actor after another go on, until none can, at most so many times. -/
def play : Nat → World → List (Actor α) → World × List (Actor α)
  | 0, w, actors => (w, actors)
  | fuel + 1, w, actors =>
    match mostUrgent w 0 actors with
    | none => (w, actors)
    | some (index, _) =>
      match actors[index]? with
      | none => (w, actors)
      | some actor =>
        let (w, actor) := actor.resume w
        play fuel w (actors.set index actor)

/-- More steps than any rehearsal takes. -/
def enough : Nat := Nat.pow 2 64

/-- Plays all actors to the end. -/
def playAll (w : World) (actors : List (Actor α)) : World × List (Actor α) := play enough w actors

/-- Runs one program to the end, from now on. -/
def runAlone (w : World) (script : Script) (program : Program Operator α) : World × Stage × Option α :=
  let (w, actor) := advance program w { script }
  match playAll w [actor] with
  | (w, [⟨stage, .finished _ result⟩]) => (w, stage, some result)
  | (w, actors) => (w, (actors.head?.map (·.stage)).getD {}, none)

end SignOnOperator.Rehearsal
