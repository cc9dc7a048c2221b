import SignOnOperator.Error
/-!
# Programs

What the operator does is written as programs: trees that ask for something and go on with the reply.  A program says
nothing about who replies, so what holds of it holds whatever the cluster answers, however long that takes, and
whatever else runs beside it.
-/
namespace SignOnOperator

/-- What a program may ask for, and what it is given for each request. -/
structure Interface where
  Request : Type
  Reply : Request → Type

/-- A program over an interface. -/
inductive Program (I : Interface) (α : Type) : Type where
  | done (result : α)
  | ask (request : I.Request) (next : I.Reply request → Program I α)

namespace Program

variable {I : Interface} {α β γ : Type}

def bind : Program I α → (α → Program I β) → Program I β
  | done a, f => f a
  | ask r next, f => ask r fun reply => (next reply).bind f

/-- One request. -/
def request (r : I.Request) : Program I (I.Reply r) := ask r done

instance : Monad (Program I) where
  pure := done
  bind := bind

/-- Runs a program to its end, each request answered out of a state. -/
def runWith {σ : Type} (answer : σ → (r : I.Request) → I.Reply r × σ) : Program I α → σ → α × σ
  | done a, s => (a, s)
  | ask r next, s =>
    let (reply, s) := answer s r
    (next reply).runWith answer s

@[simp]
theorem bind_done (p : Program I α) : p.bind done = p := by
  induction p with
  | done _ => rfl
  | ask r next ih => simp [bind, ih]

theorem bind_assoc (p : Program I α) (f : α → Program I β) (g : β → Program I γ) :
    (p.bind f).bind g = p.bind fun a => (f a).bind g := by
  induction p with
  | done _ => rfl
  | ask r next ih => simp [bind, ih]

end Program

/-- How an action ends: with a value, with an error, or by breaking down. -/
inductive Outcome (α : Type) where
  | ok (value : α)
  | error (error : Error)
  | panic

/-- An outcome that is no breakdown. -/
def Outcome.ofExcept {α : Type} : Except Error α → Outcome α
  | .ok a => .ok a
  | .error e => .error e

/-- A program that may fail. -/
def Action (I : Interface) (α : Type) : Type := Program I (Outcome α)

namespace Action

variable {I : Interface} {α β : Type}

/-- Goes on with the value; an error or a breakdown ends the whole. -/
def bind (a : Action I α) (f : α → Action I β) : Action I β :=
  Program.bind a fun
    | .ok value => f value
    | .error e => .done (.error e)
    | .panic => .done .panic

instance : Monad (Action I) where
  pure a := .done (.ok a)
  bind := bind

def fail (e : Error) : Action I α := .done (.error e)

/-- A program that cannot fail, as an action. -/
def run (p : Program I α) : Action I α := p.bind fun a => .done (.ok a)

/-- One request that cannot fail. -/
def request (r : I.Request) : Action I (I.Reply r) := run (.request r)

def ofExcept (result : Except Error α) : Action I α := .done (.ofExcept result)

/-- The value that is there, or an error. -/
def require (value : Option α) (e : Error) : Action I α :=
  match value with
  | some a => pure a
  | none => fail e

/-- The action with its error, if it ends in one, taken as its value. -/
def attempt (a : Action I α) : Action I (Except Error α) :=
  Program.bind a fun
    | .ok value => .done (.ok (.ok value))
    | .error e => .done (.ok (.error e))
    | .panic => .done .panic

/-- The action with its error replaced. -/
def mapError (f : Error → Error) (a : Action I α) : Action I α :=
  Program.bind a fun
    | .ok value => .done (.ok value)
    | .error e => .done (.error (f e))
    | .panic => .done .panic

/-- The action, and then a program that runs however the action ended. -/
def andFinally (a : Action I α) (last : Program I Unit) : Action I α :=
  Program.bind a fun outcome => last.bind fun _ => .done outcome

end Action
end SignOnOperator
