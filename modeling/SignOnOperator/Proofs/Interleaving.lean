import Mathlib.Logic.Relation
import SignOnOperator.Proofs.History
/-!
# Interleaving

Any number of programs side by side over a state that they share, one request at a time, with the rest of the world
changing the state between requests.  What holds of all of them is shown for one program at a time: it relies on what
all the others may do to the state (`Discipline`), and shows that it does no more than that itself (`Program.Secures`).
That this is enough for every interleaving is `Run.secured`.
-/
namespace SignOnOperator.Interleaving

variable {I : Interface} {κ α σ : Type}

/-- What runs for each purpose, how the state answers a request made for a purpose and what becomes of it, and how the
state may change on its own. -/
structure Setting (I : Interface) (κ α σ : Type) where
  program : κ → Program I α
  answers : κ → σ → (r : I.Request) → I.Reply r → σ → Prop
  drifts : σ → σ → Prop

/-- A program under way: the state in which it began, what it has been given since, and what is left of it. -/
structure Thread (I : Interface) (κ α σ : Type) where
  purpose : κ
  began : σ
  history : History I
  rest : Program I α

def result? : Program I α → Option α
  | .done a => some a
  | .ask _ _ => none

structure Pool (I : Interface) (κ α σ : Type) where
  state : σ
  threads : List (Thread I κ α σ)

/-- A program begins, or one of those under way goes on by one request, or the state changes on its own. -/
inductive Step (S : Setting I κ α σ) : Pool I κ α σ → Pool I κ α σ → Prop where
  | begins (p : Pool I κ α σ) (k : κ) : Step S p ⟨p.state, p.threads ++ [⟨k, p.state, [], S.program k⟩]⟩
  | proceeds {s s' began : σ} {before after : List (Thread I κ α σ)} {k : κ} {h : History I} {r : I.Request}
      {next : I.Reply r → Program I α} {reply : I.Reply r} (answered : S.answers k s r reply s') :
      Step S ⟨s, before ++ ⟨k, began, h, .ask r next⟩ :: after⟩
        ⟨s', before ++ ⟨k, began, h ++ [⟨r, reply⟩], next reply⟩ :: after⟩
  | drifts {s s' : σ} {threads : List (Thread I κ α σ)} (drift : S.drifts s s') : Step S ⟨s, threads⟩ ⟨s', threads⟩

def Run (S : Setting I κ α σ) : Pool I κ α σ → Pool I κ α σ → Prop := Relation.ReflTransGen (Step S)

/-- An invariant of the state, and how states may follow one another as far as any program can tell. -/
structure Discipline (S : Setting I κ α σ) where
  inv : σ → Prop
  evolves : σ → σ → Prop
  refl : ∀ s, evolves s s
  trans : ∀ {s s' s''}, evolves s s' → evolves s' s'' → evolves s s''
  drifts : ∀ {s s'}, inv s → S.drifts s s' → inv s' ∧ evolves s s'

variable {S : Setting I κ α σ}

/-- A program goes on for a while with nothing else happening. -/
inductive Alone (S : Setting I κ α σ) (k : κ) : σ → Program I α → History I → σ → Program I α → Prop where
  | done (s : σ) (p : Program I α) : Alone S k s p [] s p
  | turn {s s'' : σ} (s' : σ) {r : I.Request} {next : I.Reply r → Program I α} {reply : I.Reply r} {h : History I}
      {p : Program I α} (answered : S.answers k s r reply s') (later : Alone S k s' (next reply) h s'' p) :
      Alone S k s (.ask r next) (⟨r, reply⟩ :: h) s'' p

theorem Alone.run {k : κ} {s s' : σ} {p p' : Program I α} {h : History I} (alone : Alone S k s p h s' p') (began : σ)
    (g : History I) (before after : List (Thread I κ α σ)) :
    Run S ⟨s, before ++ ⟨k, began, g, p⟩ :: after⟩ ⟨s', before ++ ⟨k, began, g ++ h, p'⟩ :: after⟩ := by
  induction alone generalizing g with
  | done s p =>
    rw [List.append_nil]
    exact .refl
  | @turn s s'' s' r next reply h p answered later ih =>
    have rest := ih (g ++ [⟨r, reply⟩])
    rw [List.append_assoc] at rest
    exact .head (.proceeds answered) rest

/-- From this state on, whatever the others do within the discipline, the program keeps to it too, and at any time this
holds of what it has been given, of the state, and of its result if it has one. -/
def Secures (d : Discipline S) (k : κ) (pledge : History I → σ → Option α → Prop) : Program I α → History I → σ → Prop
  | .done a, h, s => ∀ s', d.evolves s s' → d.inv s' → pledge h s' (some a)
  | .ask r next, h, s => ∀ s', d.evolves s s' → d.inv s' → pledge h s' none ∧
      ∀ reply s'', S.answers k s' r reply s'' →
        d.inv s'' ∧ d.evolves s' s'' ∧ Secures d k pledge (next reply) (h ++ [⟨r, reply⟩]) s''

variable {d : Discipline S} {k : κ} {pledge : History I → σ → Option α → Prop}

theorem Secures.evolve {p : Program I α} {h : History I} {s s' : σ} (secures : Secures d k pledge p h s)
    (he : d.evolves s s') : Secures d k pledge p h s' := by
  cases p with
  | done a => exact fun t ht => secures t (d.trans he ht)
  | ask r next => exact fun t ht => secures t (d.trans he ht)

theorem Secures.now {p : Program I α} {h : History I} {s : σ} (secures : Secures d k pledge p h s) (hs : d.inv s) :
    pledge h s (result? p) := by
  cases p with
  | done a => exact secures s (d.refl s) hs
  | ask r next => exact (secures s (d.refl s) hs).1

/-- All programs under way are secured from the state as it is. -/
structure Secured (d : Discipline S) (pledgeOf : κ → σ → History I → σ → Option α → Prop) (p : Pool I κ α σ) :
    Prop where
  inv : d.inv p.state
  threads : ∀ t ∈ p.threads, Secures d t.purpose (pledgeOf t.purpose t.began) t.rest t.history p.state

variable {pledgeOf : κ → σ → History I → σ → Option α → Prop}

theorem Secured.now {p : Pool I κ α σ} (secured : Secured d pledgeOf p) {t : Thread I κ α σ} (ht : t ∈ p.threads) :
    pledgeOf t.purpose t.began t.history p.state (result? t.rest) :=
  (secured.threads t ht).now secured.inv

theorem Step.secured {p p' : Pool I κ α σ} (fresh : ∀ k s, d.inv s → Secures d k (pledgeOf k s) (S.program k) [] s)
    (secured : Secured d pledgeOf p) (step : Step S p p') : Secured d pledgeOf p' ∧ d.evolves p.state p'.state := by
  obtain ⟨inv, threads⟩ := secured
  cases step with
  | begins _ k =>
    refine ⟨⟨inv, List.forall_mem_append.2 ⟨threads, List.forall_mem_singleton.2 ?_⟩⟩, d.refl _⟩
    exact fresh k p.state inv
  | @proceeds s s' began before after k h r next reply answered =>
    obtain ⟨early, here⟩ := List.forall_mem_append.1 threads
    obtain ⟨this, late⟩ := List.forall_mem_cons.1 here
    -- The one that goes on keeps to the discipline, which is all that the others rely on.
    obtain ⟨inv', he, mine⟩ := (this s (d.refl s) inv).2 reply s' answered
    refine ⟨⟨inv', List.forall_mem_append.2 ⟨fun t ht => (early t ht).evolve he, ?_⟩⟩, he⟩
    exact List.forall_mem_cons.2 ⟨mine, fun t ht => (late t ht).evolve he⟩
  | drifts drift =>
    obtain ⟨inv', he⟩ := d.drifts inv drift
    exact ⟨⟨inv', fun t ht => (threads t ht).evolve he⟩, he⟩

/-- **Programs that are secured one by one are secured side by side**, in every interleaving. -/
theorem Run.secured {p p' : Pool I κ α σ} (fresh : ∀ k s, d.inv s → Secures d k (pledgeOf k s) (S.program k) [] s)
    (secured : Secured d pledgeOf p) (run : Run S p p') : Secured d pledgeOf p' ∧ d.evolves p.state p'.state := by
  induction run with
  | refl => exact ⟨secured, d.refl _⟩
  | tail _ step ih =>
    obtain ⟨secured', he⟩ := ih
    obtain ⟨secured'', he'⟩ := step.secured fresh secured'
    exact ⟨secured'', d.trans he he'⟩

end SignOnOperator.Interleaving
