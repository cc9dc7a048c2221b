import SignOnOperator.Proofs.Footprint
/-!
# Two runs side by side

Two programs compared turn by turn: at each turn both ask, for requests that go together, and are given replies that go
together, until both end at once.  `Program.Coupled.bind` and its neighbours carry this from the parts of two routines
to the whole.  A routine is coupled with itself where only such replies differ as it does not ask for
(`Confined.coupled`), and a wait also where the clocks differ, if by the same time throughout (`wait_coupled`).
-/
namespace SignOnOperator

/-- Which requests go together and which replies to them, and what is kept in mind of the requests. -/
structure Coupling (I : Interface) (σ : Type) where
  pairs : σ → I.Request → I.Request → Prop
  gives : σ → (r r' : I.Request) → I.Reply r → I.Reply r' → Prop
  next : σ → I.Request → I.Request → σ

/-- Both end in the same way: with values that go together, with the same error, or by breaking down. -/
def Outcome.Alike {α β : Type} (R : α → β → Prop) : Outcome α → Outcome β → Prop
  | .ok a, .ok b => R a b
  | .error e, .error e' => e = e'
  | .panic, .panic => True
  | _, _ => False

theorem Outcome.alike_eq_iff {α : Type} {o o' : Outcome α} : Outcome.Alike Eq o o' ↔ o = o' := by
  cases o <;> cases o' <;> simp [Alike]

theorem Outcome.Alike.imp {α β : Type} {R S : α → β → Prop} (h : ∀ a b, R a b → S a b) {o : Outcome α}
    {o' : Outcome β} (alike : Outcome.Alike R o o') : Outcome.Alike S o o' := by
  cases o <;> cases o' <;> try exact alike
  exact h _ _ alike

theorem Outcome.Alike.except_bind {α β α' β' : Type} {R : α → β → Prop} {S : α' → β' → Prop} {x : Except Error α}
    {y : Except Error β} {f : α → Except Error α'} {g : β → Except Error β'}
    (first : Outcome.Alike R (.ofExcept x) (.ofExcept y))
    (later : ∀ a b, R a b → Outcome.Alike S (.ofExcept (f a)) (.ofExcept (g b))) :
    Outcome.Alike S (.ofExcept (x >>= f)) (.ofExcept (y >>= g)) := by
  rcases x with e | a <;> rcases y with e' | b <;> try exact first.elim
  · exact congrArg id first
  · exact later a b first

namespace Program

variable {I : Interface} {σ α β α' β' : Type} {C : Coupling I σ} {s : σ}

/-- From this state on, the programs go side by side and end as stated. -/
inductive Coupled (C : Coupling I σ) (post : σ → α → β → Prop) : σ → Program I α → Program I β → Prop
  | done {s : σ} {a : α} {b : β} (ended : post s a b) : Coupled C post s (.done a) (.done b)
  | ask {s : σ} {r r' : I.Request} {next : I.Reply r → Program I α} {next' : I.Reply r' → Program I β}
      (pair : C.pairs s r r')
      (later : ∀ reply reply', C.gives s r r' reply reply' →
        Coupled C post (C.next s r r') (next reply) (next' reply')) :
      Coupled C post s (.ask r next) (.ask r' next')

namespace Coupled

theorem bind {mid : σ → α → β → Prop} {post : σ → α' → β' → Prop} {p : Program I α} {q : Program I β}
    {f : α → Program I α'} {g : β → Program I β'} (first : Coupled C mid s p q)
    (later : ∀ s a b, mid s a b → Coupled C post s (f a) (g b)) : Coupled C post s (p.bind f) (q.bind g) := by
  induction first with
  | done ended => exact later _ _ _ ended
  | ask pair _ ih => exact .ask pair fun reply reply' given => ih reply reply' given

theorem imp {post post' : σ → α → β → Prop} (h : ∀ s a b, post s a b → post' s a b) {p : Program I α}
    {q : Program I β} (coupled : Coupled C post s p q) : Coupled C post' s p q := by
  induction coupled with
  | done ended => exact .done (h _ _ _ ended)
  | ask pair _ ih => exact .ask pair ih

end Coupled
end Program

/-! ## Actions -/

namespace Action

variable {I : Interface} {σ α β α' β' : Type} {C : Coupling I σ} {s : σ} {R : σ → α → β → Prop} {S : σ → α' → β' → Prop}

/-- The actions go side by side, and if they come to values these go together. -/
abbrev Coupled (C : Coupling I σ) (R : σ → α → β → Prop) (s : σ) (x : Action I α) (y : Action I β) : Prop :=
  Program.Coupled C (fun s o o' => Outcome.Alike (R s) o o') s x y

theorem coupled_bind {x : Action I α} {y : Action I β} {f : α → Action I α'} {g : β → Action I β'}
    (first : Coupled C R s x y) (later : ∀ s a b, R s a b → Coupled C S s (f a) (g b)) :
    Coupled C S s (Action.bind x f) (Action.bind y g) := by
  refine Program.Coupled.bind first fun s o o' ended => ?_
  cases o <;> cases o' <;> try exact ended.elim
  · exact later s _ _ ended
  · exact .done ended
  · exact .done ended

theorem coupled_pure {a : α} {b : β} (h : R s a b) : Coupled C R s (pure a : Action I α) (pure b : Action I β) :=
  .done h

theorem coupled_fail (e : Error) : Coupled C R s (fail e : Action I α) (fail e : Action I β) := .done rfl

theorem coupled_ofExcept_bind {result : Except Error α} {f : α → Action I α'} {g : α → Action I β'}
    (later : ∀ a, result = .ok a → Coupled C S s (f a) (g a)) :
    Coupled C S s (Action.bind (ofExcept result) f) (Action.bind (ofExcept result) g) := by
  cases result with
  | ok a => exact later a rfl
  | error e => exact .done rfl

theorem coupled_require_bind {value : Option α} {e : Error} {f : α → Action I α'} {g : α → Action I β'}
    (later : ∀ a, value = some a → Coupled C S s (f a) (g a)) :
    Coupled C S s (Action.bind (require value e) f) (Action.bind (require value e) g) := by
  cases value with
  | some a => exact later a rfl
  | none => exact .done rfl

theorem coupled_mapError {x : Action I α} {y : Action I β} {f : Error → Error} (coupled : Coupled C R s x y) :
    Coupled C R s (x.mapError f) (y.mapError f) := by
  rw [mapError_eq, mapError_eq]
  refine Program.Coupled.bind coupled fun s o o' ended => .done ?_
  cases o <;> cases o' <;> try exact ended
  exact congrArg f ended

/-- Failures that are taken as values go together if they are the same. -/
theorem coupled_attempt {x : Action I α} {y : Action I β} (coupled : Coupled C R s x y) :
    Coupled C (fun s result result' => Outcome.Alike (R s) (.ofExcept result) (.ofExcept result')) s x.attempt
      y.attempt := by
  rw [attempt_eq, attempt_eq]
  refine Program.Coupled.bind coupled fun s o o' ended => .done ?_
  cases o <;> cases o' <;> exact ended

end Action

/-! ## A routine beside itself -/

section

variable {σ α : Type} {C : Coupling Operator σ} {s : σ}

/-- The request goes together with itself, and only with equal replies. -/
structure Coupling.Repeats (C : Coupling Operator σ) (s : σ) (r : OperatorRequest) : Prop where
  pairs : C.pairs s r r
  gives : ∀ reply reply', C.gives s r r reply reply' → reply = reply'
  next : C.next s r r = s

/-- A routine that asks only for what is replied to alike does the same on both sides. -/
theorem Confined.coupled {kinds : List RequestKind} {x : Routine α} (confined : Confined kinds x)
    (repeats : ∀ r : OperatorRequest, r.kind ∈ kinds → C.Repeats s r) :
    Program.Coupled C (fun s' o o' => s' = s ∧ o = o') s x x := by
  have asks := confined.asks
  clear confined
  induction x with
  | done o => exact .done ⟨rfl, rfl⟩
  | ask r next ih =>
    have again := repeats r (asks [] r ⟨next, .here _⟩)
    refine .ask again.pairs fun reply reply' given => ?_
    obtain rfl := again.gives reply reply' given
    rw [again.next]
    exact ih reply fun h r' ⟨later, led⟩ => asks (⟨r, reply⟩ :: h) r' ⟨later, .turn led⟩

/-- The clocks of the two sides differ by the same time throughout, and pauses are the same. -/
structure Coupling.Keeping (C : Coupling Operator σ) (s : σ) (shift : Nat) : Prop where
  pairs : C.pairs s .clock .clock
  gives : ∀ now now' : Nat, C.gives s .clock .clock now now' → now' = now + shift
  next : C.next s .clock .clock = s
  pause : ∀ d, C.Repeats s (.pause d)

variable {shift : Nat} {what : String} {polling : Polling} {question question' : Routine Verdict}

theorem askUntil_coupled (keeping : C.Keeping s shift) {deadline : Nat} {again again' : Unit → Routine Unit}
    (asked : Program.Coupled C (fun s' o o' => s' = s ∧ o = o') s question question')
    (later : Program.Coupled C (fun s' o o' => s' = s ∧ o = o') s (again ()) (again' ())) :
    Program.Coupled C (fun s' o o' => s' = s ∧ o = o') s (askUntil what polling deadline question again)
      (askUntil what polling (deadline + shift) question' again') := by
  refine Program.Coupled.bind asked ?_
  rintro s' o _ ⟨rfl, rfl⟩
  rcases o with (- | - | e) | e | -
  · exact .done ⟨rfl, rfl⟩
  · refine .ask keeping.pairs fun (now now' : Nat) given => ?_
    obtain rfl := keeping.gives now now' given
    rw [keeping.next]
    -- The time that is left is the same on both sides.
    change Program.Coupled C _ s'
      (if deadline ≤ now then Action.fail (.timeout what polling.limit) else
        Action.bind (Routine.pause ⟨min polling.interval.nanoseconds (deadline - now)⟩)
          fun _ => again () : Routine Unit)
      (if deadline + shift ≤ now + shift then Action.fail (.timeout what polling.limit) else
        Action.bind (Routine.pause ⟨min polling.interval.nanoseconds (deadline + shift - (now + shift))⟩)
          fun _ => again' () : Routine Unit)
    rw [Nat.add_sub_add_right]
    by_cases late : deadline ≤ now
    · rw [if_pos late, if_pos (Nat.add_le_add_right late shift)]
      exact .done ⟨rfl, rfl⟩
    · rw [if_neg late, if_neg (mt Nat.le_of_add_le_add_right late)]
      refine .ask (keeping.pause _).pairs fun reply reply' given => ?_
      rw [(keeping.pause _).next]
      exact later
  · exact .done ⟨rfl, rfl⟩
  · exact .done ⟨rfl, rfl⟩
  · exact .done ⟨rfl, rfl⟩

theorem waitUntil_coupled (keeping : C.Keeping s shift) {deadline : Nat}
    (asked : Program.Coupled C (fun s' o o' => s' = s ∧ o = o') s question question') (rounds : Nat) :
    Program.Coupled C (fun s' o o' => s' = s ∧ o = o') s (waitUntil what polling deadline question rounds)
      (waitUntil what polling (deadline + shift) question' rounds) := by
  induction rounds with
  | zero => exact askUntil_coupled keeping asked (.done ⟨rfl, rfl⟩)
  | succ rounds ih => exact askUntil_coupled keeping asked ih

/-- **Waits whose questions come to the same verdicts end alike**, and ask as often. -/
theorem wait_coupled (keeping : C.Keeping s shift)
    (asked : Program.Coupled C (fun s' o o' => s' = s ∧ o = o') s question question') :
    Program.Coupled C (fun s' o o' => s' = s ∧ o = o') s (wait what polling question)
      (wait what polling question') := by
  refine .ask keeping.pairs fun (start start' : Nat) given => ?_
  obtain rfl := keeping.gives start start' given
  rw [keeping.next]
  change Program.Coupled C _ s (waitUntil what polling (start + polling.limit.nanoseconds) question polling.rounds)
    (waitUntil what polling (start + shift + polling.limit.nanoseconds) question' polling.rounds)
  rw [Nat.add_right_comm]
  exact waitUntil_coupled keeping asked polling.rounds

/-- A question by one call comes to the same verdict if the replies are judged alike. -/
theorem Waiting.ask_coupled {c : Call} {judge judge' : c.Result → Verdict} (pairs : C.pairs s (.call c) (.call c))
    (next : C.next s (.call c) (.call c) = s)
    (gives : ∀ o o' : Outcome c.Result, C.gives s (.call c) (.call c) o o' →
      Outcome.Alike (fun a a' => judge a = judge' a') o o') :
    Program.Coupled C (fun s' o o' => s' = s ∧ o = o') s (ask c judge) (ask c judge') := by
  refine .ask pairs fun o o' given => ?_
  rw [next]
  have alike := gives o o' given
  cases o <;> cases o' <;> try exact alike.elim
  · exact .done ⟨rfl, congrArg Outcome.ok alike⟩
  · exact .done ⟨rfl, congrArg (fun e => Outcome.ok (Verdict.ofError e)) alike⟩
  · exact .done ⟨rfl, rfl⟩

end
end SignOnOperator
