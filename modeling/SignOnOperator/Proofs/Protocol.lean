import SignOnOperator.Proofs.Footprint
/-!
# Protocols

What a program may ask for in which phase, which replies it may count on, and into which phase a reply takes it.  That
a program keeps to a protocol is shown part by part (`keeps_bind_iff`), and what it does not ask about costs nothing:
a routine all of whose requests are neutral stays in its phase (`Confined.keeps`).
-/
namespace SignOnOperator

structure Protocol (I : Interface) (σ : Type) where
  allows : σ → I.Request → Prop
  expects : σ → (r : I.Request) → I.Reply r → Prop
  next : σ → (r : I.Request) → I.Reply r → σ

namespace Program

variable {I : Interface} {σ α β : Type} {P : Protocol I σ}

/-- From this phase on, the program asks only for what the protocol allows, as long as it is given what the protocol
lets it expect, and it ends in a phase and with a result as stated. -/
def Keeps (P : Protocol I σ) (post : σ → α → Prop) : Program I α → σ → Prop
  | done a, s => post s a
  | ask r next, s => P.allows s r ∧ ∀ reply, P.expects s r reply → (next reply).Keeps P post (P.next s r reply)

theorem Keeps.imp {post post' : σ → α → Prop} (h : ∀ s a, post s a → post' s a) {p : Program I α} {s : σ}
    (keeps : p.Keeps P post s) : p.Keeps P post' s := by
  induction p generalizing s with
  | done a => exact h s a keeps
  | ask r next ih => exact ⟨keeps.1, fun reply expected => ih reply (keeps.2 reply expected)⟩

theorem keeps_bind_iff {post : σ → β → Prop} {p : Program I α} {f : α → Program I β} {s : σ} :
    (p.bind f).Keeps P post s ↔ p.Keeps P (fun s a => (f a).Keeps P post s) s := by
  induction p generalizing s with
  | done a => exact Iff.rfl
  | ask r next ih => exact and_congr_right fun _ => forall₂_congr fun reply _ => ih reply

end Program

namespace Action

variable {I : Interface} {σ α β : Type} {P : Protocol I σ}

theorem keeps_bind {post : σ → Outcome β → Prop} {x : Action I α} {f : α → Action I β} {s : σ}
    {mid : σ → Outcome α → Prop} (first : Program.Keeps P mid x s)
    (value : ∀ s a, mid s (.ok a) → Program.Keeps P post (f a) s)
    (failure : ∀ s e, mid s (.error e) → post s (.error e)) (breakdown : ∀ s, mid s .panic → post s .panic) :
    Program.Keeps P post (Action.bind x f) s := by
  refine Program.keeps_bind_iff.2 (Program.Keeps.imp (fun s o ho => ?_) first)
  cases o with
  | ok a => exact value s a ho
  | error e => exact failure s e ho
  | panic => exact breakdown s ho

/-- How an action may end that keeps to a protocol: in a phase that its value determines, or, if it fails, in one of
some phases.  It does not break down. -/
def EndsIn (good : α → σ) (failed : σ → Prop) (s : σ) : Outcome α → Prop
  | .ok a => s = good a
  | .error _ => failed s
  | .panic => False

theorem keeps_bind_endsIn {mid : α → σ} {good : β → σ} {failed : σ → Prop} {x : Action I α} {f : α → Action I β}
    {s : σ} (first : Program.Keeps P (EndsIn mid failed) x s)
    (later : ∀ a, Program.Keeps P (EndsIn good failed) (f a) (mid a)) :
    Program.Keeps P (EndsIn good failed) (Action.bind x f) s :=
  keeps_bind first (fun s a (h : s = mid a) => h ▸ later a) (fun _ _ => id) (fun _ => id)

theorem keeps_mapError {post : σ → Outcome α → Prop} {x : Action I α} {f : Error → Error} {s : σ}
    (keeps : Program.Keeps P (fun s o => post s (o.mapError f)) x s) : Program.Keeps P post (x.mapError f) s :=
  mapError_eq x f ▸ Program.keeps_bind_iff.2 keeps

theorem keeps_attempt {post : σ → Outcome (Except Error α) → Prop} {x : Action I α} {s : σ}
    (keeps : Program.Keeps P (fun s o => post s o.attempt) x s) : Program.Keeps P post x.attempt s :=
  attempt_eq x ▸ Program.keeps_bind_iff.2 keeps

end Action

/-! ## Requests that do not matter -/

namespace Confined

variable {α σ : Type}

/-- What is left of a confined routine after a turn that was no breakdown is confined. -/
theorem rest {kinds : List RequestKind} {r : OperatorRequest} {next : r.Reply → Program Operator (Outcome α)}
    (h : Confined kinds (Program.ask (I := Operator) r next : Routine α)) {reply : r.Reply}
    (calm : ¬Turn.IsBreakdown ⟨r, reply⟩) : Confined kinds (next reply : Routine α) where
  asks h' r' asked := by
    obtain ⟨later, led⟩ := asked
    exact h.asks (⟨r, reply⟩ :: h') r' ⟨later, .turn led⟩
  breaks h' run := by
    obtain ⟨t, ht, broke⟩ := h.breaks (⟨r, reply⟩ :: h') (.turn run)
    rcases List.mem_cons.1 ht with rfl | ht
    · exact absurd broke calm
    · exact ⟨t, ht, broke⟩

/-- **A routine that asks for nothing that matters stays in its phase.**  It ends as it may end, and does not break down
if no call may. -/
theorem keeps {kinds : List RequestKind} {x : Routine α} (confined : Confined kinds x) {P : Protocol Operator σ} {s : σ}
    (allows : ∀ r : OperatorRequest, r.kind ∈ kinds → P.allows s r)
    (calm : ∀ (r : OperatorRequest) reply, P.expects s r reply → ¬Turn.IsBreakdown ⟨r, reply⟩)
    (stays : ∀ (r : OperatorRequest) reply, r.kind ∈ kinds → P.expects s r reply → P.next s r reply = s) :
    Program.Keeps P (fun s' o => s' = s ∧ o ≠ .panic ∧ ∃ h, Program.Runs x h o) x s := by
  induction x with
  | done o =>
    refine ⟨rfl, ?_, [], .here _⟩
    rintro rfl
    obtain ⟨t, ht, -⟩ := confined.breaks [] (.here _)
    cases ht
  | ask r next ih =>
    have known : OperatorRequest.kind r ∈ kinds := confined.asks [] r ⟨next, .here _⟩
    refine ⟨allows r known, fun reply expected => ?_⟩
    -- The turn was calm, so what is left is confined, and the phase is still the same.
    rw [stays r reply known expected]
    refine Program.Keeps.imp ?_ (ih reply (confined.rest (calm r reply expected)))
    rintro s' o ⟨same, unbroken, h, run⟩
    exact ⟨same, unbroken, ⟨r, reply⟩ :: h, .turn run⟩

end Confined
end SignOnOperator
