import SignOnOperator.Proofs.Protocol
import SignOnOperator.Proofs.System
/-!
# Conduct

A system in which every reconciliation keeps to a protocol.  How far each has come is read off what it has been given
(`Protocol.after`), so that an invariant of the system may speak of the phases of its reconciliations; a step of one
reconciliation leaves the phases of all others as they are (`Conducted.step`).
-/
namespace SignOnOperator

variable {I : Interface} {σ α β : Type} {P : Protocol I σ}

/-- The phase into which a history takes a protocol. -/
def Protocol.after (P : Protocol I σ) (s : σ) (h : History I) : σ :=
  h.foldl (fun s t => P.next s t.request t.reply) s

theorem Protocol.after_concat (P : Protocol I σ) (s : σ) (h : History I) (t : Turn I) :
    P.after s (h ++ [t]) = P.next (P.after s h) t.request t.reply := by
  unfold after
  rw [List.foldl_append]
  rfl

/-! ## Programs whose phases are known -/

namespace Program

/-- A program whose histories each have a phase keeps to a protocol if the protocol allows what the program asks for
there, and moves along with it. -/
theorem keeps_along {p : Program I α} (phase : History I → σ)
    (asks : ∀ h r, p.Asks h r → P.allows (phase h) r ∧
      ∀ reply, P.expects (phase h) r reply → P.next (phase h) r reply = phase (h ++ [⟨r, reply⟩])) :
    p.Keeps P (fun s a => ∃ h, p.Runs h a ∧ s = phase h) (phase []) := by
  induction p generalizing phase with
  | done a => exact ⟨[], .here _, rfl⟩
  | ask r next ih =>
    obtain ⟨allowed, moves⟩ := asks [] r ⟨next, .here _⟩
    refine ⟨allowed, fun reply expected => ?_⟩
    -- What is left has the same phases, reckoned from one turn later.
    have later := ih reply (fun h => phase (⟨r, reply⟩ :: h)) fun h r' asked => by
      obtain ⟨next', led⟩ := asked
      exact asks (⟨r, reply⟩ :: h) r' ⟨next', .turn led⟩
    rw [moves reply expected]
    refine later.imp ?_
    rintro _ a ⟨h, run, rfl⟩
    exact ⟨⟨r, reply⟩ :: h, .turn run, rfl⟩

/-- The program ends in the phase in which it begins. -/
abbrev Stays (P : Protocol I σ) (p : Program I α) (s : σ) : Prop := p.Keeps P (fun s' _ => s' = s) s

end Program

namespace Action

variable {s : σ}

theorem stays_bind {x : Action I α} {f : α → Action I β} (first : Program.Stays P x s)
    (later : ∀ a, Program.Stays P (f a) s) : Program.Stays P (Action.bind x f) s :=
  keeps_bind first (fun _ a (same : _ = s) => same ▸ later a) (fun _ _ => id) (fun _ => id)

theorem stays_ofExcept_bind {result : Except Error α} {f : α → Action I β}
    (later : ∀ a, result = .ok a → Program.Stays P (f a) s) :
    Program.Stays P (Action.bind (Action.ofExcept result) f) s := by
  cases result with
  | error e => exact rfl
  | ok a => exact later a rfl

theorem stays_require_bind {value : Option α} {e : Error} {f : α → Action I β}
    (later : ∀ a, Program.Stays P (f a) s) : Program.Stays P (Action.bind (Action.require value e) f) s := by
  cases value with
  | none => exact rfl
  | some a => exact later a

theorem stays_mapError {x : Action I α} {f : Error → Error} (stays : Program.Stays P x s) :
    Program.Stays P (x.mapError f) s :=
  keeps_mapError stays

theorem stays_attempt {x : Action I α} (stays : Program.Stays P x s) : Program.Stays P x.attempt s :=
  keeps_attempt stays

end Action

/-- A routine that asks for nothing that matters stays in its phase, even if calls break down, and ends as it may
end. -/
theorem Confined.stays_runs {kinds : List RequestKind} {x : Routine α} (confined : Confined kinds x)
    {P : Protocol Operator σ} {s : σ} (allows : ∀ r : OperatorRequest, r.kind ∈ kinds → P.allows s r)
    (same : ∀ (r : OperatorRequest) reply, r.kind ∈ kinds → P.next s r reply = s) :
    Program.Keeps P (fun s' o => s' = s ∧ ∃ h, Program.Runs x h o) x s := by
  refine (Program.keeps_along (fun _ => s) fun h r asked => ?_).imp fun _ _ ended => ?_
  · have known := confined.asks h r asked
    exact ⟨allows r known, fun reply _ => same r reply known⟩
  · obtain ⟨h, run, rfl⟩ := ended
    exact ⟨rfl, h, run⟩

theorem Confined.stays {kinds : List RequestKind} {x : Routine α} (confined : Confined kinds x)
    {P : Protocol Operator σ} {s : σ} (allows : ∀ r : OperatorRequest, r.kind ∈ kinds → P.allows s r)
    (same : ∀ (r : OperatorRequest) reply, r.kind ∈ kinds → P.next s r reply = s) : Program.Stays P x s :=
  (confined.stays_runs allows same).imp fun _ _ => And.left

/-! ## Systems -/

variable {E : Type} {config : Config} {surroundings : Surroundings E} {s s' : System E} {l : Label}
  {P : Sso → Protocol Operator σ} {post : σ → Outcome Followup → Prop} {s₀ : σ}

/-- The phase that a reconciliation has come to. -/
def Task.phase (P : Sso → Protocol Operator σ) (s₀ : σ) (t : Task) : σ := (P t.event).after s₀ t.history

theorem Task.phase_after {t : Task} {r : OperatorRequest} {reply : r.Reply}
    {rest : Program Operator (Outcome Followup)} :
    (t.after ⟨r, reply⟩ rest).phase P s₀ = (P t.event).next (t.phase P s₀) r reply :=
  (P t.event).after_concat s₀ t.history ⟨r, reply⟩

/-- Every reconciliation keeps to its protocol from the phase on that it has come to. -/
def Conducted (P : Sso → Protocol Operator σ) (post : σ → Outcome Followup → Prop) (s₀ : σ) (s : System E) : Prop :=
  ∀ t ∈ s.tasks, t.rest.Keeps (P t.event) post (t.phase P s₀)

namespace Conducted

theorem start (idle : s.tasks = []) : Conducted P post s₀ s := by
  intro t ht
  rw [idle] at ht
  cases ht

/-- A protocol is kept to by all if each event's reconciliation keeps to it from its beginning, and is answered as it
may expect. -/
theorem step (conducted : Conducted P post s₀ s)
    (begins : ∀ event, (Reconcile.run config event).Keeps (P event) post s₀)
    (expected : ∀ i t r reply, l = .proceeds i ⟨r, reply⟩ → s.tasks[i]? = some t →
      (P t.event).allows (t.phase P s₀) r → (P t.event).expects (t.phase P s₀) r reply)
    (step : Step config surroundings s l s') : Conducted P post s₀ s' := by
  cases step with
  | arrives event =>
    intro t ht
    rcases List.mem_append.1 ht with old | new
    · exact conducted t old
    · obtain rfl := List.mem_singleton.1 new
      exact begins event
  | drifts _ => exact conducted
  | @proceeds i t r next reply shared env ht asks answered taken =>
    intro u hu
    rcases List.mem_or_eq_of_mem_set hu with old | rfl
    · exact conducted u old
    · have keeps := conducted t (List.mem_of_getElem? ht)
      rw [asks] at keeps
      rw [Task.phase_after]
      exact keeps.2 reply (expected i t r reply rfl ht keeps.1)

/-- Whoever goes on asks for what its protocol allows. -/
theorem allows {i : Nat} {t : Task} {r : OperatorRequest} {next : r.Reply → Program Operator (Outcome Followup)}
    (conducted : Conducted P post s₀ s) (ht : s.tasks[i]? = some t) (asks : t.rest = .ask (I := Operator) r next) :
    (P t.event).allows (t.phase P s₀) r := by
  have keeps := conducted t (List.mem_of_getElem? ht)
  rw [asks] at keeps
  exact keeps.1

end Conducted
end SignOnOperator
