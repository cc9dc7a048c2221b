import SignOnOperator.Proofs.Ensemble
import SignOnOperator.Proofs.Postponement
/-!
# Independence

Reconciliations of different SSOs do not influence each other while the cookie secret is loaded.  Each of them goes
through the turns of one that runs alone from time zero, later by its start (`Strand.Mirrors`); a turn of its own keeps
that so, since what its reply depends on is the same for both (`Strand.Mirrors.proceeds`), and a turn of another leaves
it alone (`Strand.Proceeds.elsewhere`).
-/
namespace SignOnOperator

open Rehearsal (Recorded)

/-! ## The same, later -/

theorem postponed_ask {α β : Type} {shift : Nat} {post : Unit → α → β → Prop} {p : Program Operator α}
    {r : OperatorRequest} {next : r.Reply → Program Operator β}
    (coupled : Program.Coupled (postponed shift) post () p (.ask (I := Operator) r next)) :
    ∃ next', p = .ask (I := Operator) r next' ∧ ∀ reply' reply, Turn.Postponed shift ⟨r, reply'⟩ ⟨r, reply⟩ →
      Program.Coupled (postponed shift) post () (next' reply') (next reply) := by
  cases coupled with
  | ask pair later =>
    cases pair
    exact ⟨_, rfl, later⟩

namespace Turn.Postponed

variable {shift : Nat} {t t' : Turn Operator}

theorem write?_eq (later : Postponed shift t t') : t.write? = t'.write? := by
  cases later with
  | clock _ | other _ => rfl

theorem metrics_eq (later : Postponed shift t t') : t.metrics = t'.metrics := by
  cases later with
  | clock _ | other _ => rfl

end Turn.Postponed

def Rehearsal.Recorded.later (shift : Nat) (e : Recorded) : Recorded := ⟨e.time + shift, e.call⟩

theorem OperatorRequest.recorded_later {now shift : Nat} {r : OperatorRequest} :
    r.recorded (now + shift) = (r.recorded now).map (Recorded.later shift) := by
  cases r <;> rfl

namespace Supply

variable {supply supply' : Supply} {m m' n n' : Moment} {r : OperatorRequest} {reply : r.Reply} {shift : Nat}

/-- The answer depends only on what there is for this request. -/
theorem Answers.congr (answered : supply.Answers m r reply m')
    (outcome : ∀ c, r = .call c → supply.outcome m.calls c = supply'.outcome m.calls c)
    (delay : supply.delay = supply'.delay) (choices : supply.choices = supply'.choices) :
    supply'.Answers m r reply m' := by
  cases r with
  | call c => exact ⟨answered.1.trans (outcome c rfl), delay ▸ answered.2⟩
  | draw => exact ⟨choices ▸ answered.1, answered.2⟩
  | _ => exact answered

/-- What is answered later is answered alike before, if the shared state has such an answer. -/
theorem Answers.advance (answered : supply.Answers n r reply n') (now : n.now = m.now + shift)
    (calls : n.calls = m.calls) {a : Shared} (shared : m.shared.Answers r reply a) :
    ∃ reply' m', supply.Answers m r reply' m' ∧ Turn.Postponed shift ⟨r, reply'⟩ ⟨r, reply⟩ ∧
      n'.now = m'.now + shift ∧ m'.shared = a := by
  cases r with
  | call c =>
    obtain ⟨rfl, rfl⟩ := answered
    obtain rfl : a = m.shared := shared
    rw [calls]
    refine ⟨_, _, ⟨rfl, rfl⟩, .other (by rintro ⟨⟩), ?_, rfl⟩
    simp only [Moment.afterCall]
    omega
  | clock =>
    obtain ⟨rfl, rfl⟩ := answered
    obtain rfl : a = m.shared := shared
    exact ⟨m.now, m, ⟨rfl, rfl⟩, now ▸ .clock m.now, now, rfl⟩
  | draw =>
    obtain ⟨rfl, rfl⟩ := answered
    obtain rfl : a = m.shared := shared
    rw [calls]
    exact ⟨_, m, ⟨rfl, rfl⟩, .other (by rintro ⟨⟩), now, rfl⟩
  | pause d =>
    obtain rfl : n' = _ := answered
    obtain rfl : a = m.shared := shared
    refine ⟨(), _, rfl, .other (by rintro ⟨⟩), ?_, rfl⟩
    simp only [Moment.afterPause]
    omega
  | acquire _ | release _ | count _ | enterCell | fillCell _ | leaveCell =>
    obtain ⟨_, -, rfl⟩ := answered
    exact ⟨reply, _, ⟨a, shared, rfl⟩, .other (by rintro ⟨⟩), now, rfl⟩

end Supply

/-- The second reconciliation is the first one, so much later. -/
structure Strand.Mirrors (shift : Nat) (u t : Strand) : Prop where
  part : u.part = t.part
  now : t.now = u.now + shift
  log : t.log = u.log.map (Recorded.later shift)
  history : List.Forall₂ (Turn.Postponed shift) u.history t.history
  rest : Program.Coupled (postponed shift) (fun _ o o' => o = o') () u.rest t.rest

namespace Strand.Mirrors

variable {config : Config} {looks : Prop} {shift : Nat} {u t t' : Strand} {a c c' : Commons}

theorem fresh (config : Config) (part : Part) (start : Nat) :
    Mirrors start (.fresh config part 0) (.fresh config part start) where
  part := rfl
  now := (Nat.zero_add start).symm
  log := rfl
  history := .nil
  rest := Reconcile.attend_postponable part.event start

theorem record (mirrors : Mirrors shift u t) (r : OperatorRequest) :
    t.record r = (u.record r).map (Recorded.later shift) := by
  unfold Strand.record
  rw [mirrors.log, mirrors.now, OperatorRequest.recorded_later, List.map_append]

theorem calls (mirrors : Mirrors shift u t) (r : OperatorRequest) :
    (t.record r).map (·.call) = (u.record r).map (·.call) := by
  rw [mirrors.record, List.map_map]
  rfl

/-- The script has the same for both. -/
theorem answers (mirrors : Mirrors shift u t) {r : OperatorRequest} {reply : r.Reply} {m m' : Moment}
    (belongs : r.Belongs looks t.owner) (blind : ¬looks → t.part.IsBlind) (agrees : a.Agrees looks t.owner c)
    (answered : (t.supply c.store r).Answers m r reply m') : (u.supply a.store r).Answers m r reply m' := by
  unfold Strand.supply
  rw [← mirrors.calls, mirrors.part]
  refine answered.congr (fun call asked => ?_) rfl rfl
  change t.part.outcome _ (call.target?.bind c.store) call = t.part.outcome _ (call.target?.bind a.store) call
  by_cases looking : looks
  · subst asked
    obtain ⟨attention, allowed⟩ := belongs.tends looking
    cases target : call.target? with
    | none => rfl
    | some key => rw [Option.bind_some, Option.bind_some, agrees.stored looking key (allowed.target target)]
  · exact blind looking _ _ _ call

/-- **What one does in an ensemble, the other does alone.** -/
theorem proceeds (mirrors : Mirrors shift u t) (sound : t.IsSound config looks) (common : c.IsSound looks)
    (blind : ¬looks → t.part.IsBlind) (agrees : a.Agrees looks t.owner c) (proceeds : t.Proceeds c c' t') :
    ∃ a' u', u.Proceeds a a' u' ∧ Mirrors shift u' t' ∧ a'.Agrees looks t.owner c' := by
  obtain @⟨r, next, reply, m, asks, answered⟩ := proceeds
  have belongs := sound.belongs asks
  have coupled := mirrors.rest
  rw [asks] at coupled
  obtain ⟨next', asks', later⟩ := postponed_ask coupled
  -- Alone there is the same answer, of the shared state and of the script, but for the time.
  have shared : c.shared.Answers r reply m.shared := answered.shared
  obtain ⟨b, shared'⟩ := belongs.exists_answers agrees.shared common.filled shared
  have calls : t.log.length = u.log.length := mirrors.log ▸ List.length_map _
  obtain ⟨reply', m', answered', postponed, now, rfl⟩ :=
    (mirrors.answers belongs blind agrees answered).advance (m := u.moment a.shared) mirrors.now calls shared'
  refine ⟨_, _, .turn asks' answered', ⟨mirrors.part, now, mirrors.record r, ?_, later reply' reply postponed⟩, ?_, ?_⟩
  · exact List.rel_append mirrors.history (.cons postponed .nil)
  · exact belongs.agrees agrees.shared common.filled shared shared'
  · intro looking key own
    have same := SsoStore.after_congr ⟨r, reply⟩ (agrees.stored looking key own)
    unfold SsoStore.after at same ⊢
    rwa [postponed.write?_eq]

end Strand.Mirrors

/-! ## What runs keep -/

namespace Strand.Proceeds

variable {c c' : Commons} {t t' : Strand}

theorem part_eq (proceeds : t.Proceeds c c' t') : t'.part = t.part := by
  obtain ⟨-, -⟩ := proceeds
  rfl

theorem start_eq (proceeds : t.Proceeds c c' t') : t'.start = t.start := by
  obtain ⟨-, -⟩ := proceeds
  rfl

end Strand.Proceeds

/-- What holds of all holds of one and of all others. -/
theorem forall_mem_middle {α : Type} {P : α → Prop} {before after : List α} {a : α} :
    (∀ b ∈ before ++ a :: after, P b) ↔ P a ∧ ∀ b ∈ before ++ after, P b := by
  simp only [List.perm_middle.mem_iff, List.forall_mem_cons]

/-- Reconciliations of different SSOs, with scripts that are honest if the stored SSOs are looked at. -/
structure Cast (looks : Prop) (parts : List (Part × Nat)) : Prop where
  distinct : parts.Pairwise fun p q =>
    ∀ key, SsoKey.ofSso p.1.event = .ok key → SsoKey.ofSso q.1.event ≠ .ok key
  blind : ¬looks → ∀ p ∈ parts, p.1.IsBlind
  honest : looks → ∀ p ∈ parts, p.1.IsHonest

theorem Cast.single {looks : Prop} {parts : List (Part × Nat)} (cast : Cast looks parts) {part : Part}
    {start begun : Nat} (hp : (part, start) ∈ parts) : Cast looks [(part, begun)] where
  distinct := List.pairwise_singleton _ _
  blind looking := List.forall_mem_singleton.2 (cast.blind looking (part, start) hp)
  honest looking := List.forall_mem_singleton.2 (cast.honest looking (part, start) hp)

namespace Ensemble

variable {config : Config} {looks : Prop} {origin : Commons} {parts : List (Part × Nat)} {e e' : Ensemble}

theorem step_alone_iff {c : Commons} {u : Strand} :
    Step ⟨c, [u]⟩ e ↔ ∃ c' u', u.Proceeds c c' u' ∧ e = ⟨c', [u']⟩ := by
  constructor
  · intro step
    generalize he : (⟨c, [u]⟩ : Ensemble) = alone at step
    obtain @⟨c, c', before, after, t, t', proceeds⟩ := step
    obtain ⟨rfl, single⟩ := Ensemble.mk.inj he
    cases before with
    | nil =>
      obtain ⟨rfl, rfl⟩ := List.cons.inj single
      exact ⟨c', t', proceeds, rfl⟩
    | cons v before => exact absurd (List.cons.inj single).2.symm (List.append_ne_nil_of_right_ne_nil _ nofun)
  · rintro ⟨c', u', proceeds, rfl⟩
    have step : Step ⟨c, [] ++ u :: []⟩ ⟨c', [] ++ u' :: []⟩ := .proceeds proceeds
    exact step

/-- Each reconciliation of an ensemble is where one is that has been running alone. -/
structure Follows (config : Config) (looks : Prop) (origin : Commons) (parts : List (Part × Nat)) (e : Ensemble) :
    Prop where
  parts : e.strands.map (fun t => (t.part, t.start)) = parts
  common : e.commons.IsSound looks
  sound : ∀ t ∈ e.strands, t.IsSound config looks
  alone : ∀ t ∈ e.strands, ∃ a u, Run (start config origin [(t.part, 0)]) ⟨a, [u]⟩ ∧ u.Mirrors t.start t ∧
    a.Agrees looks t.owner e.commons

namespace Follows

theorem mem_parts (follows : Follows config looks origin parts e) {t : Strand} (ht : t ∈ e.strands) :
    (t.part, t.start) ∈ parts :=
  follows.parts ▸ List.mem_map_of_mem ht

theorem distinct (follows : Follows config looks origin parts e) (cast : Cast looks parts) :
    e.strands.Pairwise fun t v => ∀ key, t.owner = .ok key → v.owner ≠ .ok key :=
  List.pairwise_map.1 (follows.parts ▸ cast.distinct)

theorem start {commons : Commons} (common : commons.IsSound looks)
    (agrees : ∀ owner, origin.Agrees looks owner commons) :
    Follows config looks origin parts (start config commons parts) where
  parts := by
    rw [Ensemble.start, List.map_map]
    exact List.map_id parts
  common := common
  sound t ht := by
    obtain ⟨p, -, rfl⟩ := List.mem_map.1 ht
    exact Strand.isSound_fresh config looks p.1 p.2
  alone t ht := by
    obtain ⟨p, -, rfl⟩ := List.mem_map.1 ht
    exact ⟨origin, _, .refl, .fresh config p.1 p.2, agrees _⟩

theorem step (follows : Follows config looks origin parts e) (cast : Cast looks parts) (step : Step e e') :
    Follows config looks origin parts e' := by
  obtain @⟨c, c', before, after, t, t', proceeds⟩ := step
  have ht : t ∈ before ++ t :: after := List.mem_append_right _ List.mem_cons_self
  have sound := follows.sound t ht
  obtain ⟨common', sound'⟩ := proceeds.isSound (fun looking => cast.honest looking _ (follows.mem_parts ht))
    follows.common sound
  -- All others are about other SSOs, so that this turn leaves alone what belongs to them.
  have distinct := follows.distinct cast
  rw [List.pairwise_middle fun {t v} apart key own own' => apart key own' own, List.pairwise_cons] at distinct
  have others : ∀ v ∈ before ++ after, ∀ key, v.owner = .ok key → t.owner ≠ .ok key :=
    fun v hv key own own' => distinct.1 v hv key own' own
  refine ⟨?_, common', ?_, ?_⟩
  · rw [← follows.parts, List.map_append, List.map_append, List.map_cons, List.map_cons, proceeds.part_eq,
      proceeds.start_eq]
  · exact forall_mem_middle.2 ⟨sound', (forall_mem_middle.1 follows.sound).2⟩
  · refine forall_mem_middle.2 ⟨?_, fun v hv => ?_⟩
    · obtain ⟨a, u, run, mirrors, agrees⟩ := follows.alone t ht
      obtain ⟨a', u', proceeds', mirrors', agrees'⟩ := mirrors.proceeds sound follows.common
        (fun looking => cast.blind looking _ (follows.mem_parts ht)) agrees proceeds
      unfold Strand.owner
      rw [proceeds.part_eq, proceeds.start_eq]
      exact ⟨a', u', run.tail (step_alone_iff.2 ⟨a', u', proceeds', rfl⟩), mirrors', agrees'⟩
    · obtain ⟨a, u, run, mirrors, agrees⟩ := (forall_mem_middle.1 follows.alone).2 v hv
      exact ⟨a, u, run, mirrors, agrees.trans (proceeds.elsewhere follows.common sound (others v hv))⟩

theorem run (follows : Follows config looks origin parts e) (cast : Cast looks parts) (run : Run e e') :
    Follows config looks origin parts e' := by
  induction run with
  | refl => exact follows
  | tail _ step ih => exact ih.step cast step

end Follows

/-! ### To the end -/

/-- A reconciliation comes to its end with nothing else happening. -/
theorem exists_ended {c : Commons} {t : Strand} (before after : List Strand) (common : c.IsSound looks)
    (sound : t.IsSound config looks) (honest : looks → t.part.IsHonest) :
    ∃ c' t', Run ⟨c, before ++ t :: after⟩ ⟨c', before ++ t' :: after⟩ ∧ (∃ o, t'.rest = .done o) ∧
      c'.IsSound looks := by
  generalize hp : t.rest = p
  induction p generalizing c t with
  | done o => exact ⟨c, t, .refl, ⟨o, hp⟩, common⟩
  | ask r next ih =>
    obtain ⟨reply, c', t', proceeds, rest⟩ := Strand.exists_proceeds common hp
    obtain ⟨common', sound'⟩ := proceeds.isSound honest common sound
    obtain ⟨c'', t'', run, ended⟩ := ih reply common' sound' (proceeds.part_eq ▸ honest) rest
    exact ⟨c'', t'', run.head (.proceeds proceeds), ended⟩

/-- All of them come to their end, for instance one after the other. -/
theorem exists_over {c : Commons} {before after : List Strand} (common : c.IsSound looks)
    (finished : ∀ t ∈ before, ∃ o, t.rest = .done o)
    (sound : ∀ t ∈ after, t.IsSound config looks ∧ (looks → t.part.IsHonest)) :
    ∃ ended, Run ⟨c, before ++ after⟩ ended ∧ ended.IsOver := by
  -- Those before have ended already; the next one of the others joins them.
  induction after generalizing c before with
  | nil => exact ⟨_, .refl, by rwa [List.append_nil]⟩
  | cons t after ih =>
    obtain ⟨this, later⟩ := List.forall_mem_cons.1 sound
    obtain ⟨c', t', run, done, common'⟩ := exists_ended before after common this.1 this.2
    have earlier : ∀ t ∈ before ++ [t'], ∃ o, t.rest = .done o :=
      List.forall_mem_append.2 ⟨finished, List.forall_mem_singleton.2 done⟩
    obtain ⟨ended, run', finished'⟩ := ih common' earlier later
    rw [List.append_assoc] at run'
    exact ⟨ended, run.trans run', finished'⟩

theorem Follows.exists_over (follows : Follows config looks origin parts e) (cast : Cast looks parts) :
    ∃ ended, Run e ended ∧ ended.IsOver := by
  have none : ∀ t ∈ ([] : List Strand), ∃ o, t.rest = .done o := List.forall_mem_nil _
  exact Ensemble.exists_over follows.common none fun t ht =>
    ⟨follows.sound t ht, fun looking => cast.honest looking _ (follows.mem_parts ht)⟩

/-! ### Alone -/

theorem IsOver.not_step (finished : e.IsOver) : ¬Step e e' := by
  rintro @⟨c, c', before, after, t, t', proceeds⟩
  obtain ⟨asks, -⟩ := proceeds
  obtain ⟨o, done⟩ := finished t (List.mem_append_right _ List.mem_cons_self)
  cases asks.symm.trans done

/-- What runs alone can end in one way only. -/
theorem Run.alone_unique {c : Commons} {u : Strand} (run : Run ⟨c, [u]⟩ e) (finished : e.IsOver)
    (run' : Run ⟨c, [u]⟩ e') (finished' : e'.IsOver) : e = e' := by
  generalize he : (⟨c, [u]⟩ : Ensemble) = alone at run run'
  induction run using Relation.ReflTransGen.head_induction_on generalizing c u with
  | refl =>
    rcases Relation.ReflTransGen.cases_head run' with same | ⟨_, step, -⟩
    · exact same
    · exact absurd step finished.not_step
  | head step _ ih =>
    subst he
    rcases Relation.ReflTransGen.cases_head run' with rfl | ⟨m, step', later⟩
    · exact absurd step finished'.not_step
    · obtain ⟨c₁, u₁, proceeds, rfl⟩ := step_alone_iff.1 step
      obtain ⟨c₂, u₂, proceeds', rfl⟩ := step_alone_iff.1 step'
      obtain ⟨rfl, rfl⟩ := proceeds.unique proceeds'
      exact ih rfl later

end Ensemble

/-! ## Independence -/

/-- With the counters at zero. -/
def Commons.recounted (c : Commons) : Commons := { c with shared := { c.shared with metrics := 0 } }

namespace Strand

/-- The calls with their times since the start. -/
def course (t : Strand) : List Recorded := t.log.map fun e => ⟨e.time - t.start, e.call⟩

/-- What was written to SSOs. -/
def writes (t : Strand) : List SsoWrite := t.history.filterMap Turn.write?

/-- What was counted. -/
def metrics (t : Strand) : Metrics := (t.history.map Turn.metrics).sum

/-- Both were given the same, made the same calls at the same times since their starts, wrote the same to SSOs, took as
long, and have the same left to do, which is their result if they have ended. -/
structure SameAs (t v : Strand) : Prop where
  part : t.part = v.part
  course : t.course = v.course
  writes : t.writes = v.writes
  elapsed : t.now - t.start = v.now - v.start
  rest : t.rest = v.rest

namespace Mirrors

variable {shift : Nat} {u t : Strand}

theorem course_eq (mirrors : u.Mirrors t.start t) : t.course = u.log := by
  unfold course
  rw [mirrors.log, List.map_map]
  refine (List.map_congr_left fun e _ => ?_).trans (List.map_id _)
  simp [Rehearsal.Recorded.later]

theorem writes_eq (mirrors : u.Mirrors shift t) : t.writes = u.writes := by
  have history := mirrors.history
  unfold writes
  generalize u.history = h, t.history = h' at history ⊢
  induction history with
  | nil => rfl
  | cons later _ ih => rw [List.filterMap_cons, List.filterMap_cons, later.write?_eq, ih]

theorem metrics_eq (mirrors : u.Mirrors shift t) : t.metrics = u.metrics := by
  have history := mirrors.history
  unfold metrics
  generalize u.history = h, t.history = h' at history ⊢
  induction history with
  | nil => rfl
  | cons later _ ih => rw [List.map_cons, List.map_cons, List.sum_cons, List.sum_cons, later.metrics_eq, ih]

theorem rest_eq (mirrors : u.Mirrors shift t) {o : Outcome Followup} (ended : t.rest = .done o) : u.rest = .done o := by
  have rest := mirrors.rest
  rw [ended] at rest
  generalize u.rest = p at rest ⊢
  cases rest with
  | done same => exact congrArg _ same

end Mirrors
end Strand

namespace Ensemble

variable {config : Config} {looks : Prop} {commons : Commons} {parts : List (Part × Nat)} {e alone : Ensemble}

/-- The counters are what all have counted together. -/
theorem Run.metrics_eq (run : Run (start config commons parts) e) :
    e.commons.shared.metrics = commons.shared.metrics + (e.strands.map Strand.metrics).sum := by
  induction run with
  | refl =>
    have none : ∀ m ∈ (start config commons parts).strands.map Strand.metrics, m = 0 := by
      unfold start
      rw [List.map_map]
      exact fun m hm => by obtain ⟨p, -, rfl⟩ := List.mem_map.1 hm; rfl
    rw [List.sum_eq_zero none, add_zero]
    rfl
  | tail _ step ih =>
    obtain @⟨c, c', before, after, t, t', proceeds⟩ := step
    obtain ⟨turn, history, counted⟩ := proceeds.metrics
    have own : t'.metrics = t.metrics + turn.metrics := by
      unfold Strand.metrics
      rw [history, List.map_append, List.sum_append, List.map_singleton, List.sum_singleton]
    dsimp only at ih ⊢
    rw [counted, ih]
    simp only [List.map_append, List.map_cons, List.sum_append, List.sum_cons, own]
    ac_rfl

/-- What a reconciliation that ran alone, from some time on, has come to. -/
def CameAlone (config : Config) (commons : Commons) (part : Part) (alone : Ensemble) : Prop :=
  ∃ begun, Run (start config commons.recounted [(part, begun)]) alone ∧ alone.IsOver

/-- In an ensemble that has ended each reconciliation has done the same as alone. -/
theorem Follows.sameAs_alone (follows : Follows config looks commons.recounted parts e) (cast : Cast looks parts)
    (common : commons.recounted.IsSound looks) (finished : e.IsOver) {t : Strand} (ht : t ∈ e.strands)
    (came : CameAlone config commons t.part alone) :
    ∃ v, alone.strands = [v] ∧ t.SameAs v ∧ alone.commons.shared.metrics = t.metrics ∧
      (looks → ∀ key, t.owner = .ok key → e.commons.store key = alone.commons.store key) := by
  obtain ⟨begun, run, finished'⟩ := came
  have cast' : Cast looks [(t.part, begun)] := cast.single (follows.mem_parts ht)
  have begins : Follows config looks commons.recounted [(t.part, begun)]
      (Ensemble.start config commons.recounted [(t.part, begun)]) := .start common fun _ => .refl
  have follows' := begins.run cast' run
  obtain ⟨v, single, same⟩ := List.map_eq_singleton_iff.1 follows'.parts
  obtain ⟨part, -⟩ := Prod.mk.inj same
  have hv : v ∈ alone.strands := single ▸ List.mem_singleton_self v
  -- Both are where the same reconciliation comes to that runs alone from time zero.
  obtain ⟨a, u, run₁, mirrors, agrees⟩ := follows.alone t ht
  obtain ⟨a', u', run₂, mirrors', agrees'⟩ := follows'.alone v hv
  obtain ⟨o, ended⟩ := finished t ht
  obtain ⟨o', ended'⟩ := finished' v hv
  rw [part] at run₂
  have same := run₁.alone_unique (List.forall_mem_singleton.2 ⟨o, mirrors.rest_eq ended⟩) run₂
    (List.forall_mem_singleton.2 ⟨o', mirrors'.rest_eq ended'⟩)
  obtain ⟨rfl, strands⟩ := Ensemble.mk.inj same
  obtain rfl := List.singleton_inj.1 strands
  have counted := run.metrics_eq
  rw [single, List.map_singleton, List.sum_singleton, mirrors'.metrics_eq, ← mirrors.metrics_eq] at counted
  refine ⟨v, single, ⟨part.symm, ?_, ?_, ?_, ?_⟩, counted.trans (zero_add _), fun looking key own => ?_⟩
  · rw [mirrors.course_eq, mirrors'.course_eq]
  · rw [mirrors.writes_eq, mirrors'.writes_eq]
  · rw [mirrors.now, mirrors'.now, Nat.add_sub_cancel, Nat.add_sub_cancel]
  · cases (mirrors.rest_eq ended).symm.trans (mirrors'.rest_eq ended')
    rw [ended, ended']
  · have own' : v.owner = .ok key := by rwa [Strand.owner, part]
    exact (agrees.stored looking key own).symm.trans (agrees'.stored looking key own')

/-- The SSOs are stored where they belong, and what is read of them is what was asked for. -/
def Trusted (commons : Commons) (parts : List (Part × Nat)) : Prop :=
  commons.store.Consistent ∧ ∀ p ∈ parts, p.1.IsHonest

/-- **Reconciliations of different SSOs do not influence each other.**  Let any number of them begin at any times, while
the cookie secret is loaded, each with its own script; if the replies do not come from the scripts alone, what is read
of the stored SSOs is what was asked for.  Then, in whatever order they take their turns, all come to their ends, and
so does each of them alone, begun at any time.  Each makes the same calls at the same times since its start as alone,
writes the same to SSOs, and comes to the same result; and together they count what they count alone.  What is stored
of its SSO in the end is as if it had run alone. -/
theorem reconciliations_independent (config : Config) (commons : Commons) (parts : List (Part × Nat)) {value : String}
    (loaded : commons.shared.cell = .filled value)
    (distinct : parts.Pairwise fun p q =>
      ∀ key, SsoKey.ofSso p.1.event = .ok key → SsoKey.ofSso q.1.event ≠ .ok key)
    (scripted : (∀ p ∈ parts, p.1.IsBlind) ∨ Trusted commons parts) :
    (∀ e, Run (start config commons parts) e → ∃ ended, Run e ended ∧ ended.IsOver) ∧
      (∀ p ∈ parts, ∀ begun, ∃ alone, Run (start config commons.recounted [(p.1, begun)]) alone ∧ alone.IsOver) ∧
      ∀ ended alones, Run (start config commons parts) ended → ended.IsOver →
        List.Forall₂ (fun p alone => CameAlone config commons p.1 alone) parts alones →
        List.Forall₂ (fun t alone => ∃ v, alone.strands = [v] ∧ t.SameAs v ∧
            (Trusted commons parts → ∀ key, t.owner = .ok key → ended.commons.store key = alone.commons.store key))
          ended.strands alones ∧
        ended.commons.shared.metrics = commons.shared.metrics + (alones.map (·.commons.shared.metrics)).sum := by
  -- The stored SSOs may be looked at if they can be trusted.
  have cast : Cast (Trusted commons parts) parts :=
    ⟨distinct, fun not => scripted.resolve_right not, fun trusted => trusted.2⟩
  have common : commons.IsSound (Trusted commons parts) := ⟨⟨value, loaded⟩, And.left⟩
  have common' : commons.recounted.IsSound (Trusted commons parts) := ⟨⟨value, loaded⟩, And.left⟩
  have agrees : ∀ owner, commons.recounted.Agrees (Trusted commons parts) owner commons :=
    fun _ => ⟨⟨rfl, fun _ _ => Iff.rfl⟩, fun _ _ _ => rfl⟩
  have follows : ∀ {e}, Run (start config commons parts) e →
      Follows config (Trusted commons parts) commons.recounted parts e := (Follows.start common agrees).run cast
  refine ⟨fun e run => (follows run).exists_over cast, fun p hp begun => ?_, fun ended alones run finished came => ?_⟩
  · exact (Follows.start common' fun _ => .refl).exists_over (cast.single hp)
  · rw [← (follows run).parts, List.forall₂_map_left_iff, List.forall₂_iff_zip] at came
    have alike := fun t alone (paired : (t, alone) ∈ ended.strands.zip alones) =>
      (follows run).sameAs_alone cast common' finished (List.of_mem_zip paired).1 (came.2 paired)
    have counted : alones.map (·.commons.shared.metrics) = ended.strands.map Strand.metrics := by
      rw [← List.forall₂_eq_eq_eq, List.forall₂_map_left_iff, List.forall₂_map_right_iff]
      refine (List.forall₂_iff_zip.2 ⟨came.1, fun paired => ?_⟩).flip
      obtain ⟨-, -, -, counted, -⟩ := alike _ _ paired
      exact counted
    refine ⟨List.forall₂_iff_zip.2 ⟨came.1, fun paired => ?_⟩, counted ▸ run.metrics_eq⟩
    obtain ⟨v, single, same, -, stored⟩ := alike _ _ paired
    exact ⟨v, single, same, stored⟩

/-! ### Two SSOs -/

def sampleWeb : Sso := { Provision.sample with metadata := { name := some "web", namespaceName := some "jx" } }

def webKey : SsoKey := ⟨"jx", "web"⟩

/-- What is stored is read, the finalizers can be written, and all else is refused for now.  Each call takes a
second. -/
def refusing (event : Sso) : Part where
  event
  outcome _ stored
    | .getSso _ _ => .ok stored
    | .patchSsoFinalizers _ _ _ => .ok ()
    | _ => .error (.cluster (.refused ⟨"Failure", "later", "TooManyRequests", 429⟩))
  delay _ := 1000000000
  choices _ _ := ⟨0, alphabetSize_pos⟩

theorem refusing_isHonest (event : Sso) : (refusing event).IsHonest := fun _ _ _ _ _ own read =>
  own _ (Outcome.ok.inj read)

/-- The second begins while the first one waits for the reply to its first call. -/
def samplePair : List (Part × Nat) := [(refusing Provision.sample, 0), (refusing sampleWeb, 500000000)]

def sampleCommons : Commons where
  shared := { cell := .filled "secret" }
  store := SsoStore.put (SsoStore.put (fun _ => none) sampleKey Provision.sample) webKey sampleWeb

theorem pair_independent :
    ∃ begun ended alones, Run (start Provision.sampleConfig sampleCommons samplePair) begun ∧
      begun.commons.shared.inFlight.keys = [webKey, sampleKey] ∧ Run begun ended ∧ ended.IsOver ∧
      List.Forall₂ (fun p alone => CameAlone Provision.sampleConfig sampleCommons p.1 alone) samplePair alones ∧
      List.Forall₂ (fun t alone => ∃ v, alone.strands = [v] ∧ t.SameAs v) ended.strands alones ∧
      ended.commons.shared.metrics = 0 + (alones.map (·.commons.shared.metrics)).sum := by
  have distinct : samplePair.Pairwise fun p q =>
      ∀ key, SsoKey.ofSso p.1.event = .ok key → SsoKey.ofSso q.1.event ≠ .ok key := by
    refine List.pairwise_pair.2 fun key app web => ?_
    have same : (.ok sampleKey : Except Error SsoKey) = .ok webKey := app.trans web.symm
    exact absurd (Except.ok.inj same) (by decide)
  have trusted : Trusted sampleCommons samplePair := by
    have nothing : SsoStore.Consistent fun _ => none := fun _ _ stored => by cases stored
    refine ⟨(nothing.put rfl).put rfl, ?_⟩
    exact List.forall_mem_cons.2 ⟨refusing_isHonest _, List.forall_mem_singleton.2 (refusing_isHonest _)⟩
  obtain ⟨completes, alone, alike⟩ :=
    reconciliations_independent Provision.sampleConfig sampleCommons samplePair rfl distinct (.inr trusted)
  -- Both are counted and take their keys, turn about.
  obtain ⟨begun, begins, keys⟩ : ∃ begun, Run (start Provision.sampleConfig sampleCommons samplePair) begun ∧
      begun.commons.shared.inFlight.keys = [webKey, sampleKey] :=
    ⟨_, .tail (.tail (.tail (.tail .refl
      (@Step.proceeds _ _ [] _ _ _ (@Strand.Proceeds.turn _ _ (.count .reconciled) _ () _ rfl ⟨_, rfl, rfl⟩)))
      (@Step.proceeds _ _ [_] [] _ _ (@Strand.Proceeds.turn _ _ (.count .reconciled) _ () _ rfl ⟨_, rfl, rfl⟩)))
      (@Step.proceeds _ _ [] _ _ _ (.turn rfl ⟨_, ⟨rfl, rfl⟩, rfl⟩)))
      (@Step.proceeds _ _ [_] [] _ _ (.turn rfl ⟨_, ⟨rfl, rfl⟩, rfl⟩)), rfl⟩
  obtain ⟨ended, ends, finished⟩ := completes begun begins
  obtain ⟨app, ranApp, overApp⟩ := alone _ List.mem_cons_self 0
  obtain ⟨web, ranWeb, overWeb⟩ := alone _ (List.mem_cons_of_mem _ List.mem_cons_self) 0
  have came : List.Forall₂ (fun p alone => CameAlone Provision.sampleConfig sampleCommons p.1 alone) samplePair
      [app, web] := .cons ⟨0, ranApp, overApp⟩ (.cons ⟨0, ranWeb, overWeb⟩ .nil)
  obtain ⟨same, counted⟩ := alike ended [app, web] (begins.trans ends) finished came
  refine ⟨begun, ended, [app, web], begins, keys, ends, finished, came, same.imp ?_, counted⟩
  rintro t alone ⟨v, single, same, -⟩
  exact ⟨v, single, same⟩

end Ensemble
end SignOnOperator
