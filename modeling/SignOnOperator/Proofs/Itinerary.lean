import Mathlib
import SignOnOperator.Proofs.Footprint
/-!
# Itineraries

In which order a routine makes its calls, and where it has stopped when it fails.  An itinerary is a list of legs.  A
leg says which calls, answered how, go through it, and which of them end there with a certain error; both are languages
over answered calls.  That a routine follows an itinerary is shown part by part: `Follows.bind` puts itineraries one
after the other, and `Waiting.waitUntil_follows` is the induction on the rounds of a wait.
-/
namespace SignOnOperator

open Computability

/-! ## Answered calls -/

/-- A call and how it ended. -/
abbrev Answered : Type := (c : Call) × Outcome c.Result

def Turn.answered? : Turn Operator → Option Answered
  | ⟨.call c, outcome⟩ => some ⟨c, outcome⟩
  | _ => none

namespace History

/-- The calls of a history, in order. -/
def answered (h : History Operator) : List Answered := h.filterMap Turn.answered?

theorem answered_append (h h' : History Operator) : answered (h ++ h') = answered h ++ answered h' :=
  List.filterMap_append

end History

/-- The calls without their answers. -/
def callsOf (w : List Answered) : List Call := w.map (·.1)

theorem callsOf_append (w w' : List Answered) : callsOf (w ++ w') = callsOf w ++ callsOf w' := List.map_append

/-- A call that works. -/
def granted (c : Call) : Language Answered := {w | ∃ found, w = [⟨c, .ok found⟩]}

/-- A call that works and brings something of which this is said. -/
def brought (c : Call) (said : c.Result → Prop) : Language Answered := {w | ∃ found, said found ∧ w = [⟨c, .ok found⟩]}

def refused (c : Call) (e : Error) : Language Answered := {w | w = [⟨c, .error e⟩]}

/-- A call that works or fails. -/
def asked (c : Call) : Language Answered := granted c + ⨆ e, refused c e

/-- No call, under a condition. -/
def only (condition : Prop) : Language Answered := {w | condition ∧ w = []}

theorem granted_mem (c : Call) (found : c.Result) : [⟨c, .ok found⟩] ∈ granted c := ⟨found, rfl⟩

theorem brought_mem {c : Call} {said : c.Result → Prop} {found : c.Result} (h : said found) :
    [⟨c, .ok found⟩] ∈ brought c said :=
  ⟨found, h, rfl⟩

theorem refused_mem (c : Call) (e : Error) : [⟨c, .error e⟩] ∈ refused c e := rfl

theorem granted_le_asked (c : Call) : granted c ≤ asked c := le_sup_left

theorem refused_le_asked (c : Call) (e : Error) : refused c e ≤ asked c :=
  le_trans (le_iSup (refused c) e) le_sup_right

theorem brought_le_asked (c : Call) (said : c.Result → Prop) : brought c said ≤ asked c := by
  rintro w ⟨found, -, rfl⟩
  exact granted_le_asked c (granted_mem c found)

theorem mul_only_le (l : Language Answered) (condition : Prop) : l * only condition ≤ l := by
  rintro w ⟨w', hw', _, ⟨-, rfl⟩, rfl⟩
  simpa using hw'

theorem mem_mul_only {l : Language Answered} {w : List Answered} {condition : Prop} (hw : w ∈ l) (h : condition) :
    w ∈ l * only condition :=
  Language.mem_mul.2 ⟨w, hw, [], ⟨h, rfl⟩, List.append_nil w⟩

theorem mem_only_mul {l : Language Answered} {w : List Answered} {condition : Prop} (h : condition) (hw : w ∈ l) :
    w ∈ only condition * l :=
  Language.mem_mul.2 ⟨[], ⟨h, rfl⟩, w, hw, rfl⟩

/-! ## Beginnings

A routine that fails has come some way along its calls.  It may have turned aside then, for one last call. -/

/-- The only way to turn aside: a job that was there already when it was to be created is deleted. -/
inductive Detour : Call → Call → Prop where
  | deleteJob (job : Kubernetes.Job) (namespaceName name : String) :
      Detour (.createJob job) (.deleteJob namespaceName name)

/-- The calls begin as some of the language do, up to one last call aside. -/
def ComesAlong (l : Language Call) (calls : List Call) : Prop :=
  ∃ full ∈ l, ∃ way aside, calls = way ++ aside ∧ way <+: full ∧
    (aside = [] ∨ ∃ c last, way.getLast? = some c ∧ Detour c last ∧ aside = [last])

namespace ComesAlong

variable {l l' : Language Call} {calls calls' : List Call}

theorem of_isPrefix (hl : calls' ∈ l) (h : calls <+: calls') : ComesAlong l calls :=
  ⟨calls', hl, calls, [], (List.append_nil calls).symm, h, .inl rfl⟩

theorem of_mem (hl : calls ∈ l) : ComesAlong l calls := of_isPrefix hl List.prefix_rfl

theorem mono (h : ComesAlong l calls) (hl : l ≤ l') : ComesAlong l' calls := by
  obtain ⟨full, hf, rest⟩ := h
  exact ⟨full, hl hf, rest⟩

theorem mul_right (h : ComesAlong l calls) (hl : calls' ∈ l') : ComesAlong (l * l') calls := by
  obtain ⟨full, hf, way, aside, hc, hp, ha⟩ := h
  exact ⟨full ++ calls', Language.append_mem_mul hf hl, way, aside, hc, hp.trans (List.prefix_append _ _), ha⟩

theorem mul_left (hl : calls' ∈ l) (h : ComesAlong l' calls) : ComesAlong (l * l') (calls' ++ calls) := by
  obtain ⟨full, hf, way, aside, rfl, hp, ha⟩ := h
  refine ⟨calls' ++ full, Language.append_mem_mul hl hf, calls' ++ way, aside, (List.append_assoc ..).symm,
    (List.prefix_append_right_inj _).2 hp, ?_⟩
  rcases ha with ha | ⟨c, last, hc, turned, ha⟩
  · exact .inl ha
  · refine .inr ⟨c, last, ?_, turned, ha⟩
    rw [List.getLast?_append, hc]
    rfl

end ComesAlong

/-! ## Legs -/

/-- A part of an itinerary: the calls that belong to it, those that go through it with their answers, and those that
end there with an error. -/
structure Leg where
  calls : Language Call
  whole : Language Answered
  part : Error → Language Answered
  exists_calls : ∃ w, w ∈ calls
  whole_calls : ∀ w ∈ whole, callsOf w ∈ calls
  part_calls : ∀ e, ∀ w ∈ part e, ComesAlong calls (callsOf w)

namespace Leg

/-- One call, and a judgement of what it brings. -/
def check {α : Type} (c : Call) (judge : c.Result → Except Error α) : Leg where
  calls := {[c]}
  whole := brought c fun found => ∃ a, judge found = .ok a
  part e := refused c e + brought c fun found => judge found = .error e
  exists_calls := ⟨[c], rfl⟩
  whole_calls := by
    rintro w ⟨found, -, rfl⟩
    rfl
  part_calls := by
    rintro e w (rfl | ⟨found, -, rfl⟩)
    · exact .of_mem rfl
    · exact .of_mem rfl

/-- One call. -/
def call (c : Call) : Leg where
  calls := {[c]}
  whole := granted c
  part := refused c
  exists_calls := ⟨[c], rfl⟩
  whole_calls := by
    rintro w ⟨found, rfl⟩
    rfl
  part_calls := by
    rintro e w rfl
    exact .of_mem rfl

theorem callsOf_of_asked {c : Call} {w : List Answered} (hw : w ∈ asked c) : callsOf w = [c] := by
  rcases hw with ⟨found, rfl⟩ | failed
  · rfl
  · obtain ⟨e, rfl⟩ := Language.mem_iSup.1 failed
    rfl

theorem callsOf_mem_kstar {c : Call} {w : List Answered} (hw : w ∈ (asked c)∗) :
    callsOf w ∈ ({[c]} : Language Call)∗ := by
  obtain ⟨words, rfl, each⟩ := hw
  refine ⟨words.map callsOf, List.map_flatten, fun y hy => ?_⟩
  obtain ⟨word, hword, rfl⟩ := List.mem_map.1 hy
  exact callsOf_of_asked (each word hword)

/-- The same call again and again.  It ends well with one that works; it ends badly with one that fails, or with what
one brings, or because time is up. -/
def poll (c : Call) (fault : c.Result → Error → Prop) (timeout : Error) : Leg where
  calls := ({[c]} : Language Call)∗ * {[c]}
  whole := (asked c)∗ * granted c
  part e := (asked c)∗ * (refused c e + brought c (fault · e) + asked c * only (e = timeout))
  exists_calls := ⟨[] ++ [c], Language.append_mem_mul (Language.nil_mem_kstar _) rfl⟩
  whole_calls := by
    rintro w ⟨early, he, last, hl, rfl⟩
    have single := callsOf_of_asked (granted_le_asked c hl)
    exact (callsOf_append early last).symm ▸ Language.append_mem_mul (callsOf_mem_kstar he) single
  part_calls := by
    rintro e w ⟨early, he, last, hl, rfl⟩
    have ends : refused c e + brought c (fault · e) + asked c * only (e = timeout) ≤ asked c := by
      rw [add_le_iff, add_le_iff]
      exact ⟨⟨refused_le_asked c e, brought_le_asked c _⟩, mul_only_le _ _⟩
    have single := callsOf_of_asked (ends hl)
    exact (callsOf_append early last).symm ▸ .of_mem (Language.append_mem_mul (callsOf_mem_kstar he) single)

/-- One of several legs. -/
def any {ι : Type} [Nonempty ι] (legs : ι → Leg) : Leg where
  calls := ⨆ i, (legs i).calls
  whole := ⨆ i, (legs i).whole
  part e := ⨆ i, (legs i).part e
  exists_calls := by
    obtain ⟨w, hw⟩ := (legs (Classical.arbitrary ι)).exists_calls
    exact ⟨w, Language.mem_iSup.2 ⟨_, hw⟩⟩
  whole_calls w hw := by
    obtain ⟨i, hi⟩ := Language.mem_iSup.1 hw
    exact Language.mem_iSup.2 ⟨i, (legs i).whole_calls w hi⟩
  part_calls e w hw := by
    obtain ⟨i, hi⟩ := Language.mem_iSup.1 hw
    exact ((legs i).part_calls e w hi).mono (le_iSup (fun i => (legs i).calls) i)

end Leg

/-- The calls of all legs. -/
def route : List Leg → Language Call
  | [] => 1
  | leg :: legs => leg.calls * route legs

/-- The calls that go through all legs. -/
def completed : List Leg → Language Answered
  | [] => 1
  | leg :: legs => leg.whole * completed legs

/-- The calls that end with an error in one of the legs, after going through those before it. -/
def stopped (e : Error) : List Leg → Language Answered
  | [] => 0
  | leg :: legs => leg.part e + leg.whole * stopped e legs

theorem completed_append (legs legs' : List Leg) : completed (legs ++ legs') = completed legs * completed legs' := by
  induction legs with
  | nil => exact (one_mul _).symm
  | cons leg legs ih => rw [List.cons_append, completed, completed, ih, mul_assoc]

theorem stopped_append (e : Error) (legs legs' : List Leg) :
    stopped e (legs ++ legs') = stopped e legs + completed legs * stopped e legs' := by
  induction legs with
  | nil => rw [List.nil_append, stopped, completed, one_mul, zero_add]
  | cons leg legs ih => rw [List.cons_append, stopped, stopped, completed, ih, mul_add, mul_assoc, add_assoc]

theorem completed_singleton (leg : Leg) : completed [leg] = leg.whole := mul_one _

theorem stopped_singleton (e : Error) (leg : Leg) : stopped e [leg] = leg.part e := by
  rw [stopped, stopped, mul_zero, add_zero]

theorem exists_mem_route (legs : List Leg) : ∃ calls, calls ∈ route legs := by
  induction legs with
  | nil => exact ⟨[], Language.nil_mem_one⟩
  | cons leg legs ih =>
    obtain ⟨calls, here⟩ := leg.exists_calls
    obtain ⟨calls', rest⟩ := ih
    exact ⟨calls ++ calls', Language.append_mem_mul here rest⟩

theorem route_of_completed {legs : List Leg} {w : List Answered} (hw : w ∈ completed legs) :
    callsOf w ∈ route legs := by
  induction legs generalizing w with
  | nil =>
    obtain rfl := (Language.mem_one w).1 hw
    exact Language.nil_mem_one
  | cons leg legs ih =>
    obtain ⟨w₁, hw₁, w₂, hw₂, rfl⟩ := hw
    exact (callsOf_append w₁ w₂).symm ▸ Language.append_mem_mul (leg.whole_calls w₁ hw₁) (ih hw₂)

/-- **Calls that stopped in an itinerary come along its route.** -/
theorem comesAlong_of_stopped {legs : List Leg} {e : Error} {w : List Answered} (hw : w ∈ stopped e legs) :
    ComesAlong (route legs) (callsOf w) := by
  induction legs generalizing w with
  | nil => exact absurd hw (Language.notMem_zero w)
  | cons leg legs ih =>
    rcases hw with ended | ⟨w₁, hw₁, w₂, hw₂, rfl⟩
    · obtain ⟨calls, rest⟩ := exists_mem_route legs
      exact (leg.part_calls e w ended).mul_right rest
    · exact (callsOf_append w₁ w₂).symm ▸ (ih hw₂).mul_left (leg.whole_calls w₁ hw₁)

/-! ## Routines that follow an itinerary -/

/-- A routine that succeeds has gone through all legs, and one that fails has stopped in one of them. -/
structure Follows {α : Type} (legs : List Leg) (x : Routine α) : Prop where
  completes : ∀ h a, Program.Runs x h (.ok a) → h.answered ∈ completed legs
  stops : ∀ h e, Program.Runs x h (.error e) → h.answered ∈ stopped e legs

namespace Follows

variable {α β : Type} {legs legs' : List Leg}

theorem pure (a : α) : Follows [] (Pure.pure a : Routine α) where
  completes h b run := by
    obtain ⟨rfl, -⟩ := Action.runs_pure_iff.1 run
    exact Language.nil_mem_one
  stops h e run := by cases (Action.runs_pure_iff.1 run).2

theorem call (c : Call) : Follows [.call c] (Routine.call c) where
  completes h found run := by
    obtain rfl := Routine.runs_call_iff.1 run
    rw [completed_singleton]
    exact granted_mem c found
  stops h e run := by
    obtain rfl := Routine.runs_call_iff.1 run
    rw [stopped_singleton]
    exact refused_mem c e

/-- What comes after a routine matters only where that routine has succeeded. -/
theorem bind {x : Routine α} {f : α → Routine β} (hx : Follows legs x)
    (hf : ∀ a h, Program.Runs x h (.ok a) → Follows legs' (f a)) : Follows (legs ++ legs') (x >>= f) where
  completes h b run := by
    obtain ⟨a, h₁, h₂, rfl, first, later⟩ := Action.runs_bind_ok_iff.1 run
    rw [History.answered_append, completed_append]
    exact Language.append_mem_mul (hx.completes h₁ a first) ((hf a h₁ first).completes h₂ b later)
  stops h e run := by
    rw [stopped_append]
    rcases Action.runs_bind_iff.1 run with ⟨a, h₁, h₂, rfl, first, later⟩ | ⟨e', he, first⟩ | ⟨⟨⟩, _⟩
    · rw [History.answered_append]
      exact .inr (Language.append_mem_mul (hx.completes h₁ a first) ((hf a h₁ first).stops h₂ e later))
    · cases he
      exact .inl (hx.stops h e first)

theorem ofExcept_bind {result : Except Error α} {a : α} {f : α → Routine β} (ha : result = .ok a)
    (hf : Follows legs (f a)) : Follows legs (Action.ofExcept result >>= f) := by
  subst ha
  exact hf

/-- A last step that makes no calls. -/
theorem bind_pure {x : Routine α} (hx : Follows legs x) (f : α → β) :
    Follows legs (x >>= fun a => (Pure.pure (f a) : Routine β)) :=
  List.append_nil legs ▸ hx.bind fun a _ _ => pure (f a)

theorem check (c : Call) (judge : c.Result → Except Error α) :
    Follows [.check c judge] (Routine.call c >>= fun found => Action.ofExcept (judge found)) where
  completes h a run := by
    obtain ⟨found, h', rfl, last⟩ := Routine.runs_call_bind_ok_iff.1 run
    obtain ⟨rfl, ho⟩ := Program.runs_done_iff.1 last
    rw [completed_singleton]
    refine ⟨found, ⟨a, ?_⟩, rfl⟩
    cases hr : judge found with
    | ok b => rw [hr] at ho; cases ho; rfl
    | error e => rw [hr] at ho; cases ho
  stops h e run := by
    rw [stopped_singleton]
    rcases Action.runs_bind_iff.1 run with ⟨found, h₁, h₂, rfl, called, last⟩ | ⟨e', he, called⟩ | ⟨⟨⟩, _⟩
    · obtain rfl := Routine.runs_call_iff.1 called
      obtain ⟨rfl, ho⟩ := Program.runs_done_iff.1 last
      cases hr : judge found with
      | ok a => rw [hr] at ho; cases ho
      | error e' =>
        rw [hr] at ho
        cases ho
        exact .inr ⟨found, hr, rfl⟩
    · cases he
      obtain rfl := Routine.runs_call_iff.1 called
      exact .inl (refused_mem c e)

theorem any {ι : Type} [Nonempty ι] {alternatives : ι → Leg} {x : Routine α} (i : ι) (hx : Follows [alternatives i] x) :
    Follows [.any alternatives] x where
  completes h a run := by
    have here := hx.completes h a run
    rw [completed_singleton] at here ⊢
    exact Language.mem_iSup.2 ⟨i, here⟩
  stops h e run := by
    have here := hx.stops h e run
    rw [stopped_singleton] at here ⊢
    exact Language.mem_iSup.2 ⟨i, here⟩

end Follows

/-! ## Waits -/

namespace Waiting

variable {what : String} {polling : Polling} {deadline : Nat} {c : Call} {judge : c.Result → Verdict}
  {fault : c.Result → Error → Prop}

/-- What a question has come to, after one call. -/
theorem ask_runs {h : History Operator} {o : Outcome Verdict} (run : Program.Runs (ask c judge) h o) :
    (∃ found, h.answered = [⟨c, .ok found⟩] ∧ o = .ok (judge found)) ∨
      (∃ e, h.answered = [⟨c, .error e⟩] ∧ o = .ok (.ofError e)) ∨ o = .panic := by
  rcases Action.runs_attempt_bind_iff.1 run with
    ⟨found, h₁, h₂, rfl, called, last⟩ | ⟨e, h₁, h₂, rfl, called, last⟩ | ⟨rfl, -⟩
  · obtain rfl := Routine.runs_call_iff.1 called
    obtain ⟨rfl, rfl⟩ := Action.runs_pure_iff.1 last
    exact .inl ⟨found, rfl, rfl⟩
  · obtain rfl := Routine.runs_call_iff.1 called
    obtain ⟨rfl, rfl⟩ := Action.runs_pure_iff.1 last
    exact .inr (.inl ⟨e, rfl, rfl⟩)
  · exact .inr (.inr rfl)

theorem ofError_ne_ready (e : Error) : Verdict.ofError e ≠ .ready := by
  unfold Verdict.ofError
  by_cases h : e.isTransient = true
  · simp [h]
  · simp [h]

theorem eq_of_ofError_eq_fatal {e e' : Error} (h : Verdict.ofError e = .fatal e') : e = e' := by
  unfold Verdict.ofError at h
  by_cases transient : e.isTransient = true
  · simp [transient] at h
  · simpa [transient] using h

/-- A question that is answered has been asked by one call, which has worked if the answer is the one waited for, and
which tells of the failure if the answer is fatal. -/
theorem ask_ok (hf : ∀ found e, judge found = .fatal e → fault found e) {h : History Operator} {v : Verdict}
    (run : Program.Runs (ask c judge) h (.ok v)) :
    h.answered ∈ asked c ∧ (v = .ready → h.answered ∈ granted c) ∧
      ∀ e, v = .fatal e → h.answered ∈ refused c e + brought c (fault · e) := by
  rcases ask_runs run with ⟨found, hh, ho⟩ | ⟨e, hh, ho⟩ | ho
  · obtain rfl := Outcome.ok.inj ho
    have works := granted_mem c found
    rw [hh]
    exact ⟨granted_le_asked c works, fun _ => works, fun e he => .inr (brought_mem (hf found e he))⟩
  · obtain rfl := Outcome.ok.inj ho
    rw [hh]
    refine ⟨refused_le_asked c e (refused_mem c e), fun ready => absurd ready (ofError_ne_ready e), ?_⟩
    intro e' he
    rw [eq_of_ofError_eq_fatal he]
    exact .inl (refused_mem c e')
  · cases ho

/-- Asking once more, and then waiting, is waiting. -/
theorem asked_mul_le (l : Language Answered) : asked c * ((asked c)∗ * l) ≤ (asked c)∗ * l := by
  rw [← mul_assoc]
  exact mul_le_mul_left mul_kstar_le_kstar l

theorem le_kstar_mul (l : Language Answered) : l ≤ (asked c)∗ * l := le_mul_of_one_le_left' one_le_kstar

/-- One round: the answer decides, or time is up, or another round follows. -/
theorem askUntil_runs (hf : ∀ found e, judge found = .fatal e → fault found e) {again : Unit → Routine Unit}
    {h : History Operator} {o : Outcome Unit}
    (run : Program.Runs (askUntil what polling deadline (ask c judge) again) h o) :
    (o = .ok () ∧ h.answered ∈ granted c) ∨
      (∃ e, o = .error e ∧
        h.answered ∈ refused c e + brought c (fault · e) + asked c * only (e = .timeout what polling.limit)) ∨
      (∃ w h', h.answered = w ++ History.answered h' ∧ w ∈ asked c ∧ Program.Runs (again ()) h' o) ∨ o = .panic := by
  rcases Action.runs_bind_iff.1 run with ⟨v, h₁, h₂, rfl, question, rest⟩ | ⟨e, rfl, question⟩ | ⟨rfl, -⟩
  · obtain ⟨called, good, bad⟩ := ask_ok hf question
    cases v with
    | ready =>
      obtain ⟨rfl, rfl⟩ := Action.runs_pure_iff.1 rest
      rw [List.append_nil]
      exact .inl ⟨rfl, good rfl⟩
    | fatal e =>
      obtain ⟨rfl, rfl⟩ := Action.runs_fail_iff.1 rest
      rw [List.append_nil]
      exact .inr (.inl ⟨e, rfl, .inl (bad e rfl)⟩)
    | notReady =>
      obtain ⟨now, h₃, rfl, decided⟩ := Action.runs_request_bind_iff.1 rest
      by_cases late : deadline ≤ now
      · rw [if_pos late] at decided
        obtain ⟨rfl, rfl⟩ := Action.runs_fail_iff.1 decided
        refine .inr (.inl ⟨_, rfl, .inr (mem_mul_only ?_ rfl)⟩)
        rw [History.answered_append]
        exact (List.append_nil _).symm ▸ called
      · rw [if_neg late] at decided
        obtain ⟨⟨⟩, h₄, rfl, later⟩ := Action.runs_request_bind_iff.1 decided
        exact .inr (.inr (.inl ⟨h₁.answered, h₄, History.answered_append _ _, called, later⟩))
  · rcases ask_runs question with ⟨_, _, ho⟩ | ⟨_, _, ho⟩ | ho
    · cases ho
    · cases ho
    · cases ho
  · exact .inr (.inr (.inr rfl))

theorem askUntil_follows (hf : ∀ found e, judge found = .fatal e → fault found e) {again : Unit → Routine Unit}
    (completes : ∀ w ∈ asked c, ∀ h, Program.Runs (again ()) h (.ok ()) →
      w ++ h.answered ∈ (Leg.poll c fault (.timeout what polling.limit)).whole)
    (stops : ∀ w ∈ asked c, ∀ h e, Program.Runs (again ()) h (.error e) →
      w ++ h.answered ∈ (Leg.poll c fault (.timeout what polling.limit)).part e) :
    Follows [.poll c fault (.timeout what polling.limit)]
      (askUntil what polling deadline (ask c judge) again) where
  completes h u run := by
    rw [completed_singleton]
    rcases askUntil_runs hf run with ⟨-, good⟩ | ⟨e, ⟨⟩, _⟩ | ⟨w, h', hh, hw, later⟩ | ⟨⟨⟩⟩
    · exact le_kstar_mul _ good
    · rw [hh]
      exact completes w hw h' later
  stops h e run := by
    rw [stopped_singleton]
    rcases askUntil_runs hf run with ⟨⟨⟩, _⟩ | ⟨e', ⟨⟩, bad⟩ | ⟨w, h', hh, hw, later⟩ | ⟨⟨⟩⟩
    · exact le_kstar_mul _ bad
    · rw [hh]
      exact stops w hw h' e later

/-- By induction on the rounds: in a wait the same call is made again and again. -/
theorem waitUntil_follows (hf : ∀ found e, judge found = .fatal e → fault found e) (rounds : Nat) :
    Follows [.poll c fault (.timeout what polling.limit)]
      (waitUntil what polling deadline (ask c judge) rounds) := by
  induction rounds with
  | zero =>
    refine askUntil_follows hf (fun w hw h run => ?_) (fun w hw h e run => ?_)
    · cases (Action.runs_fail_iff.1 run).2
    · obtain ⟨rfl, he⟩ := Action.runs_fail_iff.1 run
      cases he
      refine le_kstar_mul _ (.inr (mem_mul_only ?_ rfl))
      exact (List.append_nil w).symm ▸ hw
  | succ rounds ih =>
    refine askUntil_follows hf (fun w hw h run => ?_) (fun w hw h e run => ?_)
    · have later := ih.completes h () run
      rw [completed_singleton] at later
      exact asked_mul_le _ (Language.append_mem_mul hw later)
    · have later := ih.stops h e run
      rw [stopped_singleton] at later
      exact asked_mul_le _ (Language.append_mem_mul hw later)

theorem wait_follows {polling : Polling} (hf : ∀ found e, judge found = .fatal e → fault found e) :
    Follows [.poll c fault (.timeout what polling.limit)] (wait what polling (ask c judge)) where
  completes h u run := by
    obtain ⟨start, h', rfl, rest⟩ := Action.runs_request_bind_iff.1 run
    exact (waitUntil_follows hf _).completes h' u rest
  stops h e run := by
    obtain ⟨start, h', rfl, rest⟩ := Action.runs_request_bind_iff.1 run
    exact (waitUntil_follows hf _).stops h' e rest

end Waiting
end SignOnOperator
