import SignOnOperator.Proofs.Awaited
import SignOnOperator.Proofs.Itinerary
import SignOnOperator.Proofs.UpstreamService
/-!
# What an exposure leaves behind

A run of the exposing controller by the calls that it has made and how they were answered.  There are few courses that
it can take (`Exposure.Course`), as it stops at the first call that fails; only the wait in the middle may be of any
length, and of it the last reply decides (`Awaited.wait_of_calm`).  How much is deleted is read off the course.
-/
namespace SignOnOperator

open Kubernetes

/-! ## Calls that do not break down -/

/-- A call that is made again and again, with the replies to it. -/
def Call.polled (c : Call) (replies : List (Except Error c.Result)) : List Answered :=
  replies.map fun reply => ⟨c, .ofExcept reply⟩

theorem Outcome.ofExcept_inj {α : Type} {reply reply' : Except Error α} (same : ofExcept reply = ofExcept reply') :
    reply = reply' := by
  cases reply <;> cases reply' <;> cases same <;> rfl

variable {h : History Operator}

theorem History.answered_call {c : Call} {outcome : Outcome c.Result} :
    History.answered (⟨.call c, outcome⟩ :: h) = ⟨c, outcome⟩ :: h.answered := rfl

theorem Routine.runs_call_of_calm {c : Call} {o : Outcome c.Result} (run : Program.Runs (call c) h o)
    (calm : ∀ t ∈ h, ¬t.IsBreakdown) :
    ∃ reply : Except Error c.Result, h = [⟨.call c, .ofExcept reply⟩] ∧ o = .ofExcept reply := by
  obtain rfl := runs_call_iff.1 run
  cases o with
  | ok found => exact ⟨.ok found, rfl, rfl⟩
  | error e => exact ⟨.error e, rfl, rfl⟩
  | panic => exact absurd ⟨c, rfl⟩ (calm _ (List.mem_singleton.2 rfl))

theorem Routine.runs_call_bind_of_calm {α : Type} {c : Call} {f : c.Result → Routine α} {o : Outcome α}
    (run : Program.Runs (Action.bind (call c) f) h o) (calm : ∀ t ∈ h, ¬t.IsBreakdown) :
    (∃ found h', h = ⟨.call c, .ok found⟩ :: h' ∧ Program.Runs (f found) h' o) ∨
      ∃ e, h = [⟨.call c, .error e⟩] ∧ o = .error e := by
  rcases Action.runs_bind_iff.1 run with ⟨found, h₁, h', rfl, called, rest⟩ | ⟨e, rfl, called⟩ | ⟨rfl, called⟩
  · obtain rfl := runs_call_iff.1 called
    exact .inl ⟨found, h', rfl, rest⟩
  · exact .inr ⟨e, runs_call_iff.1 called, rfl⟩
  · obtain ⟨reply, -, broke⟩ := runs_call_of_calm called calm
    cases reply <;> cases broke

/-- The first part of a routine that does not break down has come to an end, good or bad. -/
theorem Confined.runs_bind_of_calm {α β : Type} {kinds : List RequestKind} {x : Routine α} {f : α → Routine β}
    {o : Outcome β} (confined : Confined kinds x) (run : Program.Runs (Action.bind x f) h o)
    (calm : ∀ t ∈ h, ¬t.IsBreakdown) :
    (∃ a h₁ h₂, h = h₁ ++ h₂ ∧ Program.Runs x h₁ (.ok a) ∧ Program.Runs (f a) h₂ o) ∨
      ∃ e, o = .error e ∧ Program.Runs x h (.error e) := by
  rcases Action.runs_bind_iff.1 run with finished | failed | ⟨-, broken⟩
  · exact .inl finished
  · exact .inr failed
  · exact absurd broken (confined.not_runs_panic calm)

/-! ## Waits that do not break down -/

namespace Waiting

variable {what : String} {polling : Polling} {deadline : Nat} {c : Call} {judge : c.Result → Verdict}

theorem ask_of_calm {o : Outcome Verdict} (run : Program.Runs (ask c judge) h o) (calm : ∀ t ∈ h, ¬t.IsBreakdown) :
    ∃ reply, h.answered = [⟨c, .ofExcept reply⟩] ∧ o = .ok (.ofReply judge reply) := by
  rcases ask_runs run with ⟨found, called, rfl⟩ | ⟨e, called, rfl⟩ | rfl
  · exact ⟨.ok found, called, rfl⟩
  · exact ⟨.error e, called, rfl⟩
  · exact absurd run ((ask_confined c judge).not_runs_panic calm)

/-- One round: either its reply is the last one, and decides or comes too late, or it decides nothing. -/
theorem askUntil_of_calm {again : Unit → Routine Unit} {o : Outcome Unit}
    (run : Program.Runs (askUntil what polling deadline (ask c judge) again) h o) (calm : ∀ t ∈ h, ¬t.IsBreakdown) :
    ∃ reply, (h.answered = [⟨c, .ofExcept reply⟩] ∧ o = (Verdict.ofReply judge reply).conclusion what polling.limit) ∨
      (Verdict.ofReply judge reply = .notReady ∧ ∃ early late, h = early ++ late ∧
        History.answered early = [⟨c, .ofExcept reply⟩] ∧ Program.Runs (again ()) late o) := by
  rcases Action.runs_bind_iff.1 run with ⟨verdict, h₁, h₂, rfl, asked, rest⟩ | ⟨e, rfl, asked⟩ | ⟨rfl, asked⟩
  · obtain ⟨reply, called, judged⟩ := ask_of_calm asked fun t ht => calm t (List.mem_append_left h₂ ht)
    obtain rfl := Outcome.ok.inj judged
    refine ⟨reply, ?_⟩
    cases decided : Verdict.ofReply judge reply with
    | ready =>
      rw [decided] at rest
      obtain ⟨rfl, rfl⟩ := Action.runs_pure_iff.1 rest
      exact .inl ⟨(List.append_nil h₁).symm ▸ called, rfl⟩
    | fatal e =>
      rw [decided] at rest
      obtain ⟨rfl, rfl⟩ := Action.runs_fail_iff.1 rest
      exact .inl ⟨(List.append_nil h₁).symm ▸ called, rfl⟩
    | notReady =>
      rw [decided] at rest
      obtain ⟨now, h₃, rfl, timed⟩ := Action.runs_request_bind_iff.1 rest
      have silent : History.answered (h₁ ++ [⟨.clock, now⟩]) = [⟨c, .ofExcept reply⟩] := by
        rw [History.answered_append, called]
        rfl
      by_cases late : deadline ≤ now
      · rw [if_pos late] at timed
        obtain ⟨rfl, rfl⟩ := Action.runs_fail_iff.1 timed
        exact .inl ⟨silent, rfl⟩
      · rw [if_neg late] at timed
        obtain ⟨⟨⟩, h₄, rfl, later⟩ := Action.runs_request_bind_iff.1 timed
        refine .inr ⟨rfl, _, h₄, (List.append_cons ..).trans (List.append_cons ..), ?_, later⟩
        rw [History.answered_append, silent]
        rfl
  · obtain ⟨reply, -, failed⟩ := ask_of_calm asked calm
    cases failed
  · obtain ⟨reply, -, broke⟩ := ask_of_calm asked calm
    cases broke

/-- By induction on the rounds: the replies before the last one have decided nothing. -/
theorem waitUntil_of_calm : ∀ (rounds : Nat) {h : History Operator} {o : Outcome Unit},
    Program.Runs (waitUntil what polling deadline (ask c judge) rounds) h o → (∀ t ∈ h, ¬t.IsBreakdown) →
    ∃ early last, (∀ reply ∈ early, Verdict.ofReply judge reply = .notReady) ∧
      h.answered = c.polled (early ++ [last]) ∧
      o = (Verdict.ofReply judge last).conclusion what polling.limit
  | 0, h, o, run, calm => by
    obtain ⟨reply, ⟨called, ended⟩ | ⟨undecided, h₁, h₂, rfl, called, later⟩⟩ := askUntil_of_calm run calm
    · exact ⟨[], reply, nofun, called, ended⟩
    · obtain ⟨rfl, rfl⟩ := Action.runs_fail_iff.1 later
      refine ⟨[], reply, nofun, (List.append_nil h₁).symm ▸ called, ?_⟩
      rw [undecided]
      rfl
  | rounds + 1, h, o, run, calm => by
    obtain ⟨reply, ⟨called, ended⟩ | ⟨undecided, h₁, h₂, rfl, called, later⟩⟩ := askUntil_of_calm run calm
    · exact ⟨[], reply, nofun, called, ended⟩
    · obtain ⟨early, last, undecideds, calls, ended⟩ :=
        waitUntil_of_calm rounds later fun t ht => calm t (List.mem_append_right h₁ ht)
      refine ⟨reply :: early, last, List.forall_mem_cons.2 ⟨undecided, undecideds⟩, ?_, ended⟩
      rw [History.answered_append, called, calls]
      rfl

end Waiting

namespace Awaited

/-- The last reply to a wait, and the error with which it ends: what was found shows that it will never be so, or the
reply is a failure that does not clear up on its own, or it decides nothing and time is up. -/
inductive Fails (a : Awaited) (limit : Duration) : Except Error a.call.Result → Error → Prop
  | failed {found : a.call.Result} {e : Error} (failed : a.Failed found e) : Fails a limit (.ok found) e
  | lasting {e : Error} (lasting : ¬e.IsTransient) : Fails a limit (.error e) e
  | late {reply : Except Error a.call.Result} (undecided : a.Undecided reply) :
    Fails a limit reply (.timeout a.what limit)

variable {a : Awaited} {limit : Duration} {reply : Except Error a.call.Result} {e e' : Error}

theorem Fails.conclusion (fails : a.Fails limit reply e) :
    (Verdict.ofReply a.judge reply).conclusion a.what limit = .error e := by
  cases fails with
  | failed failed => rw [Verdict.ofReply, (a.judge_eq_fatal_iff _ _).2 failed, Verdict.conclusion]
  | lasting lasting => rw [Verdict.ofReply, Verdict.ofError_of_not_isTransient lasting, Verdict.conclusion]
  | late undecided => rw [(a.ofReply_eq_notReady_iff reply).2 undecided, Verdict.conclusion]

theorem Fails.unique (fails : a.Fails limit reply e) (fails' : a.Fails limit reply e') : e = e' :=
  Outcome.error.inj (fails.conclusion.symm.trans fails'.conclusion)

theorem Fails.not_ready {found : a.call.Result} (fails : a.Fails limit (.ok found) e) : ¬a.Ready found := by
  intro ready
  have concluded := fails.conclusion
  rw [Verdict.ofReply, (a.judge_eq_ready_iff found).2 ready, Verdict.conclusion] at concluded
  cases concluded

/-- **A wait without a breakdown.**  Of its replies all but the last one have decided nothing, and with the last one it
ends. -/
theorem wait_of_calm (a : Awaited) {polling : Polling} {o : Outcome Unit} (run : Program.Runs (a.wait polling) h o)
    (calm : ∀ t ∈ h, ¬t.IsBreakdown) :
    ∃ early last, (∀ reply ∈ early, a.Undecided reply) ∧ h.answered = a.call.polled (early ++ [last]) ∧
      ((o = .ok () ∧ ∃ found, last = .ok found ∧ a.Ready found) ∨
        ∃ e, o = .error e ∧ a.Fails polling.limit last e) := by
  rw [a.wait_eq] at run
  obtain ⟨start, h', rfl, rest⟩ := Action.runs_request_bind_iff.1 run
  obtain ⟨early, last, undecided, calls, rfl⟩ :=
    Waiting.waitUntil_of_calm _ rest fun t ht => calm t (List.mem_cons_of_mem _ ht)
  refine ⟨early, last, fun reply mem => (a.ofReply_eq_notReady_iff reply).1 (undecided reply mem), calls, ?_⟩
  cases decided : Verdict.ofReply a.judge last with
  | ready => exact .inl ⟨rfl, a.ready_of_ofReply decided⟩
  | notReady => exact .inr ⟨_, rfl, .late ((a.ofReply_eq_notReady_iff last).1 decided)⟩
  | fatal e =>
    refine .inr ⟨e, rfl, ?_⟩
    cases last with
    | ok found => exact .failed ((a.judge_eq_fatal_iff found e).1 decided)
    | error e' =>
      obtain rfl := Waiting.eq_of_ofError_eq_fatal decided
      refine .lasting fun transient => ?_
      cases (Verdict.ofError_eq_notReady_iff.2 transient).symm.trans decided

end Awaited

/-! ## The courses of an exposure -/

/-- A call that deletes a job or a configuration map. -/
def Call.Deletes (c : Call) : Prop := c.kind = .deleteJob ∨ c.kind = .deleteConfigMap

/-- The job that a call reads or writes. -/
def Call.job? : Call → Option Address
  | createJob job => some job.metadata.address
  | getJob ns name | deleteJob ns name => some (some ns, name)
  | _ => none

/-- The configuration map that a call writes. -/
def Call.configMap? : Call → Option Address
  | applyConfigMap map => some map.metadata.address
  | deleteConfigMap ns name => some (some ns, name)
  | _ => none

namespace Exposure

/-- What follows the last reply to the question for the job: nothing, if the job is not complete, and else the
deletions. -/
inductive Closing (ns : String) (map : ConfigMap) (job : Job) (limit : Duration) :
    Except Error (Option Job) → List Answered → Outcome Unit → Prop
  | unfinished {last : Except Error (Option Job)} {e : Error}
    (fails : (Awaited.job ns job.metadata.nameAny).Fails limit last e) :
    Closing ns map job limit last [] (.error e)
  | kept {found : Option Job} (ready : (Awaited.job ns job.metadata.nameAny).Ready found) (e : Error) :
    Closing ns map job limit (.ok found) [⟨.deleteJob ns job.metadata.nameAny, .error e⟩] (.error e)
  | removed {found : Option Job} (ready : (Awaited.job ns job.metadata.nameAny).Ready found)
    (reply : Except Error Unit) :
    Closing ns map job limit (.ok found)
      [⟨.deleteJob ns job.metadata.nameAny, .ok ()⟩, ⟨.deleteConfigMap ns map.metadata.nameAny, .ofExcept reply⟩]
      (.ofExcept reply)

/-- The courses of a run with this configuration map and this job, by the answered calls and the outcome. -/
inductive Course (ns : String) (map : ConfigMap) (job : Job) (limit : Duration) : List Answered → Outcome Unit → Prop
  | unapplied (e : Error) : Course ns map job limit [⟨.applyConfigMap map, .error e⟩] (.error e)
  | uncreated {e : Error} (other : e.isConflict = false) :
    Course ns map job limit [⟨.applyConfigMap map, .ok ()⟩, ⟨.createJob job, .error e⟩] (.error e)
  | blocked {e : Error} (conflict : e.isConflict = true) {reply : Except Error Unit} {outcome : Error}
    (refused : ∀ e', reply = .error e' → outcome = e') (deleted : reply = .ok () → outcome = e) :
    Course ns map job limit
      [⟨.applyConfigMap map, .ok ()⟩, ⟨.createJob job, .error e⟩,
        ⟨.deleteJob ns job.metadata.nameAny, .ofExcept reply⟩] (.error outcome)
  | created {early : List (Except Error (Option Job))} {last : Except Error (Option Job)} {closing : List Answered}
    {o : Outcome Unit} (undecided : ∀ reply ∈ early, (Awaited.job ns job.metadata.nameAny).Undecided reply)
    (closes : Closing ns map job limit last closing o) :
    Course ns map job limit
      (⟨.applyConfigMap map, .ok ()⟩ :: ⟨.createJob job, .ok ()⟩ ::
        (Call.polled (.getJob ns job.metadata.nameAny) (early ++ [last]) ++ closing)) o

variable {config : Config} {mode : Mode} {sso : Sso} {ns service account : String} {map : ConfigMap} {job : Job}
  {limit : Duration} {w closing : List Answered} {o : Outcome Unit} {early : List (Except Error (Option Job))}
  {last : Except Error (Option Job)}

theorem createJob_of_calm (run : Program.Runs (createJob ns job) h o) (calm : ∀ t ∈ h, ¬t.IsBreakdown) :
    (h.answered = [⟨.createJob job, .ok ()⟩] ∧ o = .ok ()) ∨
    (∃ e, e.isConflict = false ∧ h.answered = [⟨.createJob job, .error e⟩] ∧ o = .error e) ∨
    ∃ (e : Error) (reply : Except Error Unit) (outcome : Error), e.isConflict = true ∧
      h.answered = [⟨.createJob job, .error e⟩, ⟨.deleteJob ns job.metadata.nameAny, .ofExcept reply⟩] ∧
      o = .error outcome ∧ (∀ e', reply = .error e' → outcome = e') ∧ (reply = .ok () → outcome = e) := by
  rcases Action.runs_attempt_bind_iff.1 run with
    ⟨_, h₁, h₂, rfl, called, rest⟩ | ⟨e, h₁, h₂, rfl, called, rest⟩ | ⟨rfl, called⟩
  · obtain rfl := Routine.runs_call_iff.1 called
    obtain ⟨rfl, rfl⟩ := Action.runs_pure_iff.1 rest
    exact .inl ⟨rfl, rfl⟩
  · obtain rfl := Routine.runs_call_iff.1 called
    dsimp only at rest
    by_cases conflict : e.isConflict = true
    · rw [if_pos conflict] at rest
      have calm₂ := (List.forall_mem_append.1 calm).2
      refine .inr (.inr ⟨e, ?_⟩)
      rcases Routine.runs_call_bind_of_calm rest calm₂ with ⟨_, h₃, rfl, failed⟩ | ⟨e', rfl, rfl⟩
      · obtain ⟨rfl, rfl⟩ := Action.runs_fail_iff.1 failed
        exact ⟨.ok (), e, conflict, rfl, rfl, nofun, fun _ => rfl⟩
      · exact ⟨.error e', e', conflict, rfl, rfl, fun _ same => Except.error.inj same, nofun⟩
    · rw [if_neg conflict] at rest
      obtain ⟨rfl, rfl⟩ := Action.runs_fail_iff.1 rest
      exact .inr (.inl ⟨e, Bool.eq_false_of_not_eq_true conflict, rfl, rfl⟩)
  · obtain ⟨reply, -, broke⟩ := Routine.runs_call_of_calm called calm
    cases reply <;> cases broke

/-- **A run takes one of the courses.** -/
theorem run_course (home : sso.requireNamespace = .ok ns)
    (ran : Program.Runs (run config mode sso service account) h o) (calm : ∀ t ∈ h, ¬t.IsBreakdown) :
    Course ns (buildConfigMap sso ns service) (buildJob sso ns service account mode)
      (mode.polling config.timeouts).limit h.answered o := by
  unfold run at ran
  rw [home] at ran
  rcases Routine.runs_call_bind_of_calm ran calm with ⟨⟨⟩, h₁, rfl, applied⟩ | ⟨e, rfl, rfl⟩
  swap
  · exact .unapplied e
  have calm₁ : ∀ t ∈ h₁, ¬t.IsBreakdown := (List.forall_mem_cons.1 calm).2
  rw [History.answered_call]
  rcases (createJob_confined _ _).runs_bind_of_calm applied calm₁ with
    ⟨⟨⟩, h₂, h₃, rfl, creating, created⟩ | ⟨e, rfl, creating⟩
  swap
  · rcases createJob_of_calm creating calm₁ with
      ⟨-, ⟨⟩⟩ | ⟨e', other, calls, ⟨⟩⟩ | ⟨e', reply, outcome, conflict, calls, ⟨⟩, refused, deleted⟩
    · rw [calls]
      exact .uncreated other
    · rw [calls]
      exact .blocked conflict refused deleted
  obtain ⟨calm₂, calm₃⟩ := List.forall_mem_append.1 calm₁
  rcases createJob_of_calm creating calm₂ with ⟨creation, -⟩ | ⟨_, -, -, ⟨⟩⟩ | ⟨_, _, _, -, -, ⟨⟩, -⟩
  rw [History.answered_append, creation]
  rcases (Waiting.forJob_confined _ _ _).runs_bind_of_calm created calm₃ with
    ⟨⟨⟩, h₄, h₅, rfl, waiting, finished⟩ | ⟨e, rfl, waiting⟩
  swap
  · obtain ⟨early, last, undecided, polled, ⟨⟨⟩, -⟩ | ⟨e', ⟨⟩, fails⟩⟩ :=
      (Awaited.job ns (jobName sso ns mode)).wait_of_calm waiting calm₃
    rw [polled, ← List.append_nil (Call.polled _ _)]
    exact .created undecided (.unfinished fails)
  obtain ⟨calm₄, calm₅⟩ := List.forall_mem_append.1 calm₃
  obtain ⟨early, last, undecided, polled, ⟨-, found, rfl, ready⟩ | ⟨e', ⟨⟩, -⟩⟩ :=
    (Awaited.job ns (jobName sso ns mode)).wait_of_calm waiting calm₄
  rw [History.answered_append, polled]
  rcases Routine.runs_call_bind_of_calm finished calm₅ with ⟨⟨⟩, h₆, rfl, sweeping⟩ | ⟨e, rfl, rfl⟩
  · have calm₆ : ∀ t ∈ h₆, ¬t.IsBreakdown := (List.forall_mem_cons.1 calm₅).2
    obtain ⟨reply, rfl, rfl⟩ := Routine.runs_call_of_calm sweeping calm₆
    exact .created undecided (.removed ready reply)
  · exact .created undecided (.kept ready e)

/-! ## What the courses leave -/

theorem Closing.deletes (closes : Closing ns map job limit last closing o) : ∀ x ∈ closing, x.1.Deletes := by
  cases closes with
  | unfinished fails => exact List.forall_mem_nil _
  | kept ready e => exact List.forall_mem_singleton.2 (.inl rfl)
  | removed ready reply => exact List.forall_mem_cons.2 ⟨.inl rfl, List.forall_mem_singleton.2 (.inr rfl)⟩

/-- What has been asked in a run that has created its job. -/
theorem mem_created {x : Answered} {replies : List (Except Error (Option Job))}
    (mem : x ∈ (⟨.applyConfigMap map, .ok ()⟩ :: ⟨.createJob job, .ok ()⟩ ::
      (Call.polled (.getJob ns job.metadata.nameAny) replies ++ closing) : List Answered)) :
    x = ⟨.applyConfigMap map, .ok ()⟩ ∨ x = ⟨.createJob job, .ok ()⟩ ∨
      (∃ reply ∈ replies, x = ⟨.getJob ns job.metadata.nameAny, .ofExcept reply⟩) ∨ x ∈ closing := by
  rcases List.mem_cons.1 mem with rfl | mem
  · exact .inl rfl
  rcases List.mem_cons.1 mem with rfl | mem
  · exact .inr (.inl rfl)
  rcases List.mem_append.1 mem with mem | mem
  · obtain ⟨reply, replied, rfl⟩ := List.mem_map.1 mem
    exact .inr (.inr (.inl ⟨reply, replied, rfl⟩))
  · exact .inr (.inr (.inr mem))

/-- Before the job is complete, a call that was refused is the last one. -/
theorem Closing.not_refused {c : Call} {e : Error} {replies : List (Except Error (Option Job))}
    (closes : Closing ns map job limit last closing o) (kind : c.kind = .applyConfigMap ∨ c.kind = .createJob) :
    ⟨c, .error e⟩ ∉ (⟨.applyConfigMap map, .ok ()⟩ :: ⟨.createJob job, .ok ()⟩ ::
      (Call.polled (.getJob ns job.metadata.nameAny) replies ++ closing) : List Answered) := by
  intro mem
  rcases mem_created mem with same | same | ⟨reply, -, same⟩ | mem
  · cases same
  · cases same
  · cases (Sigma.mk.inj same).1
    rcases kind with kind | kind <;> cases kind
  · have deletes : c.kind = .deleteJob ∨ c.kind = .deleteConfigMap := closes.deletes _ mem
    rcases kind with kind | kind <;> rcases deletes with other | other <;> cases kind.symm.trans other

/-- The calls of a run that has come to its end: all of them have worked, except that the job has been asked for until
it was complete. -/
def Completed (ns : String) (map : ConfigMap) (job : Job) (w : List Answered) : Prop :=
  ∃ early found, (∀ reply ∈ early, (Awaited.job ns job.metadata.nameAny).Undecided reply) ∧
    (Awaited.job ns job.metadata.nameAny).Ready found ∧
    w = ⟨.applyConfigMap map, .ok ()⟩ :: ⟨.createJob job, .ok ()⟩ ::
      (Call.polled (.getJob ns job.metadata.nameAny) (early ++ [.ok found]) ++
        [⟨.deleteJob ns job.metadata.nameAny, .ok ()⟩, ⟨.deleteConfigMap ns map.metadata.nameAny, .ok ()⟩])

/-- What stops a run short of the deletions, by the calls that it has made: a call fails, or the job does, or all
replies to the question for it have decided nothing. -/
inductive Thwarted (ns : String) (map : ConfigMap) (job : Job) (limit : Duration) (w : List Answered) : Error → Prop
  | unapplied {e : Error} (refused : ⟨.applyConfigMap map, .error e⟩ ∈ w) : Thwarted ns map job limit w e
  | uncreated {e : Error} (refused : ⟨.createJob job, .error e⟩ ∈ w) (other : e.isConflict = false) :
    Thwarted ns map job limit w e
  | failed {found : Option Job} {e : Error} (replied : ⟨.getJob ns job.metadata.nameAny, .ok found⟩ ∈ w)
    (failed : (Awaited.job ns job.metadata.nameAny).Failed found e) : Thwarted ns map job limit w e
  | lasting {e : Error} (replied : ⟨.getJob ns job.metadata.nameAny, .error e⟩ ∈ w) (lasting : ¬e.IsTransient) :
    Thwarted ns map job limit w e
  | late (created : ⟨.createJob job, .ok ()⟩ ∈ w)
    (undecided : ∀ reply, ⟨.getJob ns job.metadata.nameAny, .ofExcept reply⟩ ∈ w →
      (Awaited.job ns job.metadata.nameAny).Undecided reply) :
    Thwarted ns map job limit w (.timeout (Awaited.job ns job.metadata.nameAny).what limit)

theorem not_deletes_of_unfinished {replies : List (Except Error (Option Job))} :
    ∀ x ∈ (⟨.applyConfigMap map, .ok ()⟩ :: ⟨.createJob job, .ok ()⟩ ::
      (Call.polled (.getJob ns job.metadata.nameAny) replies ++ []) : List Answered), ¬x.1.Deletes := by
  intro x mem
  rcases mem_created mem with rfl | rfl | ⟨reply, -, rfl⟩ | mem
  · simp [Call.Deletes]
  · simp [Call.Deletes]
  · simp [Call.Deletes]
  · cases mem

/-- The course of a run of which a reply has ended the wait. -/
theorem Course.of_reply {e : Error} (course : Course ns map job limit w o) (reply : Except Error (Option Job))
    (replied : ⟨.getJob ns job.metadata.nameAny, .ofExcept reply⟩ ∈ w)
    (fails : (Awaited.job ns job.metadata.nameAny).Fails limit reply e)
    (decided : ¬(Awaited.job ns job.metadata.nameAny).Undecided reply) : o = .error e ∧ ∀ x ∈ w, ¬x.1.Deletes := by
  cases course with
  | unapplied e => simp at replied
  | uncreated other => simp at replied
  | blocked conflict refused deleted => simp at replied
  | created undecided closes =>
    rcases mem_created replied with same | same | ⟨reply', mem, same⟩ | mem
    · cases same
    · cases same
    · obtain rfl := Outcome.ofExcept_inj (eq_of_heq (Sigma.mk.inj same).2)
      rcases List.mem_append.1 mem with early | last
      · exact absurd (undecided _ early) decided
      obtain rfl := List.mem_singleton.1 last
      cases closes with
      | unfinished fails' => exact ⟨congrArg _ (fails'.unique fails), not_deletes_of_unfinished⟩
      | kept ready e => exact absurd ready fails.not_ready
      | removed ready reply => exact absurd ready fails.not_ready
    · rcases closes.deletes _ mem with deletes | deletes <;> cases deletes

theorem Course.of_thwarted {e : Error} (course : Course ns map job limit w o)
    (thwarted : Thwarted ns map job limit w e) : o = .error e ∧ ∀ x ∈ w, ¬x.1.Deletes := by
  cases thwarted with
  | unapplied refused =>
    cases course with
    | unapplied e =>
      cases List.mem_singleton.1 refused
      simp [Call.Deletes]
    | uncreated other => simp at refused
    | blocked conflict refused' deleted => simp at refused
    | created undecided closes => exact absurd refused (closes.not_refused (.inl rfl))
  | uncreated refused other =>
    cases course with
    | unapplied e => simp at refused
    | uncreated other =>
      rcases List.mem_cons.1 refused with same | refused
      · cases same
      cases List.mem_singleton.1 refused
      simp [Call.Deletes]
    | blocked conflict refused' deleted =>
      obtain rfl : e = _ := by simpa using refused
      cases conflict.symm.trans other
    | created undecided closes => exact absurd refused (closes.not_refused (.inr rfl))
  | @failed found _ replied failed =>
    exact course.of_reply (.ok found) replied (.failed failed) fun undecided => undecided.2 _ failed
  | lasting replied lasting => exact course.of_reply (.error e) replied (.lasting lasting) lasting
  | late created undecided =>
    cases course with
    | unapplied e => simp at created
    | uncreated other => simp at created
    | blocked conflict refused deleted => simp at created
    | @created early last closing _ _ closes =>
      have asked : ⟨.getJob ns job.metadata.nameAny, .ofExcept last⟩ ∈
          Call.polled (.getJob ns job.metadata.nameAny) (early ++ [last]) :=
        List.mem_map.2 ⟨last, List.mem_append_right early (List.mem_singleton.2 rfl), rfl⟩
      have nothing := undecided last
        (List.mem_cons_of_mem _ (List.mem_cons_of_mem _ (List.mem_append_left closing asked)))
      cases closes with
      | unfinished fails => exact ⟨congrArg _ (fails.unique (.late nothing)), not_deletes_of_unfinished⟩
      | kept ready e => exact absurd ready nothing.1
      | removed ready reply => exact absurd ready nothing.1

/-- A job that was there already is deleted, and that is all. -/
theorem Course.of_conflict {e : Error} (course : Course ns map job limit w o) (conflict : e.isConflict = true)
    (refused : ⟨.createJob job, .error e⟩ ∈ w) :
    ∃ reply : Except Error Unit,
      w = [⟨.applyConfigMap map, .ok ()⟩, ⟨.createJob job, .error e⟩,
        ⟨.deleteJob ns job.metadata.nameAny, .ofExcept reply⟩] ∧
      (∀ e', reply = .error e' → o = .error e') ∧ (reply = .ok () → o = .error e) := by
  cases course with
  | unapplied e => simp at refused
  | uncreated other =>
    obtain rfl : e = _ := by simpa using refused
    cases conflict.symm.trans other
  | @blocked _ _ reply outcome refused' deleted =>
    obtain rfl : e = _ := by simpa using refused
    exact ⟨reply, rfl, fun e' failed => congrArg _ (refused' e' failed), fun worked => congrArg _ (deleted worked)⟩
  | created undecided closes => exact absurd refused (closes.not_refused (.inr rfl))

/-- The deletion of the configuration map is the last call, and the run ends as it does. -/
theorem Course.of_deleteConfigMap {name : String} (course : Course ns map job limit w o) (reply : Except Error Unit)
    (deleted : ⟨.deleteConfigMap ns name, .ofExcept reply⟩ ∈ w) : o = .ofExcept reply := by
  cases course with
  | unapplied e => simp at deleted
  | uncreated other => simp at deleted
  | blocked conflict refused deleted' => simp at deleted
  | created undecided closes =>
    rcases mem_created deleted with same | same | ⟨reply', -, same⟩ | mem
    · cases same
    · cases same
    · cases same
    · cases closes with
      | unfinished fails => cases mem
      | kept ready e => simp at mem
      | removed ready reply' =>
        rcases List.mem_cons.1 mem with same | mem
        · cases same
        · exact (eq_of_heq (Sigma.mk.inj (List.mem_singleton.1 mem)).2).symm

/-- A run works exactly if it has made all of its calls, and nothing but a question for the job has failed. -/
theorem Course.ok_iff (course : Course ns map job limit w o) : o = .ok () ↔ Completed ns map job w := by
  constructor
  · rintro rfl
    generalize good : (Outcome.ok () : Outcome Unit) = o at course
    cases course with
    | unapplied e => cases good
    | uncreated other => cases good
    | blocked conflict refused deleted => cases good
    | @created early last closing _ undecided closes =>
      cases closes with
      | unfinished fails => cases good
      | kept ready e => cases good
      | removed ready reply =>
        obtain rfl : .ok () = reply := Outcome.ofExcept_inj good
        exact ⟨early, _, undecided, ready, rfl⟩
  · rintro ⟨early, found, -, -, rfl⟩
    exact course.of_deleteConfigMap (.ok ()) (List.mem_cons_of_mem _ (List.mem_cons_of_mem _
      (List.mem_append_right _ (List.mem_cons_of_mem _ (List.mem_singleton.2 rfl)))))

/-! ## What is asked for -/

/-- What a run asks for, by what has been done before: the configuration map is deleted after the job. -/
inductive Asking (ns : String) (map : ConfigMap) (job : Job) (h : History Operator) : Call → Prop
  | applyConfigMap : Asking ns map job h (.applyConfigMap map)
  | createJob : Asking ns map job h (.createJob job)
  | getJob : Asking ns map job h (.getJob ns job.metadata.nameAny)
  | deleteJob : Asking ns map job h (.deleteJob ns job.metadata.nameAny)
  | deleteConfigMap (deleted : ⟨.call (.deleteJob ns job.metadata.nameAny), .ok ()⟩ ∈ h) :
    Asking ns map job h (.deleteConfigMap ns map.metadata.nameAny)

theorem createJob_asks {c : Call} (asked : Program.Asks (createJob ns job) h (.call c)) :
    h = [] ∧ c = .createJob job ∨ c = .deleteJob ns job.metadata.nameAny := by
  rcases Action.asks_bind_iff.1 asked with creating | ⟨reply, h₁, h₂, rfl, -, refused⟩
  · obtain ⟨none, same⟩ := Routine.asks_call_iff.1 (Action.asks_attempt_iff.1 creating)
    exact .inl ⟨none, OperatorRequest.call.inj same⟩
  cases reply with
  | ok _ => exact absurd refused Program.not_asks_done
  | error e =>
    dsimp only at refused
    by_cases conflict : e.isConflict = true
    · rw [if_pos conflict] at refused
      rcases Routine.asks_call_bind_iff.1 refused with ⟨-, same⟩ | ⟨_, h₃, -, failed⟩
      · exact .inr (OperatorRequest.call.inj same)
      · exact absurd failed Program.not_asks_done
    · rw [if_neg conflict] at refused
      exact absurd refused Program.not_asks_done

theorem run_asks {c : Call} (home : sso.requireNamespace = .ok ns)
    (asked : Program.Asks (run config mode sso service account) h (.call c)) :
    Asking ns (buildConfigMap sso ns service) (buildJob sso ns service account mode) h c := by
  unfold run at asked
  obtain ⟨ns', home', asked⟩ := Action.asks_ofExcept_bind_iff.1 asked
  obtain rfl := Except.ok.inj (home.symm.trans home')
  rcases Routine.asks_call_bind_iff.1 asked with ⟨-, ⟨⟩⟩ | ⟨_, h₁, rfl, applied⟩
  · exact .applyConfigMap
  rcases Action.asks_bind_iff.1 applied with creating | ⟨_, h₂, h₃, rfl, -, created⟩
  · rcases createJob_asks creating with ⟨-, rfl⟩ | rfl
    · exact .createJob
    · exact .deleteJob
  rcases Action.asks_bind_iff.1 created with waiting | ⟨_, h₄, h₅, rfl, -, complete⟩
  · obtain rfl := Waiting.asks_wait waiting
    exact .getJob
  rcases Routine.asks_call_bind_iff.1 complete with ⟨-, ⟨⟩⟩ | ⟨⟨⟩, h₆, rfl, sweeping⟩
  · exact .deleteJob
  · obtain ⟨-, ⟨⟩⟩ := Routine.asks_call_iff.1 sweeping
    exact .deleteConfigMap (List.mem_cons_of_mem _ (List.mem_append_right h₂ (List.mem_append_right h₄
      List.mem_cons_self)))

theorem Asking.address {c : Call} {address : Address}
    (asking : Asking ns (buildConfigMap sso ns service) (buildJob sso ns service account mode) h c) :
    (c.job? = some address → address = (some ns, jobName sso ns mode)) ∧
      (c.configMap? = some address → address = (some ns, configMapName sso)) := by
  cases asking with
  | applyConfigMap => exact ⟨nofun, fun same => (Option.some.inj same).symm⟩
  | createJob => exact ⟨fun same => (Option.some.inj same).symm, nofun⟩
  | getJob => exact ⟨fun same => (Option.some.inj same).symm, nofun⟩
  | deleteJob => exact ⟨fun same => (Option.some.inj same).symm, nofun⟩
  | deleteConfigMap deleted => exact ⟨nofun, fun same => (Option.some.inj same).symm⟩

/-- **An exposure leaves what it should.**  It works exactly if all of its calls are made and work, the last reply
about the job showing it complete.  A job that was there already is deleted, and the run fails for it, or for the
deletion.  Whatever else stops a run is what it fails with, and leaves the job and the configuration map alone.  All
calls are about one job and one configuration map, and the map is deleted after the job. -/
theorem exposure_residue (home : sso.metadata.namespaceName = some ns) :
    (∀ {h o}, Program.Runs (run config mode sso service account) h o → (∀ t ∈ h, ¬t.IsBreakdown) →
      (o = .ok () ↔
        Completed ns (buildConfigMap sso ns service) (buildJob sso ns service account mode) h.answered) ∧
      (∀ e, e.isConflict = true → ⟨.createJob (buildJob sso ns service account mode), .error e⟩ ∈ h.answered →
        ∃ reply : Except Error Unit,
          h.answered = [⟨.applyConfigMap (buildConfigMap sso ns service), .ok ()⟩,
            ⟨.createJob (buildJob sso ns service account mode), .error e⟩,
            ⟨.deleteJob ns (jobName sso ns mode), .ofExcept reply⟩] ∧
          (∀ e', reply = .error e' → o = .error e') ∧ (reply = .ok () → o = .error e)) ∧
      ∀ e, Thwarted ns (buildConfigMap sso ns service) (buildJob sso ns service account mode)
          (mode.polling config.timeouts).limit h.answered e →
        o = .error e ∧ ∀ x ∈ h.answered, ¬x.1.Deletes) ∧
    ∀ {h c}, Program.Asks (run config mode sso service account) h (.call c) →
      (∀ address, c.job? = some address → address = (some ns, jobName sso ns mode)) ∧
      (∀ address, c.configMap? = some address → address = (some ns, configMapName sso)) ∧
      (c.kind = .deleteConfigMap → ⟨.call (.deleteJob ns (jobName sso ns mode)), .ok ()⟩ ∈ h) := by
  have required : sso.requireNamespace = .ok ns := Sso.requireNamespace_eq_ok_iff.2 home
  refine ⟨fun ran calm => ?_, fun asked => ?_⟩
  · have course := run_course required ran calm
    exact ⟨course.ok_iff, fun e conflict refused => course.of_conflict conflict refused,
      fun e thwarted => course.of_thwarted thwarted⟩
  · have asking := run_asks required asked
    refine ⟨fun address => asking.address.1, fun address => asking.address.2, fun kind => ?_⟩
    cases asking with
    | deleteConfigMap deleted => exact deleted
    | applyConfigMap => cases kind
    | createJob => cases kind
    | getJob => cases kind
    | deleteJob => cases kind

/-! ### A run that works -/

def busy : Error :=
  .cluster (.refused { status := "Failure", message := "try again", reason := "ServerTimeout", code := 504 })

/-- The sample's job, when it is complete. -/
def sampleComplete : Job where
  metadata := { name := some "app-jx-expose" }
  conditions := [{ type := "Complete", status := "True" }]

/-- A run that asks twice for its job: the first question fails for a reason that clears up. -/
def sampleRun : History Operator :=
  [⟨.call (.applyConfigMap (buildConfigMap Provision.sample "jx" "web")), .ok ()⟩,
    ⟨.call (.createJob (buildJob Provision.sample "jx" "web" "account" .expose)), .ok ()⟩, ⟨.clock, (0 : Nat)⟩,
    ⟨.call (.getJob "jx" (jobName Provision.sample "jx" .expose)), .error busy⟩, ⟨.clock, (1 : Nat)⟩,
    ⟨.pause (.ofSeconds 1), ()⟩,
    ⟨.call (.getJob "jx" (jobName Provision.sample "jx" .expose)), .ok (some sampleComplete)⟩,
    ⟨.call (.deleteJob "jx" (jobName Provision.sample "jx" .expose)), .ok ()⟩,
    ⟨.call (.deleteConfigMap "jx" (configMapName Provision.sample)), .ok ()⟩]

theorem sampleRun_complete :
    Program.Runs (run Provision.sampleConfig .expose Provision.sample "web" "account") sampleRun (.ok ()) ∧
      Completed "jx" (buildConfigMap Provision.sample "jx" "web")
        (buildJob Provision.sample "jx" "web" "account" .expose) sampleRun.answered := by
  have ran : Program.Runs (run Provision.sampleConfig .expose Provision.sample "web" "account") sampleRun (.ok ()) :=
    .turn (.turn (.turn (.turn (.turn (.turn (.turn (.turn (.turn (.here _)))))))))
  have calm : ∀ t ∈ sampleRun, ¬t.IsBreakdown := by decide
  exact ⟨ran, ((exposure_residue rfl).1 ran calm).1.1 rfl⟩

end Exposure
end SignOnOperator
