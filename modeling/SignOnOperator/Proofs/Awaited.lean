import SignOnOperator.Proofs.Holdings
import SignOnOperator.Proofs.Vigil
/-!
# What the operator waits for, and which reply decides

The waits of the operator by what they are for (`Awaited`): the call that each makes again and again, the replies that
show that it is so (`Ready`), those that show that it will never be so (`Failed`), and those that decide nothing
(`Undecided`).  The judgement of the program is the same thing said as a function (`judge_eq_ready_iff`,
`judge_eq_fatal_iff`), so that every wait ends with the first reply that decides or comes late, and accordingly.
-/
namespace SignOnOperator

open Kubernetes

/-! ## Replies -/

/-- A call was refused for a reason that clears up on its own. -/
def Error.IsTransient (e : Error) : Prop :=
  ∃ refusal, e = .cluster (.refused refusal) ∧
    (refusal.code ∈ [429, 500, 504] ∨
      refusal.reason ∈ ["Timeout", "ServerTimeout", "TooManyRequests", "InternalError"])

theorem Error.isTransient_iff {e : Error} : e.isTransient = true ↔ e.IsTransient := by
  unfold IsTransient
  cases e with
  | cluster cause =>
    cases cause with
    | refused refusal => simp [isTransient, Refusal.isTransient, Refusal.transientReasons, or_assoc]
    | unreadable _ | unsendable _ => simp [isTransient]
  | _ => simp [isTransient]

theorem Verdict.ofError_eq_notReady_iff {e : Error} : ofError e = .notReady ↔ e.IsTransient := by
  rw [← Error.isTransient_iff]
  unfold ofError
  cases e.isTransient <;> simp

theorem Verdict.ofError_of_not_isTransient {e : Error} (lasting : ¬e.IsTransient) : ofError e = .fatal e :=
  if_neg fun h => lasting (Error.isTransient_iff.1 h)

/-- The condition that tells how a job ended: the first one that holds of those that do. -/
def Kubernetes.Job.Ended (job : Job) (c : JobCondition) : Prop :=
  ∃ before after, job.conditions = before ++ c :: after ∧ (c.status = "True" ∧ c.type ∈ ["Complete", "Failed"]) ∧
    ∀ c' ∈ before, ¬(c'.status = "True" ∧ c'.type ∈ ["Complete", "Failed"])

theorem Kubernetes.Job.ended_iff {job : Job} {c : JobCondition} :
    job.Ended c ↔
      (job.conditions.find? fun c => c.status = "True" && (c.type = "Complete" || c.type = "Failed")) = some c := by
  rw [List.find?_eq_some_iff_append]
  simp only [Job.Ended, Bool.and_eq_true, Bool.or_eq_true, decide_eq_true_eq, List.mem_cons, List.not_mem_nil, or_false,
    Bool.not_eq_true', ← Bool.not_eq_true]
  exact ⟨fun ⟨before, after, split, holds, first⟩ => ⟨holds, before, after, split, first⟩,
    fun ⟨holds, before, after, split, first⟩ => ⟨before, after, split, holds, first⟩⟩

/-! ## The waits -/

/-- What a wait is for: that a service is there or gone, that the pods of some labels run, all of them accepted, that a
job is complete, or that a deployment has settled. -/
inductive Awaited where
  | service (ns name : String) (present : Bool)
  | pods (ns selector : String)
  | currentPods (ns selector : String) (accepts : Pod → Bool)
  | job (ns name : String)
  | deployment (ns name : String)

namespace Awaited

def wait (polling : Polling) : Awaited → Routine Unit
  | service ns name present => Waiting.forService ns name present polling
  | pods ns selector => Waiting.forPods ns selector polling
  | currentPods ns selector accepts => Waiting.forCurrentPods ns selector accepts polling
  | job ns name => Waiting.forJob ns name polling
  | deployment ns name => Waiting.forDeployment ns name polling

/-- How the wait is called when time is up. -/
def what : Awaited → String
  | service ns name present =>
    let state := if present then "exist" else "be deleted"
    s!"service {ns}/{name} to {state}"
  | pods ns selector | currentPods ns selector _ => s!"pods {selector} in {ns} to be running"
  | job ns name => s!"job {ns}/{name} to complete"
  | deployment ns name => s!"deployment {ns}/{name} to stabilize"

/-- What is asked. -/
def call : Awaited → Call
  | service ns name _ => .getService ns name
  | pods ns selector | currentPods ns selector _ => .listPods ns selector
  | job ns name => .getJob ns name
  | deployment ns name => .getDeployment ns name

/-- What was found is what is waited for. -/
def Ready : (a : Awaited) → a.call.Result → Prop
  | service _ _ present, (found : Option Service) => found.isSome = present
  | pods _ _, (found : List Pod) => found ≠ [] ∧ ∀ pod ∈ found, pod.phase = "Running"
  | currentPods _ _ accepts, (found : List Pod) =>
    found ≠ [] ∧ ∀ pod ∈ found, accepts pod = true ∧ pod.phase = "Running"
  | job _ _, (found : Option Job) => ∃ job c, found = some job ∧ job.Ended c ∧ c.type = "Complete"
  | deployment _ _, (found : Option Deployment) => ∃ d, found = some d ∧ d.IsSettled

/-- What was found shows that it will never be so, and why. -/
def Failed : (a : Awaited) → a.call.Result → Error → Prop
  | job _ _, (found : Option Job), e =>
    ∃ job c, found = some job ∧ job.Ended c ∧ c.type = "Failed" ∧
      e = .waitFailed ("job " ++ job.metadata.name.getD "") (c.message.getD "job failed")
  | deployment ns name, (found : Option Deployment), e =>
    found = none ∧ e = .waitFailed s!"deployment {ns}/{name}" "deployment was deleted"
  | service _ _ _, _, _ | pods _ _, _, _ | currentPods _ _ _, _, _ => False

/-- The reply decides nothing: the call failed for a reason that clears up on its own, or what was found is neither
what is waited for nor shows that it will never be so. -/
def Undecided (a : Awaited) : Except Error a.call.Result → Prop
  | .ok found => ¬a.Ready found ∧ ∀ e, ¬a.Failed found e
  | .error e => e.IsTransient

/-! ## The judgement of the program -/

def judge : (a : Awaited) → a.call.Result → Verdict
  | service _ _ present => fun (found : Option Service) => .readyIf (found.isSome == present)
  | pods _ _ => fun (found : List Pod) => .readyIf (Waiting.podsRunning (fun _ => true) found)
  | currentPods _ _ accepts => fun (found : List Pod) => .readyIf (Waiting.podsRunning accepts found)
  | job _ _ => fun (found : Option Job) =>
    match found with
    | some found => Waiting.jobVerdict found
    | none => .notReady
  | deployment ns name => fun (found : Option Deployment) =>
    match found with
    | some d => .readyIf (Waiting.deploymentStable d)
    | none => .fatal (.waitFailed s!"deployment {ns}/{name}" "deployment was deleted")

theorem wait_eq (a : Awaited) (polling : Polling) :
    a.wait polling = SignOnOperator.wait a.what polling (Waiting.ask a.call a.judge) := by
  cases a with
  | service | pods | currentPods | job | deployment => rfl

end Awaited

theorem Verdict.eq_ready_of_conclusion {v : Verdict} {what : String} {limit : Duration}
    (good : v.conclusion what limit = .ok ()) : v = .ready := by
  cases v with
  | ready => rfl
  | notReady => cases good
  | fatal e => cases good

theorem Verdict.readyIf_ne_fatal {condition : Bool} {e : Error} : readyIf condition ≠ .fatal e := by
  cases condition <;> nofun

theorem Waiting.jobVerdict_eq_ready_iff {job : Job} :
    jobVerdict job = .ready ↔ ∃ c, job.Ended c ∧ c.type = "Complete" := by
  unfold jobVerdict
  simp only [Job.ended_iff]
  cases found : job.conditions.find? fun c => c.status = "True" && (c.type = "Complete" || c.type = "Failed") with
  | none => simp
  | some c =>
    by_cases complete : c.type = "Complete"
    · simp [complete]
    · simp [complete]

theorem Waiting.jobVerdict_eq_fatal_iff {job : Job} {e : Error} :
    jobVerdict job = .fatal e ↔
      ∃ c, job.Ended c ∧ c.type = "Failed" ∧
        e = .waitFailed ("job " ++ job.metadata.name.getD "") (c.message.getD "job failed") := by
  unfold jobVerdict
  simp only [Job.ended_iff]
  cases found : job.conditions.find? fun c => c.status = "True" && (c.type = "Complete" || c.type = "Failed") with
  | none => simp
  | some c =>
    have kind := List.find?_some found
    simp only [Bool.and_eq_true, Bool.or_eq_true, decide_eq_true_eq] at kind
    rcases kind with ⟨-, complete | failed⟩
    · simp [complete]
    · simp [failed, eq_comm]

namespace Awaited

theorem judge_eq_ready_iff (a : Awaited) (found : a.call.Result) : a.judge found = .ready ↔ a.Ready found := by
  cases a with
  | service _ _ present =>
    change Option Service at found
    exact Waiting.readyIf_eq_ready_iff.trans beq_iff_eq
  | pods _ _ =>
    refine Waiting.readyIf_eq_ready_iff.trans (Waiting.podsRunning_iff.trans ?_)
    simp [Ready]
  | currentPods _ _ accepts => exact Waiting.readyIf_eq_ready_iff.trans Waiting.podsRunning_iff
  | job _ _ =>
    change Option Job at found
    cases found with
    | none => simp [judge, Ready]
    | some found => simp [judge, Ready, Waiting.jobVerdict_eq_ready_iff]
  | deployment _ _ =>
    change Option Deployment at found
    cases found with
    | none => simp [judge, Ready]
    | some d =>
      have settled : d.IsSettled ↔ Waiting.deploymentStable d = true :=
        ⟨fun h => Waiting.deploymentStable_iff.2 ⟨h.observed, h.replicas⟩,
          fun h => ⟨(Waiting.deploymentStable_iff.1 h).1, (Waiting.deploymentStable_iff.1 h).2⟩⟩
      simp [judge, Ready, Waiting.readyIf_eq_ready_iff, settled]

theorem judge_eq_fatal_iff (a : Awaited) (found : a.call.Result) (e : Error) :
    a.judge found = .fatal e ↔ a.Failed found e := by
  cases a with
  | service _ _ _ => exact iff_of_false Verdict.readyIf_ne_fatal id
  | pods _ _ => exact iff_of_false Verdict.readyIf_ne_fatal id
  | currentPods _ _ _ => exact iff_of_false Verdict.readyIf_ne_fatal id
  | job _ _ =>
    change Option Job at found
    cases found with
    | none => simp [judge, Failed]
    | some found => simp [judge, Failed, Waiting.jobVerdict_eq_fatal_iff]
  | deployment _ _ =>
    change Option Deployment at found
    cases found with
    | none => simp [judge, Failed, eq_comm]
    | some d => simp [judge, Failed, Verdict.readyIf_ne_fatal]

theorem ofReply_eq_notReady_iff (a : Awaited) (reply : Except Error a.call.Result) :
    Verdict.ofReply a.judge reply = .notReady ↔ a.Undecided reply := by
  cases reply with
  | error e => exact Verdict.ofError_eq_notReady_iff
  | ok found =>
    have ready := a.judge_eq_ready_iff found
    have fatal := a.judge_eq_fatal_iff found
    change a.judge found = .notReady ↔ ¬a.Ready found ∧ ∀ e, ¬a.Failed found e
    simp only [← ready, ← fatal]
    cases a.judge found <;> simp

theorem ready_of_ofReply (a : Awaited) {reply : Except Error a.call.Result}
    (ready : Verdict.ofReply a.judge reply = .ready) : ∃ found, reply = .ok found ∧ a.Ready found := by
  cases reply with
  | error e =>
    by_cases transient : e.IsTransient
    · cases (Verdict.ofError_eq_notReady_iff.2 transient).symm.trans ready
    · cases (Verdict.ofError_of_not_isTransient transient).symm.trans ready
  | ok found => exact ⟨found, rfl, (a.judge_eq_ready_iff found).1 ready⟩

end Awaited

/-! ## A cluster that replies one way or the other -/

/-- The replies to the calls, one after another, and how long each takes.  Nothing else is asked for in a wait. -/
structure Replies where
  result : Nat → (c : Call) → Except Error c.Result
  delay : Nat → Nat
  other : (r : OperatorRequest) → r.Reply

/-- The time, and the calls so far, each with the time when it was made. -/
structure Lookout where
  now : Nat
  calls : List (Nat × Call) := []

/-- Answers each call with its reply.  Time is ideal, as it is for `Watch.handle`. -/
def Replies.handle (replies : Replies) (w : Lookout) : (r : OperatorRequest) → r.Reply × Lookout
  | .call c =>
    (.ofExcept (replies.result w.calls.length c),
      { now := w.now + replies.delay w.calls.length, calls := w.calls ++ [(w.now, c)] })
  | .clock => (w.now, w)
  | .pause d => ((), { w with now := w.now + d.nanoseconds })
  | r => (replies.other r, w)

theorem Replies.runWith_ask (replies : Replies) {c : Call} (judge : c.Result → Verdict) (w : Lookout) :
    Program.runWith (I := Operator) replies.handle (Waiting.ask c judge) w =
      (.ok (.ofReply judge (replies.result w.calls.length c)),
        { now := w.now + replies.delay w.calls.length, calls := w.calls ++ [(w.now, c)] }) := by
  refine Action.runWith_bind (Action.runWith_attempt ?_) _
  rfl

namespace Vigil

/-- The first `n` questions of a wait, and when they are asked. -/
def calls (v : Vigil) (c : Call) (n : Nat) : List (Nat × Call) := (List.range n).map fun i => (v.asked i, c)

theorem served_lookout (polling : Polling) (start : Nat) (replies : Replies) {c : Call}
    (judge : c.Result → Verdict) :
    let v : Vigil := ⟨polling, start, replies.delay⟩
    v.Served (I := Operator) replies.handle (Waiting.ask c judge)
      (fun i => .ofReply judge (replies.result i c)) (fun i => ⟨v.asked i, v.calls c i⟩)
      (fun i => ⟨v.answered i, v.calls c (i + 1)⟩) := by
  intro v
  have length (i : Nat) : (v.calls c i).length = i := by simp [calls]
  refine ⟨rfl, fun i => ?_, fun _ => rfl, fun _ => rfl⟩
  rw [replies.runWith_ask, length]
  simp [calls, List.range_succ, answered, v]

end Vigil

/-- **Every wait decides on the right reply.**  It asks at the times of its timetable, and ends with the first reply
that is not undecided or that comes at the deadline or later: well exactly if that reply is what is waited for, with
the failure that it shows, with the error that it is, or, if it decides nothing either, because time is up. -/
theorem waits_decide (a : Awaited) (polling : Polling) (brisk : 0 < polling.interval.nanoseconds) (replies : Replies)
    (start : Nat) :
    let v : Vigil := ⟨polling, start, replies.delay⟩
    let reply (i : Nat) := replies.result i a.call
    ∃ n outcome,
      Program.runWith (I := Operator) replies.handle (a.wait polling) { now := start } =
        (outcome, { now := v.answered n, calls := v.calls a.call (n + 1) }) ∧
      (∀ i < n, a.Undecided (reply i) ∧ v.answered i < v.deadline) ∧
      (a.Undecided (reply n) → v.deadline ≤ v.answered n) ∧
      (outcome = .ok () ↔ ∃ found, reply n = .ok found ∧ a.Ready found) ∧
      (∀ found e, reply n = .ok found → a.Failed found e → outcome = .error e) ∧
      (∀ e, reply n = .error e → ¬e.IsTransient → outcome = .error e) ∧
      (a.Undecided (reply n) → outcome = .error (.timeout a.what polling.limit)) := by
  intro v reply
  obtain ⟨n, ends⟩ := v.exists_endsAt brisk fun i => .ofReply a.judge (reply i)
  have run := (Vigil.served_lookout polling start replies a.judge).runWith_wait ends brisk a.what
  rw [← a.wait_eq] at run
  refine ⟨n, (Verdict.ofReply a.judge (reply n)).conclusion a.what polling.limit, run, fun i hi => ?_,
    fun undecided => ?_, ⟨fun good => ?_, ?_⟩, ?_, ?_, fun undecided => ?_⟩
  · exact (ends.before i hi).imp_left (a.ofReply_eq_notReady_iff _).1
  · exact ends.last ((a.ofReply_eq_notReady_iff _).2 undecided)
  · exact a.ready_of_ofReply (Verdict.eq_ready_of_conclusion good)
  · rintro ⟨found, replied, ready⟩
    rw [replied, Verdict.ofReply, (a.judge_eq_ready_iff found).2 ready, Verdict.conclusion]
  · intro found e replied failed
    rw [replied, Verdict.ofReply, (a.judge_eq_fatal_iff found e).2 failed, Verdict.conclusion]
  · intro e replied lasting
    rw [replied, Verdict.ofReply, Verdict.ofError_of_not_isTransient lasting, Verdict.conclusion]
  · rw [(a.ofReply_eq_notReady_iff _).2 undecided, Verdict.conclusion]

/-! ### A job that fails late -/

def failedJob : Job where
  metadata := { name := some "app" }
  conditions := [{ type := "Complete", status := "False" }, { type := "Failed", status := "True" }]

/-- The server is busy, then there is no job yet, then the job has failed.  Every reply takes 300 milliseconds. -/
def lateFailure : Replies where
  result
    | 0, .getJob _ _ => .error (.cluster (.refused ⟨"Failure", "busy", "TooManyRequests", 429⟩))
    | 1, .getJob _ _ => .ok (none : Option Job)
    | _, .getJob _ _ => .ok (some failedJob)
    | _, _ => .error (.io "not asked for")
  delay _ := 300000000
  other
    | .call _ => .panic
    | .clock => (0 : Nat)
    | .draw => fun _ => ⟨0, alphabetSize_pos⟩
    | .acquire _ => false
    | .enterCell => none
    | .pause _ | .release _ | .count _ | .fillCell _ | .leaveCell => ()

/-- The last reply is judged, although it comes after the deadline. -/
theorem lateFailure_decides :
    0 < (Duration.ofSeconds 1).nanoseconds ∧
      Program.runWith (I := Operator) lateFailure.handle (Waiting.forJob "jx" "app" ⟨.ofSeconds 1, .ofSeconds 2⟩)
          { now := 0 } =
        (.error (.waitFailed "job app" "job failed"),
          { now := 2300000000
            calls :=
              [(0, .getJob "jx" "app"), (1300000000, .getJob "jx" "app"), (2000000000, .getJob "jx" "app")] }) := by
  have busy : (Awaited.job "jx" "app").Undecided (lateFailure.result 0 (.getJob "jx" "app")) :=
    ⟨_, rfl, .inl (by decide)⟩
  have absent : (Awaited.job "jx" "app").Undecided (lateFailure.result 1 (.getJob "jx" "app")) :=
    (Awaited.ofReply_eq_notReady_iff _ _).1 rfl
  have failed : (Awaited.job "jx" "app").Failed (some failedJob) (.waitFailed "job app" "job failed") :=
    (Awaited.judge_eq_fatal_iff _ _ _).1 rfl
  obtain ⟨n, outcome, run, before, last, -, shown, -, -⟩ :=
    waits_decide (.job "jx" "app") ⟨.ofSeconds 1, .ofSeconds 2⟩ (by decide) lateFailure 0
  rcases n with - | - | - | n
  · exact absurd (last busy) (by decide)
  · exact absurd (last absent) (by decide)
  · cases shown _ _ rfl failed
    exact ⟨by decide, run⟩
  · exact absurd failed ((before 2 (by omega)).1.2 _)

end SignOnOperator
