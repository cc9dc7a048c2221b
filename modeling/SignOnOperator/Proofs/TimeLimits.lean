import SignOnOperator.Proofs.Timing
/-!
# Time limits

A reconciliation that runs alone comes to its end, however its calls are answered and however long each of them takes,
and spends no more time in pauses than the waits on its way may take: those of a provisioning, or that of a clean-up.
-/
namespace SignOnOperator

variable {supply : Supply}

/-! ## The parts of the work -/

namespace Timeouts

/-- Every wait makes pauses between its questions. -/
structure Brisk (timeouts : Timeouts) : Prop where
  service : 0 < timeouts.service.interval.nanoseconds
  pods : 0 < timeouts.pods.interval.nanoseconds
  deployment : 0 < timeouts.deployment.interval.nanoseconds
  expose : 0 < timeouts.expose.interval.nanoseconds
  cleanup : 0 < timeouts.cleanup.interval.nanoseconds

/-- The limits of all waits of a provisioning, which waits for pods twice. -/
def provisioning (timeouts : Timeouts) : Nat :=
  timeouts.service.limit.nanoseconds + 2 * timeouts.pods.limit.nanoseconds + timeouts.expose.limit.nanoseconds +
    timeouts.deployment.limit.nanoseconds

/-- What the work on an SSO may spend in pauses. -/
def allowance (timeouts : Timeouts) (sso : Sso) : Nat :=
  if sso.metadata.isDeleted then timeouts.cleanup.limit.nanoseconds else timeouts.provisioning

/-- What the work on any SSO may spend in pauses. -/
def utmost (timeouts : Timeouts) : Nat := max timeouts.cleanup.limit.nanoseconds timeouts.provisioning

theorem allowance_le_utmost (timeouts : Timeouts) (sso : Sso) : timeouts.allowance sso ≤ timeouts.utmost := by
  unfold allowance utmost
  split
  · exact Nat.le_max_left _ _
  · exact Nat.le_max_right _ _

end Timeouts

section Parts

variable {config : Config} {sso : Sso} {client : OidcClient} (brisk : config.timeouts.Brisk)
include brisk

open Timely

namespace Proxy

theorem deploy_timely {cookieSecret : String} :
    Timely supply (config.timeouts.service.limit.nanoseconds + config.timeouts.pods.limit.nanoseconds)
      (deploy config sso client cookieSecret) := by
  refine ofExcept_bind fun _ => steady_bind call fun _ => require_bind fun _ => ofExcept_bind fun bundle => ?_
  refine bind_steady ?_ fun _ => done _
  refine steady_bind call fun _ => steady_bind call fun _ => steady_bind call fun _ => ?_
  exact action_bind (Waiting.wait_timely brisk.service) fun _ => Waiting.wait_timely brisk.pods

theorem update_timely {cookieSecret : String} {bundle : Bundle} :
    Timely supply (config.timeouts.deployment.limit.nanoseconds + config.timeouts.pods.limit.nanoseconds)
      (update config sso client cookieSecret bundle) := by
  refine ofExcept_bind fun _ => ofExcept_bind fun _ => steady_bind call fun _ => steady_bind call fun _ => ?_
  refine action_bind (Waiting.wait_timely brisk.deployment) fun _ => ?_
  exact bind_steady (Waiting.wait_timely brisk.pods) fun _ => done _

end Proxy

omit brisk in
theorem Exposure.createJob_timely {ns : String} {job : Kubernetes.Job} : Timely supply 0 (createJob ns job) := by
  refine steady_bind call.attempt fun created => ?_
  cases created with
  | ok _ => exact done _
  | error e =>
    by_cases conflict : e.isConflict = true
    · simp only [conflict, if_true]
      exact steady_bind call fun _ => done _
    · simp only [conflict]
      exact done _

theorem Exposure.run_timely (mode : Mode) {service account : String} :
    Timely supply (mode.polling config.timeouts).limit.nanoseconds (run config mode sso service account) := by
  have interval : 0 < (mode.polling config.timeouts).interval.nanoseconds := by
    cases mode with
    | expose => exact brisk.expose
    | cleanup => exact brisk.cleanup
  refine ofExcept_bind fun _ => steady_bind call fun _ => steady_bind createJob_timely fun _ => ?_
  exact bind_steady (Waiting.wait_timely interval) fun _ => steady_bind call fun _ => call

namespace Provision

theorem publish_timely {ns account service : String} :
    Timely supply config.timeouts.expose.limit.nanoseconds (publish config sso ns account service) := by
  unfold publish
  split
  · exact (done _).mono (Nat.zero_le _)
  · exact mapError (Exposure.run_timely brisk .expose)

theorem arrange_timely {ns account cookieSecret : String} :
    Timely supply config.timeouts.provisioning (arrange config sso ns account cookieSecret client) := by
  have arranged : Timely supply _ (arrange config sso ns account cookieSecret client) :=
    action_bind (Proxy.deploy_timely brisk).mapError fun bundle =>
      action_bind (publish_timely brisk) fun _ =>
      steady_bind (of_confined (resolveHosts_confined _ _) (by decide)).mapError fun _ =>
      steady_bind call.mapError fun _ => bind_steady (Proxy.update_timely brisk).mapError fun _ => done _
  refine arranged.mono ?_
  unfold Timeouts.provisioning
  omega

theorem run_timely :
    Timely supply config.timeouts.provisioning (run config sso) := by
  rw [run_eq]
  refine steady_bind (of_confined (prepare_confined _ _) (by decide)) fun g => ?_
  refine steady_bind call.mapError fun client => bind_steady (attempt ?_) fun result => ?_
  · rw [configure_eq]
    exact bind_steady (arrange_timely brisk) fun _ => call.mapError
  · cases result with
    | ok _ => exact done _
    | error e => exact steady_bind (of_confined (compensate_confined _) (by decide)) fun _ => done _

end Provision

theorem Finalizer.cleanup_timely :
    Timely supply config.timeouts.cleanup.limit.nanoseconds (cleanup config sso) := by
  have withdrawn : ∀ ns, Timely supply config.timeouts.cleanup.limit.nanoseconds (conceal config sso ns) := by
    intro ns
    unfold conceal
    split
    · exact (done _).mono (Nat.zero_le _)
    · exact attempt (mapError (steady_bind call fun account => Exposure.run_timely brisk .cleanup))
  have undone : ∀ ns, Timely supply config.timeouts.cleanup.limit.nanoseconds (undo config sso ns) := by
    intro ns
    unfold undo
    split
    · rw [teardown_eq]
      refine bind_steady (withdrawn ns) fun _ => ?_
      exact steady_bind (of_confined (dispose_confined _ _) (by decide)) fun _ => done _
    · exact (done _).mono (Nat.zero_le _)
  rw [cleanup_eq]
  split
  · refine ofExcept_bind fun ns => bind_steady (undone ns) fun result => ?_
    refine steady_bind (ofExcept_bind fun _ => call) fun _ => ?_
    cases result with
    | ok _ => exact steady_bind count fun _ => done _
    | error e => exact done _
  · exact (done _).mono (Nat.zero_le _)

namespace Reconcile

theorem apply_timely :
    Timely supply config.timeouts.provisioning (apply config sso) := by
  unfold apply
  split
  · exact (done _).mono (Nat.zero_le _)
  · refine steady_bind (of_confined (Finalizer.ensure_confined sso) (by decide)) fun _ => ?_
    exact bind_steady (Provision.run_timely brisk) fun _ => steady_bind count fun _ => done _

/-- The work on an SSO keeps to what it may spend. -/
theorem pursue_timely : Timely supply (config.timeouts.allowance sso) (pursue config sso) := by
  unfold pursue demandOf Timeouts.allowance
  cases sso.metadata.isDeleted with
  | true => exact Finalizer.cleanup_timely brisk
  | false => exact apply_timely brisk

theorem admitted_timely (key : SsoKey) : Timely supply config.timeouts.utmost (admitted config key) := by
  refine steady_bind call fun found => ?_
  change Option Sso at found
  cases found with
  | none => exact (done _).mono (Nat.zero_le _)
  | some sso => exact (pursue_timely brisk).mono (config.timeouts.allowance_le_utmost sso)

theorem run_timely (event : Sso) : Timely supply config.timeouts.utmost (run config event) := by
  rw [run_eq]
  refine Timely.ask nofun fun _ => ?_
  unfold entrance
  cases SsoKey.ofSso event with
  | error e => exact (done _).mono (Nat.zero_le _)
  | ok key =>
    refine Timely.ask nofun fun free => ?_
    cases free with
    | true =>
      have left : ∀ o, Timely supply 0 (leaving key o) := fun o => Timely.ask nofun fun _ => done o
      exact Timely.bind (admitted_timely brisk key) left
    | false =>
      have dropped : Timely supply 0 (threshold config key false) := Timely.ask nofun fun _ => done _
      exact dropped.mono (Nat.zero_le _)

end Reconcile

end Parts

/-! ## A whole reconciliation -/

namespace Reconcile

variable {config : Config} {event : Sso} {h : History Operator} {o : Outcome Followup}

/-- What a reconciliation asks for without its key. -/
def outside : List RequestKind := [.count .reconciled, .acquire, .count .duplicate, .release]

theorem moving (kinds : ∀ t ∈ h, t.kind ∈ outside) : ∀ t ∈ h, t.kind ≠ .pause :=
  fun t ht pauses => absurd (kinds t ht) (by rw [pauses]; decide)

theorem opening_outside (key : SsoKey) (free : Bool) : ∀ t ∈ opening key free, t.kind ∈ outside := by
  simp [opening, outside, Turn.kind]

theorem release_outside (key : SsoKey) : ∀ t ∈ [(⟨.release key, ()⟩ : Turn Operator)], t.kind ∈ outside := by
  simp [outside, Turn.kind]

/-- The courses of a reconciliation: it has not had its key, or it has read its SSO and found none, or it has done what
the SSO asks for. -/
inductive Course (config : Config) (event : Sso) : History Operator → Outcome Followup → Prop where
  | idle {h : History Operator} {o : Outcome Followup} (kinds : ∀ t ∈ h, t.kind ∈ outside) : Course config event h o
  | unread {key : SsoKey} {found : Outcome (Option Sso)} {o : Outcome Followup} (own : SsoKey.ofSso event = .ok key)
      (none : ∀ sso, found ≠ .ok (some sso)) :
      Course config event
        (opening key true ++ ⟨.call (.getSso key.namespaceName key.name), found⟩ :: [⟨.release key, ()⟩]) o
  | read {key : SsoKey} {sso : Sso} {h : History Operator} {o : Outcome Followup} (own : SsoKey.ofSso event = .ok key)
      (ran : Program.Runs (pursue config sso) h o) :
      Course config event
        (opening key true ++
          ⟨.call (.getSso key.namespaceName key.name), .ok (some sso)⟩ :: (h ++ [⟨.release key, ()⟩])) o

theorem course (run : Program.Runs (Reconcile.run config event) h o) : Course config event h o := by
  have stage := (Stage.start config event).later run
  rw [List.nil_append] at stage
  generalize hp : (Program.done o : Program Operator (Outcome Followup)) = p at stage
  cases stage with
  | homeless _ => exact .idle (by decide)
  | dropped _ => exact .idle (by simp [opening, outside, Turn.kind])
  | fresh | waiting _ | refused _ | working _ _ | leaving _ _ => cases hp
  | @ended key h o hk ran =>
    cases hp
    obtain ⟨found, h', rfl, rest⟩ := Program.runs_ask_iff.1 ran
    rw [List.append_assoc, List.cons_append]
    rcases found with (- | sso) | e | -
    · rw [(Program.runs_done_iff.1 rest).1]
      refine .unread hk ?_
      rintro sso ⟨⟩
    · exact .read hk rest
    · rw [(Program.runs_done_iff.1 rest).1]
      refine .unread hk ?_
      rintro sso ⟨⟩
    · rw [(Program.runs_done_iff.1 rest).1]
      refine .unread hk ?_
      rintro sso ⟨⟩

namespace Course

/-- An SSO that a reconciliation has read is the one that it has worked on. -/
theorem read_of_mem (course : Course config event h o) {ns name : String} {sso : Sso}
    (ht : ⟨.call (.getSso ns name), .ok (some sso)⟩ ∈ h) :
    ∃ key h', Program.Runs (pursue config sso) h' o ∧
      h = opening key true ++
        ⟨.call (.getSso key.namespaceName key.name), .ok (some sso)⟩ :: (h' ++ [⟨.release key, ()⟩]) := by
  have foreign : ∀ {kinds : List RequestKind} {h : History Operator}, (∀ t ∈ h, t.kind ∈ kinds) →
      .call .getSso ∉ kinds → ⟨.call (.getSso ns name), .ok (some sso)⟩ ∉ h :=
    fun hh hk ht => hk (hh _ ht)
  cases course with
  | idle kinds => exact absurd ht (foreign kinds (by decide))
  | @unread key found _ own none =>
    rcases List.mem_append.1 ht with before | rest
    · exact absurd before (foreign (opening_outside key true) (by decide))
    · rcases List.mem_cons.1 rest with same | last
      · cases same
        exact absurd rfl (none sso)
      · exact absurd last (foreign (release_outside key) (by decide))
  | @read key sso' h _ own ran =>
    rcases List.mem_append.1 ht with before | rest
    · exact absurd before (foreign (opening_outside key true) (by decide))
    · rcases List.mem_cons.1 rest with same | inside
      · cases same
        exact ⟨key, h, ran, rfl⟩
      · rcases List.mem_append.1 inside with worked | last
        · exact absurd worked (foreign ((pursue_confined config sso').turns ran) (by decide))
        · exact absurd last (foreign (release_outside key) (by decide))

/-- A reconciliation that has read no SSO has made no pause. -/
theorem steady (course : Course config event h o)
    (unread : ∀ ns name sso, ⟨.call (.getSso ns name), .ok (some sso)⟩ ∉ h) : ∀ t ∈ h, t.kind ≠ .pause := by
  cases course with
  | idle kinds => exact moving kinds
  | @unread key found _ own none =>
    refine List.forall_mem_append.2 ⟨moving (opening_outside key true), List.forall_mem_cons.2 ⟨?_, ?_⟩⟩
    · exact show RequestKind.call .getSso ≠ .pause from nofun
    · exact moving (release_outside key)
  | read own ran => exact absurd (List.mem_append_right _ List.mem_cons_self) (unread _ _ _)

end Course
end Reconcile

/-- **Every reconciliation ends in time.**  While nobody else is loading the cookie secret, a reconciliation comes to
its end, whatever its calls come to and however long each of them takes.  It never gives up while it might still ask:
after each pause it asks again.  Apart from its calls it takes no longer than the waits on its way may take. -/
theorem reconcile_ends_in_time (config : Config) (brisk : config.timeouts.Brisk) (supply : Supply) (event : Sso)
    (shared : Shared) (now : Nat) (free : shared.cell ≠ .loading) :
    ∃ h o ended, Program.Runs (Reconcile.run config event) h o ∧ Attended supply ⟨shared, now, 0, 0⟩ h ended ∧
      (∀ h' q m, Program.Leads (Reconcile.run config event) h' q → Attended supply ⟨shared, now, 0, 0⟩ h' m →
        h' <+: h) ∧
      (∀ d before later, h = before ++ ⟨.pause d, ()⟩ :: later →
        ∃ c outcome rest, later = ⟨.call c, outcome⟩ :: rest) ∧
      (∀ ns name sso, ⟨.call (.getSso ns name), .ok (some sso)⟩ ∈ h →
        ended.now ≤ now + ended.delays + config.timeouts.allowance sso) ∧
      ((∀ ns name sso, ⟨.call (.getSso ns name), .ok (some sso)⟩ ∉ h) → ended.now = now + ended.delays) := by
  obtain ⟨h, o, ended, run, attended⟩ :=
    exists_attended supply ⟨shared, now, 0, 0⟩ (Reconcile.run_shares config event) fun _ => free
  refine ⟨h, o, ended, run, attended, ?_, ?_, ?_, ?_⟩
  · exact fun h' q m led attended' => attended'.prefix_of_runs led run attended
  · rintro d before later rfl
    rw [List.append_cons] at run attended
    obtain ⟨p, led, rest⟩ := Program.leads_append_iff.1 run
    obtain ⟨m, attended₁, -⟩ := Attended.append_iff.1 attended
    obtain ⟨c, next, rfl⟩ := (Reconcile.run_timely brisk event).resumes led attended₁
    obtain ⟨outcome, h', rfl, -⟩ := Program.runs_ask_iff.1 rest
    exact ⟨c, outcome, h', rfl⟩
  · intro ns name sso found
    obtain ⟨key, h', ran, rfl⟩ := (Reconcile.course run).read_of_mem found
    -- Only the work on the SSO makes pauses.
    obtain ⟨_, opened, rest⟩ := Attended.append_iff.1 attended
    cases rest with
    | turn answered rest =>
      obtain ⟨_, worked, left⟩ := Attended.append_iff.1 rest
      have before := opened.elapsed (Reconcile.moving (Reconcile.opening_outside key true))
      have reading := answered.elapsed (show RequestKind.call .getSso ≠ .pause from nofun)
      have spent := (Reconcile.pursue_timely brisk).within ran worked
      have after := left.elapsed (Reconcile.moving (Reconcile.release_outside key))
      dsimp only at before
      omega
  · intro unread
    have spent := attended.elapsed ((Reconcile.course run).steady unread)
    exact spent

/-! ### A clean-up that waits for a job in vain -/

def sampleMarked : Sso where
  metadata := {
    name := some "app", namespaceName := some "jx", finalizers := some [Finalizer.name]
    deletionTimestamp := some "2024-01-01T00:00:00Z" }
  spec := { Provision.sample.spec with skipExposeService := false }
  status := some { clientId := some "client", initialized := true }

/-- Every call takes a second.  The calls up to the job work, and the look-ups of the job fail for ever for a reason
that may clear up. -/
def stalled : Supply where
  outcome _
    | .getSso _ _ => .ok (some sampleMarked)
    | .ensureClusterRoleBinding _ _ => .ok "account"
    | .applyConfigMap _ => .ok ()
    | .createJob _ => .ok ()
    | _ => .error (.cluster (.refused ⟨"Failure", "later", "TooManyRequests", 429⟩))
  delay _ := 1000000000
  choices _ _ := ⟨0, alphabetSize_pos⟩

theorem stalled_ends_in_time :
    ∃ h o ended, Program.Runs (Reconcile.run Provision.sampleConfig Provision.sample) h o ∧
      Attended stalled ⟨{}, 0, 0, 0⟩ h ended ∧ ended.now ≤ 0 + ended.delays + 30000000000 := by
  obtain ⟨h, o, ended, run, attended, whole, -, spent, -⟩ := reconcile_ends_in_time Provision.sampleConfig
    ⟨by decide, by decide, by decide, by decide, by decide⟩ stalled Provision.sample {} 0 nofun
  let begun : History Operator :=
    Reconcile.opening sampleKey true ++ [⟨.call (.getSso "jx" "app"), .ok (some sampleMarked)⟩]
  obtain ⟨p, led⟩ : ∃ p, Program.Leads (Reconcile.run Provision.sampleConfig Provision.sample) begun p :=
    ⟨_, .turn (.turn (.turn (.here _)))⟩
  obtain ⟨m, reached⟩ : ∃ m, Attended stalled ⟨{}, 0, 0, 0⟩ begun m :=
    ⟨_, .turn ⟨_, rfl, rfl⟩ (.turn ⟨_, ⟨rfl, rfl⟩, rfl⟩ (.turn ⟨rfl, rfl⟩ (.none _)))⟩
  have found := (whole begun p m led reached).subset (List.mem_append_right _ (List.mem_singleton_self _))
  exact ⟨h, o, ended, run, attended, spent "jx" "app" sampleMarked found⟩

end SignOnOperator
