import SignOnOperator.Proofs.History
import SignOnOperator.Reconcile.Reconcile
/-!
# Footprints

Which kinds of requests the parts of the operator's work make.  A routine is confined to some kinds if it asks for
nothing else and breaks down only where a call has; `Confined.bind` and its neighbours carry this from the parts of a
routine to the whole, and each part of the work has one statement on its footprint.
-/
namespace SignOnOperator

inductive CallKind where
  | getSso | patchSsoStatus | patchSsoFinalizers | ensureClusterRoleBinding | getService | applyService | getSecret
  | applySecret | createSecret | getDeployment | applyDeployment | listPods | applyConfigMap | deleteConfigMap
  | createJob | getJob | deleteJob | ingressHosts | createClient | updateClient | deleteClient
  deriving DecidableEq, Repr

@[simp]
def Call.kind : Call → CallKind
  | getSso _ _ => .getSso
  | patchSsoStatus _ _ _ => .patchSsoStatus
  | patchSsoFinalizers _ _ _ => .patchSsoFinalizers
  | ensureClusterRoleBinding _ _ => .ensureClusterRoleBinding
  | getService _ _ => .getService
  | applyService _ => .applyService
  | getSecret _ _ => .getSecret
  | applySecret _ => .applySecret
  | createSecret _ => .createSecret
  | getDeployment _ _ => .getDeployment
  | applyDeployment _ => .applyDeployment
  | listPods _ _ => .listPods
  | applyConfigMap _ => .applyConfigMap
  | deleteConfigMap _ _ => .deleteConfigMap
  | createJob _ => .createJob
  | getJob _ _ => .getJob
  | deleteJob _ _ => .deleteJob
  | ingressHosts _ _ => .ingressHosts
  | createClient _ _ _ _ _ => .createClient
  | updateClient _ _ _ _ _ => .updateClient
  | deleteClient _ => .deleteClient

inductive RequestKind where
  | call (kind : CallKind)
  | clock | pause | draw | acquire | release
  | count (c : Counter)
  | enterCell | fillCell | leaveCell
  deriving DecidableEq, Repr

@[simp]
def OperatorRequest.kind : OperatorRequest → RequestKind
  | call c => .call c.kind
  | clock => .clock
  | pause _ => .pause
  | draw => .draw
  | acquire _ => .acquire
  | release _ => .release
  | count c => .count c
  | enterCell => .enterCell
  | fillCell _ => .fillCell
  | leaveCell => .leaveCell

def Turn.kind (t : Turn Operator) : RequestKind := OperatorRequest.kind t.request

/-- A call that broke down. -/
def Turn.IsBreakdown (t : Turn Operator) : Prop := ∃ c : Call, t = ⟨.call c, .panic⟩

def Turn.breaksDown : Turn Operator → Bool
  | ⟨.call _, .panic⟩ => true
  | _ => false

theorem Turn.breaksDown_iff {t : Turn Operator} : t.breaksDown = true ↔ t.IsBreakdown := by
  constructor
  · unfold breaksDown
    split
    · exact fun _ => ⟨_, rfl⟩
    · exact nofun
  · rintro ⟨c, rfl⟩
    rfl

instance (t : Turn Operator) : Decidable t.IsBreakdown := decidable_of_iff _ t.breaksDown_iff

/-- A routine that asks only for these kinds, and breaks down only where a call has. -/
structure Confined {α : Type} (kinds : List RequestKind) (x : Routine α) : Prop where
  asks : ∀ h r, Program.Asks x h r → OperatorRequest.kind r ∈ kinds
  breaks : ∀ h, Program.Runs x h .panic → ∃ t ∈ h, t.IsBreakdown

namespace Program

variable {α : Type}

/-- A turn of the history was asked for after the turns before it. -/
theorem Leads.asks {I : Interface} {p q : Program I α} {h h' : History I} {t : Turn I}
    (l : p.Leads (h ++ t :: h') q) : p.Asks h t.request := by
  obtain ⟨m, before, after⟩ := leads_append_iff.1 l
  cases after with
  | turn later => exact ⟨_, before⟩

theorem Leads.forall_turn {I : Interface} {N : I.Request → Prop} {p q : Program I α} {h : History I}
    (l : p.Leads h q) (asks : ∀ h r, p.Asks h r → N r) : ∀ t ∈ h, N t.request := by
  intro t ht
  obtain ⟨h₁, h₂, rfl⟩ := List.append_of_mem ht
  exact asks h₁ _ l.asks

end Program

namespace Confined

variable {α β : Type} {kinds kinds' : List RequestKind}

theorem mono {x : Routine α} (hx : Confined kinds x) (sub : ∀ k ∈ kinds, k ∈ kinds') : Confined kinds' x where
  asks h r asked := sub _ (hx.asks h r asked)
  breaks := hx.breaks

theorem turns {x : Routine α} (hx : Confined kinds x) {h : History Operator} {q : Program Operator (Outcome α)}
    (l : Program.Leads x h q) : ∀ t ∈ h, t.kind ∈ kinds :=
  l.forall_turn hx.asks

theorem not_asks {x : Routine α} (hx : Confined kinds x) {h : History Operator} {r : OperatorRequest}
    (k : RequestKind) (hr : r.kind = k) (hk : k ∉ kinds) : ¬Program.Asks x h r :=
  fun asked => hk (hr ▸ hx.asks h r asked)

theorem not_runs_panic {x : Routine α} (hx : Confined kinds x) {h : History Operator}
    (calm : ∀ t ∈ h, ¬t.IsBreakdown) : ¬Program.Runs x h .panic := by
  intro broken
  obtain ⟨t, ht, broke⟩ := hx.breaks h broken
  exact calm t ht broke

theorem done {o : Outcome α} (ho : o ≠ .panic) : Confined kinds (Program.done o : Program Operator _) where
  asks _ _ asked := absurd asked Program.not_asks_done
  breaks _ run := absurd (Program.runs_done_iff.1 run).2.symm ho

theorem pure (a : α) : Confined kinds (Pure.pure a : Routine α) := done nofun

theorem fail (e : Error) : Confined kinds (Action.fail e : Routine α) := done nofun

theorem ofExcept (result : Except Error α) : Confined kinds (Action.ofExcept result : Routine α) := by
  cases result with
  | ok a => exact done nofun
  | error e => exact done nofun

theorem require (value : Option α) (e : Error) : Confined kinds (Action.require value e : Routine α) := by
  cases value with
  | some a => exact done nofun
  | none => exact done nofun

theorem call {c : Call} (hc : .call c.kind ∈ kinds) : Confined kinds (Routine.call c) where
  asks h r asked := by
    rcases Program.asks_ask_iff.1 asked with ⟨_, rfl⟩ | ⟨reply, h', _, later⟩
    · exact hc
    · exact absurd later Program.not_asks_done
  breaks h run := by
    obtain ⟨reply, h', rfl, later⟩ := Program.runs_ask_iff.1 run
    obtain ⟨_, rfl⟩ := Program.runs_done_iff.1 later
    exact ⟨_, List.mem_cons_self, c, rfl⟩

theorem request {r : OperatorRequest} (hr : r.kind ∈ kinds) : Confined kinds (Action.request (I := Operator) r) where
  asks h r' asked := by
    rcases Program.asks_ask_iff.1 asked with ⟨_, rfl⟩ | ⟨reply, h', _, later⟩
    · exact hr
    · exact absurd later Program.not_asks_done
  breaks h run := by
    obtain ⟨reply, h', _, later⟩ := Program.runs_ask_iff.1 run
    cases (Program.runs_done_iff.1 later).2

theorem bind {x : Routine α} {f : α → Routine β} (hx : Confined kinds x) (hf : ∀ a, Confined kinds (f a)) :
    Confined kinds (x >>= f) where
  asks h r asked := by
    rcases Action.asks_bind_iff.1 asked with first | ⟨a, h₁, h₂, _, _, later⟩
    · exact hx.asks h r first
    · exact (hf a).asks h₂ r later
  breaks h run := by
    rcases Action.runs_bind_iff.1 run with ⟨a, h₁, h₂, rfl, _, later⟩ | ⟨e, he, _⟩ | ⟨_, first⟩
    · obtain ⟨t, ht, broke⟩ := (hf a).breaks h₂ later
      exact ⟨t, List.mem_append_right h₁ ht, broke⟩
    · cases he
    · exact hx.breaks h first

theorem branch {c : Prop} [Decidable c] {x y : Routine α} (hx : Confined kinds x) (hy : Confined kinds y) :
    Confined kinds (if c then x else y) := by
  split
  · exact hx
  · exact hy

/-- A routine, and then a program that depends on how it ended. -/
theorem andThen {x : Routine α} {f : Outcome α → Routine β} (hx : Confined kinds x)
    (hf : ∀ o, o ≠ .panic → Confined kinds (f o)) (broken : ∀ h r, Program.Asks (f .panic) h r → r.kind ∈ kinds) :
    Confined kinds (Program.bind x f : Program Operator (Outcome β)) where
  asks h r asked := by
    -- After a breakdown only the requests count; that it breaks down again is no new breakdown.
    rcases Program.asks_bind_iff.1 asked with first | ⟨o, h₁, h₂, _, _, later⟩
    · exact hx.asks h r first
    · by_cases ho : o = .panic
      · subst ho
        exact broken h₂ r later
      · exact (hf o ho).asks h₂ r later
  breaks h run := by
    obtain ⟨o, h₁, h₂, rfl, first, later⟩ := Program.runs_bind_iff.1 run
    by_cases ho : o = .panic
    · subst ho
      obtain ⟨t, ht, broke⟩ := hx.breaks h₁ first
      exact ⟨t, List.mem_append_left h₂ ht, broke⟩
    · obtain ⟨t, ht, broke⟩ := (hf o ho).breaks h₂ later
      exact ⟨t, List.mem_append_right h₁ ht, broke⟩

theorem mapError {x : Routine α} (f : Error → Error) (hx : Confined kinds x) : Confined kinds (x.mapError f) :=
  andThen hx
    (fun o ho => by
      cases o with
      | ok a => exact done nofun
      | error e => exact done nofun
      | panic => exact absurd rfl ho)
    (fun _ _ asked => absurd asked Program.not_asks_done)

theorem attempt {x : Routine α} (hx : Confined kinds x) : Confined kinds x.attempt :=
  andThen hx
    (fun o ho => by
      cases o with
      | ok a => exact done nofun
      | error e => exact done nofun
      | panic => exact absurd rfl ho)
    (fun _ _ asked => absurd asked Program.not_asks_done)

end Confined

/-! ## The parts of the work -/

namespace Waiting

/-- What a wait asks for that makes calls of one kind. -/
def footprint (kind : CallKind) : List RequestKind := [.clock, .pause, .call kind]

theorem clock_confined {kinds : List RequestKind} (h : .clock ∈ kinds) : Confined kinds Routine.clock :=
  .request (r := .clock) h

theorem pause_confined {kinds : List RequestKind} (d : Duration) (h : .pause ∈ kinds) :
    Confined kinds (Routine.pause d) :=
  .request (r := .pause d) h

theorem askUntil_confined {kinds : List RequestKind} {what : String} {polling : Polling} {deadline : Nat}
    {question : Routine Verdict} {again : Unit → Routine Unit} (hc : .clock ∈ kinds) (hp : .pause ∈ kinds)
    (hq : Confined kinds question) (ha : Confined kinds (again ())) :
    Confined kinds (askUntil what polling deadline question again) := by
  refine hq.bind fun v => ?_
  cases v with
  | ready => exact .pure ()
  | fatal e => exact .fail e
  | notReady =>
    refine (clock_confined hc).bind fun now => ?_
    exact .branch (.fail _) ((pause_confined _ hp).bind fun _ => ha)

theorem waitUntil_confined {kinds : List RequestKind} {what : String} {polling : Polling} {deadline : Nat}
    {question : Routine Verdict} (hc : .clock ∈ kinds) (hp : .pause ∈ kinds) (hq : Confined kinds question) :
    ∀ rounds, Confined kinds (waitUntil what polling deadline question rounds)
  | 0 => askUntil_confined hc hp hq (.fail _)
  | rounds + 1 => askUntil_confined hc hp hq (waitUntil_confined hc hp hq rounds)

theorem wait_confined {kinds : List RequestKind} {what : String} {polling : Polling} {question : Routine Verdict}
    (hc : .clock ∈ kinds) (hp : .pause ∈ kinds) (hq : Confined kinds question) :
    Confined kinds (wait what polling question) :=
  (clock_confined hc).bind fun _ => waitUntil_confined hc hp hq _

theorem ask_confined (c : Call) (judge : c.Result → Verdict) : Confined (footprint c.kind) (ask c judge) :=
  (Confined.call (by simp [footprint])).attempt.bind fun _ => .pure _

/-- A wait that asks by one call asks only for that, for the time, and for pauses. -/
theorem wait_ask_confined (what : String) (polling : Polling) (c : Call) (judge : c.Result → Verdict) :
    Confined (footprint c.kind) (wait what polling (ask c judge)) :=
  wait_confined (by simp [footprint]) (by simp [footprint]) (ask_confined c judge)

theorem forService_confined (ns name : String) (present : Bool) (polling : Polling) :
    Confined (footprint .getService) (forService ns name present polling) :=
  wait_ask_confined _ _ (.getService ns name) _

theorem forPods_confined (ns selector : String) (accepts : Kubernetes.Pod → Bool) (polling : Polling) :
    Confined (footprint .listPods) (forCurrentPods ns selector accepts polling) :=
  wait_ask_confined _ _ (.listPods ns selector) _

theorem forJob_confined (ns name : String) (polling : Polling) :
    Confined (footprint .getJob) (forJob ns name polling) :=
  wait_ask_confined _ _ (.getJob ns name) _

theorem forDeployment_confined (ns name : String) (polling : Polling) :
    Confined (footprint .getDeployment) (forDeployment ns name polling) :=
  wait_ask_confined _ _ (.getDeployment ns name) _

end Waiting

namespace CookieSecret

def loadFootprint : List RequestKind := [.draw, .call .getSecret, .call .createSecret]

theorem loadOrCreate_confined (ns : String) : Confined loadFootprint (loadOrCreate ns) := by
  refine (Confined.call (by simp [loadFootprint])).bind fun found => ?_
  cases found with
  | some secret => exact .ofExcept _
  | none =>
    refine (Confined.request (r := .draw) (by decide)).bind fun chosen => ?_
    refine (Confined.call (by simp [loadFootprint])).attempt.bind fun created => ?_
    cases created with
    | ok _ => exact .pure _
    | error e =>
      exact .branch
        ((Confined.call (c := .getSecret _ _) (by simp [loadFootprint])).bind fun again =>
          (Confined.require _ _).bind fun _ => .ofExcept _)
        (.fail e)

def footprint : List RequestKind := .enterCell :: .fillCell :: .leaveCell :: loadFootprint

theorem fill_confined (ns : String) : Confined footprint (fill ns) := by
  refine ((loadOrCreate_confined ns).mono (by decide)).andThen (fun o ho => ?_) (fun h r asked => ?_)
  · cases o with
    | ok value => exact (Confined.request (r := .fillCell value) (by simp [footprint])).bind fun _ => .done nofun
    | error e => exact (Confined.request (r := .leaveCell) (by decide)).bind fun _ => .fail e
    | panic => exact absurd rfl ho
  · rcases Program.asks_ask_iff.1 asked with ⟨_, rfl⟩ | ⟨_, _, _, later⟩
    · decide
    · exact absurd later Program.not_asks_done

theorem get_confined (ns : String) : Confined footprint (get ns) := by
  refine (Confined.request (r := .enterCell) (by decide)).bind fun held => ?_
  cases held with
  | some value => exact .pure _
  | none => exact fill_confined ns

end CookieSecret

namespace Proxy

def deployFootprint : List RequestKind :=
  [.clock, .pause, .call .getService, .call .applySecret, .call .applyDeployment, .call .applyService, .call .listPods]

theorem applyAndWait_confined (config : Config) (sso : Sso) (ns : String) (bundle : Bundle) :
    Confined deployFootprint (applyAndWait config sso ns bundle) :=
  (Confined.call (by simp [deployFootprint])).bind fun _ =>
    (Confined.call (by simp [deployFootprint])).bind fun _ =>
    (Confined.call (by simp [deployFootprint])).bind fun _ =>
    ((Waiting.forService_confined _ _ _ _).mono (by decide)).bind fun _ =>
    (Waiting.forPods_confined _ _ _ _).mono (by decide)

theorem deploy_confined (config : Config) (sso : Sso) (client : OidcClient) (cookieSecret : String) :
    Confined deployFootprint (deploy config sso client cookieSecret) :=
  (Confined.ofExcept _).bind fun _ => (Confined.call (by simp [deployFootprint])).bind fun _ =>
    (Confined.require _ _).bind fun _ => (Confined.ofExcept _).bind fun _ =>
    (applyAndWait_confined config sso _ _).bind fun _ => .pure _

def updateFootprint : List RequestKind :=
  [.clock, .pause, .call .applySecret, .call .applyDeployment, .call .getDeployment, .call .listPods]

theorem update_confined (config : Config) (sso : Sso) (client : OidcClient) (cookieSecret : String)
    (bundle : Bundle) : Confined updateFootprint (update config sso client cookieSecret bundle) :=
  (Confined.ofExcept _).bind fun _ => (Confined.ofExcept _).bind fun _ =>
    (Confined.call (by simp [updateFootprint])).bind fun _ =>
    (Confined.call (by simp [updateFootprint])).bind fun _ =>
    ((Waiting.forDeployment_confined _ _ _).mono (by decide)).bind fun _ =>
    ((Waiting.forPods_confined _ _ _ _).mono (by decide)).bind fun _ => .pure _

end Proxy

namespace Exposure

def footprint : List RequestKind :=
  [.clock, .pause, .call .applyConfigMap, .call .createJob, .call .getJob, .call .deleteJob, .call .deleteConfigMap]

theorem createJob_confined (ns : String) (job : Kubernetes.Job) : Confined footprint (createJob ns job) := by
  refine (Confined.call (by simp [footprint])).attempt.bind fun created => ?_
  cases created with
  | ok _ => exact .pure _
  | error e =>
    refine .branch (Confined.bind (α := Unit) ?_ fun _ => .fail e) (.fail e)
    exact .call (c := .deleteJob _ _) (by simp [footprint])

theorem run_confined (config : Config) (mode : Mode) (sso : Sso) (service account : String) :
    Confined footprint (run config mode sso service account) :=
  (Confined.ofExcept _).bind fun _ => (Confined.call (by simp [footprint])).bind fun _ =>
    (createJob_confined _ _).bind fun _ => ((Waiting.forJob_confined _ _ _).mono (by decide)).bind fun _ =>
    (Confined.call (by simp [footprint])).bind fun _ => .call (by simp [footprint])

end Exposure

namespace Provision

theorem resolveHosts_confined (ns appName : String) : Confined [.call .ingressHosts] (resolveHosts ns appName) := by
  refine (Confined.call (c := .ingressHosts _ _) (by simp)).bind fun hosts => ?_
  exact .branch ((Confined.fail _).bind fun _ => .pure _) (.pure _)

end Provision
end SignOnOperator
