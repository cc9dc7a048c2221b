import SignOnOperator.Proofs.Cleanup
import SignOnOperator.Proofs.System
/-!
# Exclusion

No two reconciliations of one SSO are ever at work at the same time, and a key is free again as soon as the one that
held it has ended, however it ended.  A reconciliation goes through the stages of `Reconcile.Stage`, one turn at a
time (`Reconcile.Stage.next`); which keys are in flight is read off the stages (`keys_perm_held`).
-/
namespace SignOnOperator

/-! ## The stages of a reconciliation -/

namespace Reconcile

/-- A reconciliation with its key, up to its end. -/
def leaving (key : SsoKey) (o : Outcome Followup) : Program Operator (Outcome Followup) :=
  .ask (I := Operator) (.release key) fun _ => .done o

def threshold (config : Config) (key : SsoKey) (free : Bool) : Program Operator (Outcome Followup) :=
  if free then Program.bind (admitted config key) (leaving key)
  else .ask (I := Operator) (.count .duplicate) fun _ => .done (.ok .awaitChange)

def entrance (config : Config) (event : Sso) : Program Operator (Outcome Followup) :=
  match SsoKey.ofSso event with
  | .ok key => .ask (I := Operator) (.acquire key) (threshold config key)
  | .error e => .done (.error e)

theorem run_eq (config : Config) (event : Sso) :
    run config event = .ask (I := Operator) (.count .reconciled) fun _ => entrance config event := by
  unfold run entrance
  cases SsoKey.ofSso event with
  | error e => rfl
  | ok key =>
    refine congrArg (Program.ask (I := Operator) (.count .reconciled)) (funext fun _ => ?_)
    refine congrArg (Program.ask (I := Operator) (.acquire key)) (funext fun free => ?_)
    cases free with
    | true => rfl
    | false => rfl

/-- The turns with which a reconciliation begins that asks for its key. -/
def opening (key : SsoKey) (free : Bool) : History Operator := [⟨.count .reconciled, ()⟩, ⟨.acquire key, free⟩]

theorem opening_append_inj {key key' : SsoKey} {h h' : History Operator}
    (same : opening key true ++ h = opening key' true ++ h') : key = key' ∧ h = h' := by
  obtain ⟨opened, rest⟩ := List.append_inj same rfl
  injection (List.cons.inj (List.cons.inj opened).2).1 with request
  injection request with key
  exact ⟨key, rest⟩

/-- An event whose key is free is dealt with. -/
theorem leads_opening {config : Config} {event : Sso} {key : SsoKey} (own : SsoKey.ofSso event = .ok key) :
    Program.Leads (run config event) (opening key true) (Program.bind (admitted config key) (leaving key)) := by
  rw [run_eq]
  unfold entrance
  rw [own]
  exact .turn (.turn (.here _))

/-- **The stages of a reconciliation**: what it has been given, and what is left of it. -/
inductive Stage (config : Config) (event : Sso) : History Operator → Program Operator (Outcome Followup) → Prop where
  | fresh : Stage config event [] (.ask (I := Operator) (.count .reconciled) fun _ => entrance config event)
  | homeless {e : Error} (hk : SsoKey.ofSso event = .error e) :
      Stage config event [⟨.count .reconciled, ()⟩] (.done (.error e))
  | waiting {key : SsoKey} (hk : SsoKey.ofSso event = .ok key) :
      Stage config event [⟨.count .reconciled, ()⟩] (.ask (I := Operator) (.acquire key) (threshold config key))
  | refused {key : SsoKey} (hk : SsoKey.ofSso event = .ok key) :
      Stage config event (opening key false)
        (.ask (I := Operator) (.count .duplicate) fun _ => .done (.ok .awaitChange))
  | dropped {key : SsoKey} (hk : SsoKey.ofSso event = .ok key) :
      Stage config event (opening key false ++ [⟨.count .duplicate, ()⟩]) (.done (.ok .awaitChange))
  | working {key : SsoKey} {h : History Operator} {r : OperatorRequest}
      {next : r.Reply → Program Operator (Outcome Followup)} (hk : SsoKey.ofSso event = .ok key)
      (led : Program.Leads (admitted config key) h (.ask (I := Operator) r next)) :
      Stage config event (opening key true ++ h) (.ask (I := Operator) r fun reply => (next reply).bind (leaving key))
  | leaving {key : SsoKey} {h : History Operator} {o : Outcome Followup} (hk : SsoKey.ofSso event = .ok key)
      (ran : Program.Runs (admitted config key) h o) : Stage config event (opening key true ++ h) (leaving key o)
  | ended {key : SsoKey} {h : History Operator} {o : Outcome Followup} (hk : SsoKey.ofSso event = .ok key)
      (ran : Program.Runs (admitted config key) h o) :
      Stage config event (opening key true ++ h ++ [⟨.release key, ()⟩]) (.done o)

namespace Stage

variable {config : Config} {event : Sso}

/-- A reconciliation that has its key is at work or leaving. -/
theorem inside {key : SsoKey} {h : History Operator} {p : Program Operator (Outcome Followup)}
    (hk : SsoKey.ofSso event = .ok key) (led : Program.Leads (admitted config key) h p) :
    Stage config event (opening key true ++ h) (p.bind (Reconcile.leaving key)) := by
  cases p with
  | done o => exact .leaving hk led
  | ask r next => exact .working hk led

theorem start (config : Config) (event : Sso) : Stage config event [] (run config event) :=
  run_eq config event ▸ .fresh

theorem next {h : History Operator} {r : OperatorRequest} {next : r.Reply → Program Operator (Outcome Followup)}
    (stage : Stage config event h (.ask (I := Operator) r next)) (reply : r.Reply) :
    Stage config event (h ++ [⟨r, reply⟩]) (next reply) := by
  cases stage with
  | fresh =>
    unfold entrance
    cases hk : SsoKey.ofSso event with
    | error e => exact .homeless hk
    | ok key => exact .waiting hk
  | waiting hk =>
    cases reply with
    | true => exact inside hk (.here _)
    | false => exact .refused hk
  | refused hk => exact .dropped hk
  | working hk led =>
    rw [List.append_assoc]
    exact inside hk (led.append (.turn (.here _)))
  | leaving hk ran => exact .ended hk ran

/-- A reconciliation stays staged, whatever it is given. -/
theorem later {h h' : History Operator} {p q : Program Operator (Outcome Followup)} (stage : Stage config event h p)
    (led : p.Leads h' q) : Stage config event (h ++ h') q := by
  induction led generalizing h with
  | here _ => exact (List.append_nil h).symm ▸ stage
  | @turn r next reply h' q _ ih =>
    rw [List.append_cons]
    exact ih (stage.next reply)

end Stage
end Reconcile

/-! ## What a reconciliation holds -/

def Turn.admission? : Turn Operator → Option (SsoKey × Bool)
  | ⟨.acquire key, free⟩ => some (key, free)
  | _ => none

def Turn.isCall : Turn Operator → Bool
  | ⟨.call _, _⟩ => true
  | _ => false

namespace Task

/-- The key that a reconciliation has asked for, if it has, and whether it was admitted. -/
def admission? (t : Task) : Option (SsoKey × Bool) := t.history.findSome? Turn.admission?

/-- The key of a reconciliation that was admitted and is running. -/
def held? (t : Task) : Option SsoKey :=
  match t.rest, t.admission? with
  | .ask _ _, some (key, true) => some key
  | _, _ => none

/-- Whether a reconciliation has ended that was not admitted. -/
def isDropped (t : Task) : Bool :=
  match t.rest, t.admission? with
  | .done _, some (_, false) => true
  | _, _ => false

def Staged (config : Config) (t : Task) : Prop := Reconcile.Stage config t.event t.history t.rest

/-- What one turn means for the keys that are held and the reconciliations that are dropped. -/
inductive Move (t : Task) : Turn Operator → Task → Prop where
  | admitted {key : SsoKey} {t' : Task} (before : t.held? = none) (after : t'.held? = some key)
      (kept : t.isDropped = t'.isDropped) : Move t ⟨.acquire key, true⟩ t'
  | refused {key : SsoKey} {t' : Task} (before : t.held? = none) (after : t'.held? = none)
      (kept : t.isDropped = t'.isDropped) : Move t ⟨.acquire key, false⟩ t'
  | released {key : SsoKey} {t' : Task} (before : t.held? = some key) (after : t'.held? = none)
      (kept : t.isDropped = t'.isDropped) : Move t ⟨.release key, ()⟩ t'
  | dropped {t' : Task} (same : t.held? = t'.held?) (before : t.isDropped = false) (after : t'.isDropped = true) :
      Move t ⟨.count .duplicate, ()⟩ t'
  | other {turn : Turn Operator} {t' : Task} (same : t.held? = t'.held?) (kept : t.isDropped = t'.isDropped)
      (acquire : turn.kind ≠ .acquire) (release : turn.kind ≠ .release) (count : turn.kind ≠ .count .duplicate) :
      Move t turn t'

theorem held?_eq_some_iff {t : Task} {key : SsoKey} :
    t.held? = some key ↔ t.isRunning = true ∧ t.admission? = some (key, true) := by
  unfold held? isRunning
  cases t.rest with
  | done o => simp
  | ask r next => rcases t.admission? with - | ⟨key', - | -⟩ <;> simp

variable {config : Config}

theorem staged_start (config : Config) (event : Sso) : (start config event).Staged config := .start config event

theorem Staged.after {t : Task} (staged : t.Staged config) {r : OperatorRequest}
    {next : r.Reply → Program Operator (Outcome Followup)} (asks : t.rest = .ask (I := Operator) r next)
    (reply : r.Reply) : (t.after ⟨r, reply⟩ (next reply)).Staged config := by
  obtain ⟨event, history, rest⟩ := t
  obtain rfl : rest = _ := asks
  exact staged.next reply

theorem held?_inside {event : Sso} {key : SsoKey} {h : History Operator} {p : Program Operator (Outcome Followup)} :
    held? ⟨event, Reconcile.opening key true ++ h, p.bind (Reconcile.leaving key)⟩ = some key := by
  cases p with
  | done o => rfl
  | ask r next => rfl

theorem isDropped_inside {event : Sso} {key : SsoKey} {h : History Operator}
    {p : Program Operator (Outcome Followup)} :
    isDropped ⟨event, Reconcile.opening key true ++ h, p⟩ = false := by
  cases p with
  | done o => rfl
  | ask r next => rfl

/-- **Every turn of a reconciliation is one of these moves.** -/
theorem Staged.move {t : Task} (staged : t.Staged config) {r : OperatorRequest}
    {next : r.Reply → Program Operator (Outcome Followup)} (asks : t.rest = .ask (I := Operator) r next)
    (reply : r.Reply) : t.Move ⟨r, reply⟩ (t.after ⟨r, reply⟩ (next reply)) := by
  obtain ⟨event, history, rest⟩ := t
  obtain rfl : rest = _ := asks
  unfold Task.after
  unfold Staged at staged
  dsimp only at staged ⊢
  cases staged with
  | fresh =>
    have idle : ∀ p, held? ⟨event, [⟨.count .reconciled, reply⟩], p⟩ = none ∧
        isDropped ⟨event, [⟨.count .reconciled, reply⟩], p⟩ = false := by
      intro p
      cases p with
      | done _ => exact ⟨rfl, rfl⟩
      | ask _ _ => exact ⟨rfl, rfl⟩
    exact .other (idle _).1.symm (idle _).2.symm nofun nofun nofun
  | @waiting key hk =>
    cases reply with
    | true => exact .admitted rfl held?_inside isDropped_inside.symm
    | false => exact .refused rfl rfl rfl
  | refused hk => exact .dropped rfl rfl rfl
  | @working key h r next hk led =>
    rw [List.append_assoc]
    have known := (Reconcile.admitted_confined config key).asks h r ⟨next, led⟩
    have foreign : ∀ kind, kind ∉ Reconcile.admittedFootprint → r.kind ≠ kind := fun _ hk is => hk (is ▸ known)
    exact .other held?_inside.symm isDropped_inside.symm (foreign _ (by decide)) (foreign _ (by decide))
      (foreign _ (by decide))
  | @leaving key h o hk ran =>
    rw [List.append_assoc]
    exact .released rfl rfl isDropped_inside.symm

end Task

/-! ## Answers of the shared state -/

namespace Shared

variable {s s' : Shared}

/-- A key is given to a reconciliation if and only if none has it. -/
theorem Answers.acquire {key : SsoKey} {free : Bool} (answered : s.Answers (.acquire key) free s') :
    (free = true ∧ key ∉ s.inFlight.keys ∧ s'.inFlight.keys = key :: s.inFlight.keys) ∨
      (free = false ∧ key ∈ s.inFlight.keys ∧ s' = s) := by
  simp only [Answers, InFlight.tryAcquire] at answered
  by_cases taken : key ∈ s.inFlight.keys
  · simp only [dif_pos taken] at answered
    exact .inr ⟨answered.1, taken, answered.2⟩
  · simp only [dif_neg taken] at answered
    exact .inl ⟨answered.1, taken, by rw [answered.2]⟩

theorem exists_answers_acquire {key : SsoKey} {free : Bool} (h : free = true ↔ key ∉ s.inFlight.keys) :
    ∃ s', s.Answers (.acquire key) free s' := by
  simp only [Answers, InFlight.tryAcquire]
  by_cases taken : key ∈ s.inFlight.keys
  · simp only [dif_pos taken]
    exact ⟨s, Bool.eq_false_iff.2 fun yes => h.1 yes taken, rfl⟩
  · simp only [dif_neg taken]
    exact ⟨_, h.2 taken, rfl⟩

theorem Answers.inFlight_eq {r : OperatorRequest} {reply : r.Reply} (answered : s.Answers r reply s')
    (acquire : r.kind ≠ .acquire) (release : r.kind ≠ .release) : s'.inFlight = s.inFlight := by
  cases r with
  | acquire key => exact absurd rfl acquire
  | release key => exact absurd rfl release
  | enterCell =>
    simp only [Answers] at answered
    split at answered
    · rw [answered.2]
    · exact answered.elim
    · rw [answered.2]
  | call _ | clock | pause _ | draw | count _ | fillCell _ | leaveCell => cases answered; rfl

theorem Answers.duplicates_eq {r : OperatorRequest} {reply : r.Reply} (answered : s.Answers r reply s')
    (count : r.kind ≠ .count .duplicate) : s'.metrics.duplicates = s.metrics.duplicates := by
  cases r with
  | acquire key =>
    simp only [Answers] at answered
    split at answered
    · rw [answered.2]
    · rw [answered.2]
  | enterCell =>
    simp only [Answers] at answered
    split at answered
    · rw [answered.2]
    · exact answered.elim
    · rw [answered.2]
  | count c =>
    cases answered
    cases c with
    | duplicate => exact absurd rfl count
    | _ => rfl
  | release _ | call _ | clock | pause _ | draw | fillCell _ | leaveCell => cases answered; rfl

end Shared

/-! ## Which keys are in flight -/

section Lists

variable {α β : Type} {l : List α} {i : Nat} {a : α}

/-- What is found in a list changes with one item only where that is found. -/
theorem filterMap_set (f : α → Option β) (h : l[i]? = some a) :
    ∃ front back, l.filterMap f = front ++ (f a).toList ++ back ∧
      ∀ b, (l.set i b).filterMap f = front ++ (f b).toList ++ back := by
  obtain ⟨before, later, rfl, -, replaced⟩ := exists_of_getElem?_eq_some h
  have found : ∀ b, (before ++ b :: later).filterMap f =
      before.filterMap f ++ (f b).toList ++ later.filterMap f := by
    intro b
    rw [List.filterMap_append, List.filterMap_cons, List.append_assoc]
    cases f b with
    | none => rfl
    | some _ => rfl
  exact ⟨_, _, found a, fun b => replaced b ▸ found b⟩

theorem countP_set (p : α → Bool) (h : l[i]? = some a) :
    ∃ n, l.countP p = n + (p a).toNat ∧ ∀ b, (l.set i b).countP p = n + (p b).toNat := by
  obtain ⟨before, later, rfl, -, replaced⟩ := exists_of_getElem?_eq_some h
  have counted : ∀ b, (before ++ b :: later).countP p = before.countP p + later.countP p + (p b).toNat := by
    intro b
    rw [List.countP_append, List.countP_cons, Nat.add_assoc]
    cases p b with
    | true => rfl
    | false => rfl
  exact ⟨_, counted a, fun b => replaced b ▸ counted b⟩

end Lists

/-- What a move does to the keys in flight: of the keys that are held, only that of the reconciliation changes. -/
theorem Task.Move.keys {t t' : Task} {r : OperatorRequest} {reply : r.Reply} (move : t.Move ⟨r, reply⟩ t')
    {shared shared' : Shared} (answered : shared.Answers r reply shared') {front back : List SsoKey}
    (keys : shared.inFlight.keys.Perm (front ++ t.held?.toList ++ back)) :
    shared'.inFlight.keys.Perm (front ++ t'.held?.toList ++ back) := by
  generalize hturn : (⟨r, reply⟩ : Turn Operator) = turn at move
  cases move with
  | @admitted key _ before after kept =>
    cases hturn
    rcases answered.acquire with ⟨-, -, taken⟩ | ⟨refused, -, -⟩
    · rw [before, Option.toList_none, List.append_nil] at keys
      rw [taken, after, Option.toList_some, List.append_assoc]
      exact (keys.cons key).trans List.perm_middle.symm
    · cases refused
  | refused before after kept =>
    cases hturn
    rcases answered.acquire with ⟨⟨⟩, -, -⟩ | ⟨-, -, rfl⟩
    rwa [after, ← before]
  | @released key _ before after kept =>
    cases hturn
    obtain rfl : shared' = _ := answered
    rw [before, Option.toList_some, List.append_assoc] at keys
    rw [after, Option.toList_none, List.append_nil]
    have erased := (keys.trans List.perm_middle).erase key
    rwa [List.erase_cons_head] at erased
  | dropped same before after =>
    cases hturn
    rwa [answered.inFlight_eq nofun nofun, ← same]
  | other same kept acquire release count =>
    cases hturn
    rwa [answered.inFlight_eq acquire release, ← same]

theorem Task.Move.duplicates {t t' : Task} {r : OperatorRequest} {reply : r.Reply} (move : t.Move ⟨r, reply⟩ t')
    {shared shared' : Shared} (answered : shared.Answers r reply shared') {start : UInt64} {n : Nat}
    (counted : shared.metrics.duplicates = start + .ofNat (n + t.isDropped.toNat)) :
    shared'.metrics.duplicates = start + .ofNat (n + t'.isDropped.toNat) := by
  generalize hturn : (⟨r, reply⟩ : Turn Operator) = turn at move
  cases move with
  | dropped same before after =>
    cases hturn
    obtain rfl : shared' = _ := answered
    rw [before] at counted
    rw [after, Bool.toNat_true, UInt64.ofNat_add, ← UInt64.add_assoc]
    exact congrArg (· + 1) counted
  | admitted before after kept | refused before after kept | released before after kept =>
    cases hturn
    rwa [answered.duplicates_eq nofun, ← kept]
  | other same kept acquire release count =>
    cases hturn
    rwa [answered.duplicates_eq count, ← kept]

variable {E : Type} {config : Config} {surroundings : Surroundings E}

/-- **The invariant of the guard**: every reconciliation is at one of its stages, the keys in flight are those that are
held, each as often as it is held, and as many duplicates were counted as reconciliations were dropped. -/
structure Guarded (config : Config) (duplicates : UInt64) (s : System E) : Prop where
  staged : ∀ t ∈ s.tasks, t.Staged config
  keys : s.shared.inFlight.keys.Perm (s.tasks.filterMap Task.held?)
  counted : s.shared.metrics.duplicates = duplicates + .ofNat (s.tasks.countP Task.isDropped)

namespace Guarded

theorem start {s : System E} (idle : s.tasks = []) (free : s.shared.inFlight.keys = []) :
    Guarded config s.shared.metrics.duplicates s := by
  refine ⟨?_, ?_, ?_⟩
  · rw [idle]
    exact fun _ => nofun
  · rw [idle, free]
    exact .refl _
  · rw [idle]
    exact (UInt64.add_zero _).symm

theorem step {duplicates : UInt64} {s s' : System E} {l : Label} (guarded : Guarded config duplicates s)
    (step : Step config surroundings s l s') : Guarded config duplicates s' := by
  obtain ⟨staged, keys, counted⟩ := guarded
  cases step with
  | drifts _ => exact ⟨staged, keys, counted⟩
  | arrives event =>
    refine ⟨List.forall_mem_append.2 ⟨staged, List.forall_mem_singleton.2 (Task.staged_start config event)⟩, ?_, ?_⟩
    · rw [List.filterMap_append]
      exact (List.append_nil (s.tasks.filterMap Task.held?)).symm ▸ keys
    · rw [List.countP_append]
      exact counted
  | @proceeds i t r next reply shared env ht asks answered taken =>
    have hstaged := staged t (List.mem_of_getElem? ht)
    obtain ⟨front, back, found, replaced⟩ := filterMap_set Task.held? ht
    obtain ⟨n, counts, recounted⟩ := countP_set Task.isDropped ht
    have restaged : ∀ u ∈ s.tasks.set i (t.after ⟨r, reply⟩ (next reply)), u.Staged config := by
      intro u hu
      rcases List.mem_or_eq_of_mem_set hu with old | rfl
      · exact staged u old
      · exact hstaged.after asks reply
    -- Keys and duplicates are read off a list of which one item changes, as its move says.
    rw [found] at keys
    rw [counts] at counted
    refine ⟨restaged, ?_, ?_⟩
    · rw [replaced]
      exact (hstaged.move asks reply).keys answered keys
    · rw [recounted]
      exact (hstaged.move asks reply).duplicates answered counted

end Guarded

namespace Task

/-- A key that is held is that of the event. -/
theorem Staged.key_of_held? {t : Task} (staged : t.Staged config) {key : SsoKey} (held : t.held? = some key) :
    SsoKey.ofSso t.event = .ok key := by
  obtain ⟨event, history, rest⟩ := t
  unfold Staged at staged
  dsimp only at staged ⊢
  cases staged with
  | fresh | homeless _ | waiting _ | refused _ | dropped _ => cases held
  | working hk _ | leaving hk _ => cases held; exact hk
  | ended _ _ => cases held

/-- A reconciliation that makes a call holds its key. -/
theorem Staged.held?_of_call {t : Task} (staged : t.Staged config) {c : Call}
    {next : Outcome c.Result → Program Operator (Outcome Followup)}
    (asks : t.rest = .ask (I := Operator) (.call c) next) : ∃ key, t.held? = some key := by
  obtain ⟨event, history, rest⟩ := t
  obtain rfl : rest = _ := asks
  unfold Staged at staged
  dsimp only at staged
  cases staged with
  | @working key _ _ _ hk led => exact ⟨key, rfl⟩

/-- A reconciliation that was not admitted makes no call, and has nothing left but to count the duplicate. -/
theorem Staged.of_refused {t : Task} (staged : t.Staged config) {key : SsoKey}
    (refused : t.admission? = some (key, false)) :
    (∀ turn ∈ t.history, turn.isCall = false) ∧
      (t.rest = .done (.ok .awaitChange) ∨
        t.rest = .ask (I := Operator) (.count .duplicate) fun _ => .done (.ok .awaitChange)) := by
  obtain ⟨event, history, rest⟩ := t
  unfold Staged at staged
  dsimp only at staged ⊢
  cases staged with
  | fresh | homeless _ | waiting _ => cases refused
  | refused hk => exact ⟨by simp [Reconcile.opening, Turn.isCall], .inr rfl⟩
  | dropped hk => exact ⟨by simp [Reconcile.opening, Turn.isCall], .inl rfl⟩
  | working _ _ | leaving _ _ | ended _ _ => cases refused

/-- A key that was given is held to the end. -/
theorem Later.held? {t t' : Task} (later : t.Later t') {key : SsoKey} (held : t.held? = some key)
    (running : t'.isRunning = true) : t'.held? = some key := by
  obtain ⟨-, h, hh, -⟩ := later
  obtain ⟨-, admitted⟩ := held?_eq_some_iff.1 held
  refine held?_eq_some_iff.2 ⟨running, ?_⟩
  unfold admission? at admitted ⊢
  rw [hh, List.findSome?_append, admitted]
  rfl

end Task

/-! ## Exclusion -/

/-- **What the guard brings about**, in a state that a run has reached. -/
structure Exclusive (config : Config) (surroundings : Surroundings E) (start : System E) (ls : List Label)
    (s : System E) : Prop where
  -- The keys in flight are those of the running reconciliations that were admitted.
  inFlight_iff : ∀ key, key ∈ s.shared.inFlight.keys ↔
    ∃ t ∈ s.tasks, t.isRunning = true ∧ t.admission? = some (key, true)
  -- A reconciliation asks only for the key of its event.
  own : ∀ t ∈ s.tasks, ∀ key, t.held? = some key → SsoKey.ofSso t.event = .ok key
  -- No two running reconciliations were admitted with the same key.
  alone : ∀ (i j : Nat) (t t' : Task) key, s.tasks[i]? = some t → s.tasks[j]? = some t' →
    t.held? = some key → t'.held? = some key → i = j
  -- The calls of two reconciliations of one SSO do not interleave.
  apart : ∀ (i j : Nat) (t t' : Task) (a b c : Call)
    (ra : Outcome a.Result) (rb : Outcome b.Result) (rc : Outcome c.Result),
    s.tasks[i]? = some t → s.tasks[j]? = some t' → SsoKey.ofSso t.event = SsoKey.ofSso t'.event →
    [.proceeds i ⟨.call a, ra⟩, .proceeds j ⟨.call b, rb⟩, .proceeds i ⟨.call c, rc⟩].Sublist ls → i = j
  -- Whoever asks for a key is answered, and is admitted if and only if the key is not in flight.
  admits : ∀ (i : Nat) (t : Task) (key : SsoKey) next, s.tasks[i]? = some t →
    t.rest = .ask (I := Operator) (.acquire key) next → ∀ free : Bool,
    (∃ s', Step config surroundings s (.proceeds i ⟨.acquire key, free⟩) s') ↔
      (free = true ↔ key ∉ s.shared.inFlight.keys)
  -- A reconciliation that was not admitted makes no call; it has been told to wait for a change, or counts the
  -- duplicate and is then told so.
  refused : ∀ t ∈ s.tasks, ∀ key, t.admission? = some (key, false) →
    (∀ turn ∈ t.history, turn.isCall = false) ∧
      (t.rest = .done (.ok .awaitChange) ∨
        t.rest = .ask (I := Operator) (.count .duplicate) fun _ => .done (.ok .awaitChange))
  -- One duplicate was counted for each that has ended so.
  duplicates : s.shared.metrics.duplicates =
    start.shared.metrics.duplicates + .ofNat (s.tasks.countP Task.isDropped)
  -- A reconciliation that was admitted takes its key with it when it ends, and no other.
  released : ∀ i turn s' (t t' : Task) key, Step config surroundings s (.proceeds i turn) s' →
    s.tasks[i]? = some t → t.held? = some key → s'.tasks[i]? = some t' → t'.isRunning = false →
    ∀ key', key' ∈ s'.shared.inFlight.keys ↔ key' ∈ s.shared.inFlight.keys ∧ key' ≠ key
  -- Once all have ended no key is in flight.
  empty : (∀ t ∈ s.tasks, t.isRunning = false) → s.shared.inFlight.keys = []

namespace Guarded

variable {duplicates : UInt64} {s : System E}

theorem held_nodup (guarded : Guarded config duplicates s) : (s.tasks.filterMap Task.held?).Nodup :=
  guarded.keys.nodup_iff.1 s.shared.inFlight.nodup

theorem mem_keys_iff (guarded : Guarded config duplicates s) {key : SsoKey} :
    key ∈ s.shared.inFlight.keys ↔ ∃ t ∈ s.tasks, t.held? = some key := by
  rw [guarded.keys.mem_iff, List.mem_filterMap]

theorem alone (guarded : Guarded config duplicates s) {i j : Nat} {t t' : Task} {key : SsoKey}
    (ht : s.tasks[i]? = some t) (ht' : s.tasks[j]? = some t') (held : t.held? = some key)
    (held' : t'.held? = some key) : i = j := by
  obtain ⟨hi, rfl⟩ := List.getElem?_eq_some_iff.1 ht
  obtain ⟨hj, rfl⟩ := List.getElem?_eq_some_iff.1 ht'
  have differ := List.pairwise_iff_getElem.1 (List.pairwise_filterMap.1 guarded.held_nodup)
  rcases Nat.lt_trichotomy i j with lt | eq | gt
  · exact absurd rfl (differ i j hi hj lt key held key held')
  · exact eq
  · exact absurd rfl (differ j i hj hi gt key held' key held)

/-- A reconciliation that stops holding its key takes that key out of flight, and no other. -/
theorem released (guarded : Guarded config duplicates s) {s' : System E} {i : Nat} {turn : Turn Operator} {t t' : Task}
    {key : SsoKey} (step : Step config surroundings s (.proceeds i turn) s') (ht : s.tasks[i]? = some t)
    (held : t.held? = some key) (ht' : s'.tasks[i]? = some t') (ended : t'.held? = none) (key' : SsoKey) :
    key' ∈ s'.shared.inFlight.keys ↔ key' ∈ s.shared.inFlight.keys ∧ key' ≠ key := by
  have keys' := (guarded.step step).keys
  cases step with
  | @proceeds _ u r next reply shared env hu asks answered taken =>
    obtain rfl := Option.some.inj (hu.symm.trans ht)
    obtain ⟨front, back, found, replaced⟩ := filterMap_set Task.held? hu
    have same : t' = u.after ⟨r, reply⟩ (next reply) := by
      rw [List.getElem?_set_self (List.getElem?_eq_some_iff.1 hu).1] at ht'
      exact (Option.some.inj ht').symm
    have keys := guarded.keys
    rw [found, held] at keys
    rw [replaced, ← same, ended] at keys'
    have distinct : (key :: (front ++ back)).Nodup :=
      (keys.trans (List.append_assoc front _ back ▸ List.perm_middle)).nodup_iff.1 s.shared.inFlight.nodup
    have absent : key ∉ front ++ back := (List.nodup_cons.1 distinct).1
    rw [keys'.mem_iff, keys.mem_iff]
    simp only [Option.toList, List.append_nil, List.mem_append, List.mem_singleton] at absent ⊢
    grind

theorem caller (guarded : Guarded config duplicates s) {s' : System E} {i : Nat} {c : Call} {reply : Outcome c.Result}
    (step : Step config surroundings s (.proceeds i ⟨.call c, reply⟩) s') :
    ∃ t key, s.tasks[i]? = some t ∧ t.held? = some key ∧ SsoKey.ofSso t.event = .ok key := by
  cases step with
  | proceeds ht asks answered taken =>
    have staged := guarded.staged _ (List.mem_of_getElem? ht)
    obtain ⟨key, held⟩ := staged.held?_of_call asks
    exact ⟨_, key, ht, held, staged.key_of_held? held⟩

/-- Between two calls of a reconciliation it holds its key. -/
theorem holds_between {m₁ n₁ m m₂ n₂ : System E} {ls ls' : List Label} {i : Nat} {a b : Call} {ra : Outcome a.Result}
    {rb : Outcome b.Result} (guarded₁ : Guarded config duplicates m₁) (guarded₂ : Guarded config duplicates m₂)
    (step₁ : Step config surroundings m₁ (.proceeds i ⟨.call a, ra⟩) n₁) (run₁ : Run config surroundings n₁ ls m)
    (run₂ : Run config surroundings m ls' m₂) (step₂ : Step config surroundings m₂ (.proceeds i ⟨.call b, rb⟩) n₂) :
    ∃ u key, m.tasks[i]? = some u ∧ u.held? = some key ∧ SsoKey.ofSso u.event = .ok key := by
  obtain ⟨t, key, ht, held, own⟩ := guarded₁.caller step₁
  obtain ⟨t₂, _, ht₂, held₂, -⟩ := guarded₂.caller step₂
  obtain ⟨t₁, ht₁, first⟩ := step₁.later ht
  obtain ⟨u, hu, second⟩ := run₁.later ht₁
  obtain ⟨u₂, hu₂, third⟩ := run₂.later hu
  obtain rfl := Option.some.inj (hu₂.symm.trans ht₂)
  -- It is running at its second call, so it was running all the time.
  have running := third.isRunning (Task.held?_eq_some_iff.1 held₂).1
  have later := first.trans second
  exact ⟨u, key, hu, later.held? held running, later.1 ▸ own⟩

end Guarded

/-- A run that takes a certain step, cut before that step. -/
theorem run_of_mem {s s' : System E} {l : Label} {ls : List Label} (run : Run config surroundings s ls s')
    (hl : l ∈ ls) : ∃ before m m' later, Run config surroundings s before m ∧ Step config surroundings m l m' ∧
      Run config surroundings m' later s' := by
  obtain ⟨before, later, rfl⟩ := List.append_of_mem hl
  obtain ⟨m, first, rest⟩ := run_append_iff.1 run
  cases rest with
  | step step last => exact ⟨before, m, _, later, first, step, last⟩

/-- **Exclusion and release.**  From a state without reconciliations and with no key in flight, every run of a system
comes only to states in which the guard has brought this about, whatever the surroundings answer. -/
theorem guard_excludes (config : Config) (surroundings : Surroundings E) {start s : System E} {ls : List Label}
    (idle : start.tasks = []) (free : start.shared.inFlight.keys = []) (run : Run config surroundings start ls s) :
    Exclusive config surroundings start ls s := by
  have guarded : ∀ {m ls}, Run config surroundings start ls m →
      Guarded config start.shared.metrics.duplicates m := fun reached =>
    reached.keeps (fun g step => g.step step) (.start idle free)
  have here := guarded run
  constructor
  case inFlight_iff =>
    intro key
    rw [here.mem_keys_iff]
    exact exists_congr fun t => and_congr_right fun _ => Task.held?_eq_some_iff
  case own => exact fun t ht key held => (here.staged t ht).key_of_held? held
  case alone => exact fun i j t t' key ht ht' held held' => here.alone ht ht' held held'
  case apart =>
    intro i j t t' a b c ra rb rc ht ht' same sub
    obtain ⟨l₁, l₂, rfl, hA, sub₂⟩ := List.cons_sublist_iff.1 sub
    obtain ⟨l₃, l₄, rfl, hB, sub₃⟩ := List.cons_sublist_iff.1 sub₂
    obtain ⟨l₅, l₆, rfl, hC, -⟩ := List.cons_sublist_iff.1 sub₃
    obtain ⟨s₁, run₁, rest₁⟩ := run_append_iff.1 run
    obtain ⟨s₃, run₃, rest₃⟩ := run_append_iff.1 rest₁
    obtain ⟨s₅, run₅, rest₅⟩ := run_append_iff.1 rest₃
    obtain ⟨_, m₁, _, _, before₁, step₁, after₁⟩ := run_of_mem run₁ hA
    obtain ⟨_, m₃, _, _, before₃, step₃, after₃⟩ := run_of_mem run₃ hB
    obtain ⟨_, m₅, _, _, before₅, step₅, -⟩ := run_of_mem run₅ hC
    have guarded₃ := guarded (run_append_iff.2 ⟨_, run₁, before₃⟩)
    have guarded₅ := guarded (run_append_iff.2 ⟨_, run₁, run_append_iff.2 ⟨_, run₃, before₅⟩⟩)
    have next : Run config surroundings m₃ _ s := .step step₃ (run_append_iff.2 ⟨_, after₃, rest₃⟩)
    obtain ⟨u, key, hu, held, own⟩ := (guarded before₁).holds_between guarded₅ step₁
      (run_append_iff.2 ⟨_, after₁, before₃⟩) (.step step₃ (run_append_iff.2 ⟨_, after₃, before₅⟩)) step₅
    obtain ⟨v, key', hv, held', own'⟩ := guarded₃.caller step₃
    have keys : key = key' := by
      obtain ⟨_, hz, toEnd⟩ := next.later hu
      obtain ⟨_, hz', toEnd'⟩ := next.later hv
      obtain rfl := Option.some.inj (hz.symm.trans ht)
      obtain rfl := Option.some.inj (hz'.symm.trans ht')
      rw [toEnd.1, toEnd'.1, own, own'] at same
      exact Except.ok.inj same
    exact guarded₃.alone hu hv held (keys ▸ held')
  case admits =>
    intro i t key next ht asks free
    constructor
    · rintro ⟨s', step⟩
      cases step with
      | proceeds _ _ answered taken =>
        rcases answered.acquire with ⟨yes, absent, -⟩ | ⟨no, present, -⟩
        · exact ⟨fun _ => absent, fun _ => yes⟩
        · exact ⟨fun yes => absurd (no.symm.trans yes) nofun, fun absent => absurd present absent⟩
    · intro right
      obtain ⟨shared, answered⟩ := Shared.exists_answers_acquire right
      exact ⟨_, .proceeds ht asks answered rfl⟩
  case refused => exact fun t ht key refused => (here.staged t ht).of_refused refused
  case duplicates => exact here.counted
  case released =>
    intro i turn s' t t' key step ht held ht' ended
    refine here.released step ht held ht' ?_
    cases h : t'.held? with
    | none => rfl
    | some key' => exact absurd ((Task.held?_eq_some_iff.1 h).1.symm.trans ended) nofun
  case empty =>
    intro ended
    refine List.eq_nil_iff_forall_not_mem.2 fun key hk => ?_
    obtain ⟨t, ht, held⟩ := here.mem_keys_iff.1 hk
    exact absurd ((Task.held?_eq_some_iff.1 held).1.symm.trans (ended t ht)) nofun

/-! ### Two events of one SSO, and a breakdown -/

def Surroundings.unruly : Surroundings Unit := ⟨fun _ _ _ _ _ => True, fun _ _ => False⟩

def sampleKey : SsoKey := ⟨"jx", "app"⟩

/-- Two reconciliations begin.  The first has the key when the second asks for it, and then breaks down. -/
def rivalry : List Label :=
  [.arrives Provision.sample, .arrives Provision.sample, .proceeds 0 ⟨.count .reconciled, ()⟩,
    .proceeds 0 ⟨.acquire sampleKey, true⟩, .proceeds 1 ⟨.count .reconciled, ()⟩,
    .proceeds 1 ⟨.acquire sampleKey, false⟩, .proceeds 1 ⟨.count .duplicate, ()⟩,
    .proceeds 0 ⟨.call (.getSso "jx" "app"), .panic⟩, .proceeds 0 ⟨.release sampleKey, ()⟩]

def aftermath : System Unit where
  shared := { metrics := { reconciled := 2, duplicates := 1 } }
  env := ()
  tasks :=
    [⟨Provision.sample, Reconcile.opening sampleKey true ++
        [⟨.call (.getSso "jx" "app"), .panic⟩, ⟨.release sampleKey, ()⟩], .done .panic⟩,
      ⟨Provision.sample, Reconcile.opening sampleKey false ++ [⟨.count .duplicate, ()⟩], .done (.ok .awaitChange)⟩]

theorem rivalry_excludes :
    Run Provision.sampleConfig .unruly ⟨{}, (), []⟩ rivalry aftermath ∧
      aftermath.shared.inFlight.keys = [] ∧ aftermath.shared.metrics.duplicates = 0 + 1 := by
  have run : Run Provision.sampleConfig .unruly ⟨{}, (), []⟩ rivalry aftermath :=
    .step (.arrives _ _) <| .step (.arrives _ _) <| .step (.proceeds rfl rfl rfl rfl) <|
    .step (.proceeds rfl rfl ⟨rfl, rfl⟩ rfl) <| .step (.proceeds rfl rfl rfl rfl) <|
    .step (.proceeds rfl rfl ⟨rfl, rfl⟩ rfl) <| .step (.proceeds rfl rfl rfl rfl) <|
    .step (.proceeds rfl rfl rfl trivial) <| .step (.proceeds rfl rfl rfl rfl) <| .none _
  have exclusive := guard_excludes Provision.sampleConfig .unruly rfl rfl run
  exact ⟨run, exclusive.empty (by decide), exclusive.duplicates⟩

end SignOnOperator
