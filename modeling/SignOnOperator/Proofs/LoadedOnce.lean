import SignOnOperator.Proofs.CellUse
/-!
# The cookie secret is loaded once

However many reconciliations run side by side, no two of them load the cookie secret at once, and once a loading has
come to a value, nobody loads it again and all proxies are given that value.  At any time as many reconciliations are
loading as the cell says, and whoever knows a secret knows the one in the cell (`Minded`).
-/
namespace SignOnOperator

open Kubernetes
open Rehearsal (Cell)

open CookieSecret
open CookieSecret.Standing (Loads internal)

/-! ## The invariant -/

/-- How a reconciliation of a system stands to the cookie secret. -/
def Task.standing (t : Task) : Standing :=
  t.history.foldl (fun standing turn => standing.next turn.request turn.reply) .unaware

variable {E : Type} {config : Config} {surroundings : Surroundings E} {s s' : System E}

theorem Task.standing_after {t : Task} {r : OperatorRequest} {reply : r.Reply}
    {rest : Program Operator (Outcome Followup)} : (t.after ⟨r, reply⟩ rest).standing = t.standing.next r reply :=
  (sharing "").after_concat .unaware t.history ⟨r, reply⟩

/-- The reconciliations deal with the cookie secret as they should, as many are loading it as the cell says, and none
knows another than the one in the cell. -/
structure Minded (config : Config) (s : System E) : Prop where
  conducted : Conducted (fun _ => sharing config.operatorNamespace) (fun standing _ => standing.isLoading = false)
    .unaware s
  counted : s.tasks.countP (fun t => t.standing.isLoading) = loaders s.shared.cell
  known : ∀ t ∈ s.tasks, ∀ value, t.standing = .aware value → s.shared.cell = .filled value

namespace Minded

theorem start (idle : s.tasks = []) (empty : s.shared.cell = .empty) : Minded config s where
  conducted := .start idle
  counted := by rw [idle, empty]; rfl
  known t ht := by
    rw [idle] at ht
    cases ht

variable {t : Task} {i : Nat} {r : OperatorRequest} {next : r.Reply → Program Operator (Outcome Followup)}
  {reply : r.Reply}

/-- Every turn of a reconciliation is a dealing. -/
theorem dealing (minded : Minded config s) (ht : s.tasks[i]? = some t) (asks : t.rest = .ask (I := Operator) r next)
    {shared : Shared} (answered : s.shared.Answers r reply shared) :
    Dealing config.operatorNamespace t.standing s.shared.cell ⟨r, reply⟩ (t.standing.next r reply) shared.cell :=
  CookieSecret.dealing (minded.conducted.allows ht asks) answered

theorem step (minded : Minded config s) {l : Label} (step : Step config surroundings s l s') : Minded config s' := by
  have conducted := minded.conducted.step (Reconcile.run_shares config) (fun _ _ _ _ _ _ _ => trivial) step
  cases step with
  | arrives event =>
    refine ⟨conducted, ?_, fun t ht value aware => ?_⟩
    · rw [List.countP_append, minded.counted]
      rfl
    · rcases List.mem_append.1 ht with old | new
      · exact minded.known t old value aware
      · obtain rfl := List.mem_singleton.1 new
        cases aware
  | drifts _ => exact ⟨conducted, minded.counted, minded.known⟩
  | @proceeds i t r next reply shared env ht asks answered taken =>
    have dealing := minded.dealing ht asks answered
    obtain ⟨n, before, after⟩ := countP_set (fun t : Task => t.standing.isLoading) ht
    rw [minded.counted] at before
    refine ⟨conducted, ?_, fun u hu value aware => ?_⟩
    · rw [after, Task.standing_after]
      exact dealing.counted before.symm
    · rcases List.mem_or_eq_of_mem_set hu with old | rfl
      · exact dealing.filled before.symm (minded.known u old value aware)
      · rw [Task.standing_after] at aware
        exact dealing.known (minded.known t (List.mem_of_getElem? ht)) aware

theorem alone (minded : Minded config s) {j : Nat} {t' : Task} {load load' : History Operator}
    (ht : s.tasks[i]? = some t) (ht' : s.tasks[j]? = some t') (loads : t.standing = .loading load)
    (loads' : t'.standing = .loading load') : i = j := by
  obtain ⟨before, later, same, rfl, -⟩ := exists_of_getElem?_eq_some ht
  have one : s.tasks.countP (fun t => t.standing.isLoading) ≤ 1 := minded.counted ▸ loaders_le _
  rw [same] at one ht'
  rw [List.countP_append, List.countP_cons_of_pos (by rw [loads]; rfl)] at one
  have nowhere : t' ∉ before ∧ t' ∉ later := by
    constructor
    · intro ht'
      have more : 0 < before.countP fun t => t.standing.isLoading :=
        List.countP_pos_iff.2 ⟨t', ht', by rw [loads']; rfl⟩
      omega
    · intro ht'
      have more : 0 < later.countP fun t => t.standing.isLoading :=
        List.countP_pos_iff.2 ⟨t', ht', by rw [loads']; rfl⟩
      omega
  rcases Nat.lt_trichotomy before.length j with lt | eq | gt
  · rw [List.getElem?_append_right (Nat.le_of_lt lt), List.getElem?_cons] at ht'
    rw [if_neg (by omega)] at ht'
    exact absurd (List.mem_of_getElem? ht') nowhere.2
  · exact eq
  · rw [List.getElem?_append_left gt] at ht'
    exact absurd (List.mem_of_getElem? ht') nowhere.1

theorem busy_iff (minded : Minded config s) :
    s.shared.cell = .loading ↔ ∃ t ∈ s.tasks, t.standing.isLoading = true := by
  rw [← List.countP_pos_iff, minded.counted]
  cases s.shared.cell with
  | loading => exact ⟨fun _ => Nat.one_pos, fun _ => rfl⟩
  | empty | filled _ => exact ⟨nofun, nofun⟩

theorem cell_loading (minded : Minded config s) (ht : s.tasks[i]? = some t) {load : History Operator}
    (loads : t.standing = .loading load) : s.shared.cell = .loading :=
  minded.busy_iff.2 ⟨t, List.mem_of_getElem? ht, by rw [loads]; rfl⟩

theorem allows (minded : Minded config s) (ht : s.tasks[i]? = some t) (asks : t.rest = .ask (I := Operator) r next) :
    Standing.Allows config.operatorNamespace t.standing r :=
  minded.conducted.allows ht asks

theorem course (minded : Minded config s) (ht : s.tasks[i]? = some t) {load : History Operator}
    (loads : t.standing = .loading load) :
    ∃ r next, t.rest = .ask (I := Operator) r next ∧ Loads config.operatorNamespace load r := by
  cases hr : t.rest with
  | done o =>
    have ended : t.standing.isLoading = false := by
      have keeps := minded.conducted t (List.mem_of_getElem? ht)
      rw [hr] at keeps
      exact keeps
    rw [loads] at ended
    cases ended
  | ask r next =>
    have allowed := minded.allows ht hr
    rw [loads] at allowed
    exact ⟨r, next, rfl, allowed⟩

/-- A loading that has come to nothing is followed by leaving the cell. -/
theorem leaves (minded : Minded config s) (ht : s.tasks[i]? = some t) {load : History Operator}
    (loads : t.standing = .loading load) {o : Outcome String}
    (ran : Program.Runs (loadOrCreate config.operatorNamespace) load o) (failed : ∀ value, o ≠ .ok value) :
    (∃ turn s', Step config surroundings s (.proceeds i turn) s') ∧
      ∀ turn s', Step config surroundings s (.proceeds i turn) s' → s'.shared.cell = .empty := by
  have back : Standing.handBack o = .leaveCell := by
    cases o with
    | ok value => exact absurd rfl (failed value)
    | error _ | panic => rfl
  obtain ⟨r, next, asks, asked | ⟨o', ran', hr⟩⟩ := minded.course ht loads
  · exact absurd asked ran.not_asks
  · obtain rfl := ran.unique ran'
    obtain rfl := hr.trans back
    refine ⟨⟨⟨.leaveCell, ()⟩, _, .proceeds ht asks rfl rfl⟩, fun turn s' step => ?_⟩
    cases step with
    | @proceeds _ u r' next' reply shared _ hu asks' answered taken =>
      obtain rfl := Option.some.inj (hu.symm.trans ht)
      cases asks.symm.trans asks'
      rw [show shared = _ from answered]

theorem loader (minded : Minded config s) {turn : Turn Operator}
    (step : Step config surroundings s (.proceeds i turn) s') (inside : turn.kind ∈ internal) :
    ∃ t load, s.tasks[i]? = some t ∧ t.standing = .loading load := by
  cases step with
  | @proceeds _ t r next reply _ _ ht asks answered taken =>
    have allowed := minded.allows ht asks
    cases standing : t.standing with
    | loading load => exact ⟨t, load, ht, standing⟩
    | unaware | aware _ =>
      rw [standing] at allowed
      exact absurd inside (Standing.not_internal rfl allowed)

end Minded

/-- Whoever has come to the cell can go on unless the cell is being loaded, and is told what is in it. -/
theorem Step.exists_enters_iff {i : Nat} {t : Task} {next : Option String → Program Operator (Outcome Followup)}
    {held : Option String} (ht : s.tasks[i]? = some t) (asks : t.rest = .ask (I := Operator) .enterCell next) :
    (∃ s', Step config surroundings s (.proceeds i ⟨.enterCell, held⟩) s') ↔
      s.shared.cell = held.elim .empty .filled := by
  constructor
  · rintro ⟨s', step⟩
    cases step with
    | proceeds _ _ answered _ =>
      rcases Shared.answers_enterCell_iff.1 answered with ⟨rfl, empty, -⟩ | ⟨value, rfl, filled, -⟩
      · exact empty
      · exact filled
  · intro cell
    cases held with
    | none =>
      have answered := Shared.answers_enterCell_iff.2 (.inl ⟨rfl, cell, rfl⟩)
      exact ⟨_, .proceeds ht asks answered rfl⟩
    | some value =>
      have answered := Shared.answers_enterCell_iff.2 (.inr ⟨value, rfl, cell, rfl⟩)
      exact ⟨_, .proceeds ht asks answered rfl⟩

/-! ## Once a loading has come to a value -/

/-- A loading has come to this value, which is in the cell or about to be put there. -/
def Found (config : Config) (value : String) (s : System E) : Prop :=
  s.shared.cell = .filled value ∨
    ∃ (i : Nat) (t : Task) (load : History Operator), s.tasks[i]? = some t ∧ t.standing = .loading load ∧
      Program.Runs (loadOrCreate config.operatorNamespace) load (.ok value)

/-- What a turn is like once a loading has come to a value: the object is neither read nor created, whoever comes to
the cell is given the value, the cell is left alone unless it is filled with the value, and a proxy is given the
value. -/
def Turn.Heeds (value : String) : Turn Operator → Prop
  | ⟨.call (.getSecret _ _), _⟩ | ⟨.call (.createSecret _), _⟩ | ⟨.leaveCell, _⟩ => False
  | ⟨.enterCell, held⟩ => held = some value
  | ⟨.fillCell other, _⟩ => other = value
  | ⟨.call (.applySecret secret), _⟩ => Carries secret value
  | _ => True

def Label.Heeds (value : String) : Label → Prop
  | .proceeds _ turn => turn.Heeds value
  | _ => True

/-- Whoever is not loading heeds the value, if that is the only one that may be known. -/
theorem Turn.heeds_of_idle {ns value : String} {standing : Standing} {turn : Turn Operator}
    (idle : standing.isLoading = false) (enter : turn.kind ≠ .enterCell)
    (allowed : Standing.Allows ns standing turn.request) (known : ∀ other, standing = .aware other → other = value) :
    turn.Heeds value := by
  have apart : turn.kind ∉ internal := Standing.not_internal idle allowed
  unfold Heeds
  split
  · exact apart (show RequestKind.call .getSecret ∈ internal by decide)
  · exact apart (show RequestKind.call .createSecret ∈ internal by decide)
  · exact apart (show RequestKind.leaveCell ∈ internal by decide)
  · exact absurd rfl enter
  · exact absurd (show RequestKind.fillCell ∈ internal by decide) apart
  · cases standing with
    | loading _ => cases idle
    | unaware => exact absurd List.mem_cons_self allowed
    | aware other => exact known other rfl ▸ allowed.2 _ rfl
  · trivial

namespace Found

variable {value : String} {t : Task} {i : Nat} {r : OperatorRequest} {reply : r.Reply} {shared : Shared}

/-- Once the value is in the cell it stays there, and everybody goes by it. -/
theorem kept (minded : Minded config s) (ht : s.tasks[i]? = some t) (filled : s.shared.cell = .filled value)
    (dealing : Dealing config.operatorNamespace t.standing s.shared.cell ⟨r, reply⟩ (t.standing.next r reply)
      shared.cell) : shared.cell = .filled value ∧ Turn.Heeds value ⟨r, reply⟩ := by
  obtain ⟨n, before, -⟩ := countP_set (fun t : Task => t.standing.isLoading) ht
  rw [minded.counted] at before
  refine ⟨dealing.filled before.symm filled, ?_⟩
  have known : ∀ other, t.standing = .aware other → other = value := by
    intro other aware
    have cell := minded.known t (List.mem_of_getElem? ht) other aware
    exact Cell.filled.inj (cell.symm.trans filled)
  have busy : ∀ load, t.standing ≠ .loading load := by
    intro load loads
    cases filled.symm.trans (minded.cell_loading ht loads)
  generalize s.shared.cell = cell at dealing filled
  generalize t.standing = standing at dealing known busy
  generalize standing.next r reply = standing' at dealing
  generalize shared.cell = cell' at dealing
  generalize (⟨r, reply⟩ : Turn Operator) = turn at dealing ⊢
  cases dealing with
  | begins _ => cases filled
  | learns _ =>
    cases filled
    exact rfl
  | loads _ | fills _ | leaves _ _ => exact absurd rfl (busy _)
  | other idle enter allowed => exact Turn.heeds_of_idle idle enter allowed known

/-- While the value is about to be put into the cell, only whoever has loaded it has to do with the cell. -/
theorem settled {u : Task} {j : Nat} {load : History Operator} (minded : Minded config s) (ht : s.tasks[i]? = some t)
    (hu : s.tasks[j]? = some u) (loads : u.standing = .loading load)
    (ran : Program.Runs (loadOrCreate config.operatorNamespace) load (.ok value))
    (dealing : Dealing config.operatorNamespace t.standing s.shared.cell ⟨r, reply⟩ (t.standing.next r reply)
      shared.cell) : (i = j → shared.cell = .filled value) ∧ Turn.Heeds value ⟨r, reply⟩ := by
  have busy := minded.cell_loading hu loads
  have unknown : ∀ other, t.standing ≠ .aware other := by
    intro other aware
    cases busy.symm.trans (minded.known t (List.mem_of_getElem? ht) other aware)
  have mine : ∀ load', t.standing = .loading load' → load' = load := by
    intro load' loads'
    obtain rfl := minded.alone ht hu loads' loads
    obtain rfl := Option.some.inj (ht.symm.trans hu)
    exact Standing.loading.inj (loads'.symm.trans loads)
  have own : i = j → t.standing.isLoading = true := by
    rintro rfl
    obtain rfl := Option.some.inj (ht.symm.trans hu)
    rw [loads]
    rfl
  generalize s.shared.cell = cell at dealing busy
  generalize t.standing = standing at dealing unknown mine own
  generalize standing.next r reply = standing' at dealing
  generalize shared.cell = cell' at dealing ⊢
  generalize (⟨r, reply⟩ : Turn Operator) = turn at dealing ⊢
  cases dealing with
  | begins _ | learns _ => cases busy
  | loads asked =>
    obtain rfl := mine _ rfl
    exact absurd asked ran.not_asks
  | fills ran' =>
    obtain rfl := mine _ rfl
    cases ran.unique ran'
    exact ⟨fun _ => rfl, rfl⟩
  | leaves ran' failed =>
    obtain rfl := mine _ rfl
    exact absurd (ran'.unique ran) (failed value)
  | other idle enter allowed =>
    refine ⟨fun same => absurd (own same) (by simp [idle]), ?_⟩
    exact Turn.heeds_of_idle idle enter allowed fun other aware => absurd aware (unknown other)

theorem step (minded : Minded config s) (found : Found config value s) {l : Label}
    (step : Step config surroundings s l s') : Found config value s' ∧ l.Heeds value := by
  cases step with
  | arrives event =>
    refine ⟨?_, trivial⟩
    rcases found with filled | ⟨i, t, load, ht, loads, ran⟩
    · exact .inl filled
    · exact .inr ⟨i, t, load, (List.getElem?_append_left (List.getElem?_eq_some_iff.1 ht).1).trans ht, loads, ran⟩
  | drifts _ => exact ⟨found, trivial⟩
  | @proceeds i t r next reply shared env ht asks answered taken =>
    have dealing := minded.dealing ht asks answered
    rcases found with filled | ⟨j, u, load, hu, loads, ran⟩
    · obtain ⟨filled', heeds⟩ := kept minded ht filled dealing
      exact ⟨.inl filled', heeds⟩
    · obtain ⟨fills, heeds⟩ := settled minded ht hu loads ran dealing
      refine ⟨?_, heeds⟩
      by_cases same : i = j
      · exact .inl (fills same)
      · exact .inr ⟨j, u, load, (List.getElem?_set_ne same).trans hu, loads, ran⟩

end Found

/-! ## Loading once -/

/-- **How the cookie secret is loaded**, in a state that a run has reached. -/
structure LoadedOnce (config : Config) (surroundings : Surroundings E) (s : System E) : Prop where
  -- No two reconciliations are loading at once, and one is if and only if the cell is being loaded.
  alone : ∀ (i j : Nat) (t t' : Task) load load', s.tasks[i]? = some t → s.tasks[j]? = some t' →
    t.standing = .loading load → t'.standing = .loading load' → i = j
  busy_iff : s.shared.cell = .loading ↔ ∃ t ∈ s.tasks, t.standing.isLoading = true
  -- Only a reconciliation that is loading reads or creates the object, or fills or leaves the cell.
  loader : ∀ i turn s', Step config surroundings s (.proceeds i turn) s' → turn.kind ∈ internal →
    ∃ t load, s.tasks[i]? = some t ∧ t.standing = .loading load
  -- It asks for what its loading asks for next, or, once that has ended, to give back the right to the cell.
  course : ∀ (i : Nat) (t : Task) load, s.tasks[i]? = some t → t.standing = .loading load →
    ∃ r next, t.rest = .ask (I := Operator) r next ∧ Loads config.operatorNamespace load r
  -- A loading that has failed or broken down leaves the cell empty, at once.
  leaves : ∀ (i : Nat) (t : Task) load o, s.tasks[i]? = some t → t.standing = .loading load →
    Program.Runs (loadOrCreate config.operatorNamespace) load o → (∀ value, o ≠ .ok value) →
      (∃ turn s', Step config surroundings s (.proceeds i turn) s') ∧
      ∀ turn s', Step config surroundings s (.proceeds i turn) s' → s'.shared.cell = .empty
  -- Whoever comes to the cell, or has been waiting there, is told that it is empty, or what is in it.
  enters : ∀ (i : Nat) (t : Task) next held, s.tasks[i]? = some t → t.rest = .ask (I := Operator) .enterCell next →
    ((∃ s', Step config surroundings s (.proceeds i ⟨.enterCell, held⟩) s') ↔
      s.shared.cell = held.elim .empty .filled)
  -- Whoever is told that it is empty begins a loading of its own.
  begins : ∀ i s', Step config surroundings s (.proceeds i ⟨.enterCell, none⟩) s' →
    ∃ t, s'.tasks[i]? = some t ∧ t.standing = .loading []
  -- Once a loading has come to a value, nobody loads any more, and every proxy is given that value.
  settled : ∀ value, Found config value s → ∀ ls s', Run config surroundings s ls s' →
    Found config value s' ∧ ∀ l ∈ ls, l.Heeds value

/-- **The cookie secret is loaded once.**  From a state without reconciliations and with an empty cell, every run of a
system comes only to states in which this holds, whatever the surroundings answer and whatever breaks down. -/
theorem secret_loaded_once (config : Config) (surroundings : Surroundings E) {start s : System E} {ls : List Label}
    (idle : start.tasks = []) (empty : start.shared.cell = .empty) (run : Run config surroundings start ls s) :
    LoadedOnce config surroundings s := by
  have minded : Minded config s := run.keeps (fun m step => m.step step) (.start idle empty)
  constructor
  case alone => exact fun i j t t' load load' ht ht' => minded.alone ht ht'
  case busy_iff => exact minded.busy_iff
  case loader => exact fun i turn s' step => minded.loader step
  case course => exact fun i t load ht => minded.course ht
  case leaves => exact fun i t load o ht loads ran => minded.leaves ht loads ran
  case enters => exact fun i t next held ht asks => Step.exists_enters_iff ht asks
  case begins =>
    intro i s' step
    cases step with
    | @proceeds _ t r next reply _ _ ht asks answered taken =>
      refine ⟨_, List.getElem?_set_self (List.getElem?_eq_some_iff.1 ht).1, ?_⟩
      exact Task.standing_after.trans Standing.next_enterCell_none
  case settled =>
    intro value found ls' s' later
    clear run
    induction later with
    | none _ => exact ⟨found, List.forall_mem_nil _⟩
    | step first _ ih =>
      obtain ⟨found', heeds⟩ := found.step minded first
      obtain ⟨found'', all⟩ := ih (minded.step first) found'
      exact ⟨found'', List.forall_mem_cons.2 ⟨heeds, all⟩⟩

/-! ### A loading that breaks down while another one waits -/

def member (name : String) : Sso :=
  { Provision.sample with metadata := { name := some name, namespaceName := some "jx" } }

/-- What a reconciliation is given up to the cell. -/
def approach (name : String) : History Operator :=
  Reconcile.opening ⟨"jx", name⟩ true ++
    [⟨.call (.getSso "jx" name), .ok (some (member name))⟩,
      ⟨.call (.patchSsoFinalizers "jx" name [Finalizer.name]), .ok ()⟩,
      ⟨.call (.ensureClusterRoleBinding "role" "jx"), .ok "account"⟩]

def choices : Fin secretLength → Fin alphabetSize := fun _ => ⟨0, alphabetSize_pos⟩

def entering : Turn Operator := ⟨.enterCell, none⟩

/-- The turns of a loading that breaks down, and of one that finds no object and makes it. -/
def broken : History Operator := [⟨.call (.getSecret "sso" objectName), .panic⟩, ⟨.leaveCell, ()⟩]

def generated : History Operator :=
  [⟨.call (.getSecret "sso" objectName), .ok none⟩, ⟨.draw, choices⟩,
    ⟨.call (.createSecret (buildSecret "sso" (generate choices))), .ok ()⟩, ⟨.fillCell (generate choices), ()⟩]

theorem approach_leads (name : String) :
    ∃ next : Option String → Program Operator (Outcome Followup),
      Program.Leads (Reconcile.run Provision.sampleConfig (member name)) (approach name)
        (.ask (I := Operator) .enterCell next) ∧
      (∃ p, Program.Leads (next none) broken p) ∧ ∃ p, Program.Leads (next none) generated p :=
  ⟨_, .turn (.turn (.turn (.turn (.turn (.here _))))), ⟨_, .turn (.turn (.here _))⟩,
    ⟨_, .turn (.turn (.turn (.turn (.here _))))⟩⟩

/-- Where anything may happen, a call may end in any way. -/
theorem Serves.call {event : Sso} {shared shared' : Shared} {c : Call} {outcome : Outcome c.Result}
    {h : History Operator} (later : Serves Surroundings.unruly event shared () h shared' ()) :
    Serves Surroundings.unruly event shared () (⟨.call c, outcome⟩ :: h) shared' () :=
  .turn rfl trivial later

theorem approach_serves (name : String) {shared : Shared} {inFlight : InFlight}
    (free : shared.inFlight.tryAcquire ⟨"jx", name⟩ = some inFlight) :
    Serves Surroundings.unruly (member name) shared () (approach name)
      ⟨inFlight, shared.metrics.count .reconciled, shared.cell⟩ () := by
  have acquired : Shared.Answers { shared with metrics := shared.metrics.count .reconciled } (.acquire ⟨"jx", name⟩)
      true ⟨inFlight, shared.metrics.count .reconciled, shared.cell⟩ := by
    simp only [Shared.Answers, free]
    exact ⟨rfl, trivial⟩
  exact .turn rfl rfl (.turn acquired rfl (.call (.call (.call (.none _ _)))))

/-- The first reconciliation begins to load the secret, and the second comes to the cell.  The first breaks down, and
the second loads the secret itself. -/
def relay : List Label :=
  [.arrives (member "app"), .arrives (member "other")] ++ ((approach "app" ++ [entering]).map (.proceeds 0) ++
    ((approach "other").map (.proceeds 1) ++ (broken.map (.proceeds 0) ++ (entering :: generated).map (.proceeds 1))))

def bothKeys : InFlight := ⟨[⟨"jx", "other"⟩, ⟨"jx", "app"⟩], by decide⟩

theorem relay_run : ∃ s : System Unit, Run Provision.sampleConfig .unruly ⟨{}, (), []⟩ relay s ∧
    s.shared = ⟨bothKeys, { reconciled := 2 }, .filled (generate choices)⟩ := by
  obtain ⟨next, led, ⟨p, breaks⟩, -⟩ := approach_leads "app"
  obtain ⟨next', led', -, q, loads⟩ := approach_leads "other"
  let appKey : InFlight := ⟨[⟨"jx", "app"⟩], by simp⟩
  have begun : Run Provision.sampleConfig .unruly (System.mk {} () [])
      [.arrives (member "app"), .arrives (member "other")]
      ⟨{}, (), [.start Provision.sampleConfig (member "app"), .start Provision.sampleConfig (member "other")]⟩ :=
    .step (.arrives _ _) (.step (.arrives _ _) (.none _))
  have first : Serves .unruly (member "app") {} () (approach "app" ++ [entering])
      ⟨appKey, { reconciled := 1 }, .loading⟩ () :=
    (approach_serves "app" rfl).append (.turn ⟨rfl, rfl⟩ rfl (.none _ _))
  have second : Serves .unruly (member "other") ⟨appKey, { reconciled := 1 }, .loading⟩ () (approach "other")
      ⟨bothKeys, { reconciled := 2 }, .loading⟩ () := approach_serves "other" rfl
  have third : Serves .unruly (member "app") ⟨bothKeys, { reconciled := 2 }, .loading⟩ () broken
      ⟨bothKeys, { reconciled := 2 }, .empty⟩ () := .call (.turn rfl rfl (.none _ _))
  have fourth : Serves .unruly (member "other") ⟨bothKeys, { reconciled := 2 }, .empty⟩ () (entering :: generated)
      ⟨bothKeys, { reconciled := 2 }, .filled (generate choices)⟩ () :=
    .turn ⟨rfl, rfl⟩ rfl (.call (.turn rfl rfl (.call (.turn rfl rfl (.none _ _)))))
  exact ⟨_, run_append_iff.2 ⟨_, begun, run_append_iff.2 ⟨_, first.run _ rfl (led.append (.turn (.here _))),
    run_append_iff.2 ⟨_, second.run _ rfl led', run_append_iff.2 ⟨_, third.run _ rfl breaks,
    fourth.run _ rfl (.turn loads)⟩⟩⟩⟩, rfl⟩

/-- After the relay the cell holds what the second reconciliation loaded, and no loading follows. -/
theorem relay_loads_once : ∃ s : System Unit,
    Run Provision.sampleConfig .unruly ⟨{}, (), []⟩ relay s ∧ s.shared.cell = .filled (generate choices) ∧
      ∀ ls s', Run Provision.sampleConfig .unruly s ls s' → ∀ l ∈ ls, l.Heeds (generate choices) := by
  obtain ⟨s, run, shared⟩ := relay_run
  have filled : s.shared.cell = .filled (generate choices) := by rw [shared]
  have once := secret_loaded_once Provision.sampleConfig .unruly rfl rfl run
  exact ⟨s, run, filled, fun ls s' later => (once.settled _ (.inl filled) ls s' later).2⟩

end SignOnOperator
