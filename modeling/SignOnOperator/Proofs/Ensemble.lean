import Mathlib.Algebra.BigOperators.Group.List.Basic
import SignOnOperator.Proofs.Redelivery
import SignOnOperator.Proofs.Timetable
/-!
# Ensembles

Reconciliations side by side, each with a start of its own, a clock of its own that begins there, and a script of its
own for the replies; what they have in common is the operator's state and the stored SSOs.  They take their turns in any
order, in particular in that of their clocks.  What one turn does to what they have in common is said here: it leaves
alone what belongs to another SSO (`Strand.Proceeds.elsewhere`), and what its reply depends on is the cell, the key of
its own SSO, and that SSO if the script looks at it.
-/
namespace SignOnOperator

open Rehearsal (Cell Recorded)
open CookieSecret CookieSecret.Standing

/-! ## Counters -/

attribute [ext] Metrics

namespace Metrics

instance : Zero Metrics := ⟨{}⟩

instance : Add Metrics where
  add m m' :=
    { reconciled := m.reconciled + m'.reconciled
      failed := m.failed + m'.failed
      provisioned := m.provisioned + m'.provisioned
      cleanedUp := m.cleanedUp + m'.cleanedUp
      duplicates := m.duplicates + m'.duplicates
      compensated := m.compensated + m'.compensated }

/-- Counts add up, counter by counter. -/
instance : AddCommMonoid Metrics where
  add_assoc _ _ _ := by ext1 <;> exact UInt64.add_assoc _ _ _
  zero_add _ := by ext1 <;> exact UInt64.zero_add _
  add_zero _ := by ext1 <;> exact UInt64.add_zero _
  add_comm _ _ := by ext1 <;> exact UInt64.add_comm _ _
  nsmul := nsmulRec

theorem count_eq_add (m : Metrics) (c : Counter) : m.count c = m + count 0 c := by
  cases c <;> ext1 <;> first | rfl | exact (UInt64.add_zero _).symm

end Metrics

/-- What a turn counts. -/
def Turn.metrics : Turn Operator → Metrics
  | ⟨.count c, _⟩ => Metrics.count 0 c
  | _ => 0

theorem Shared.Answers.metrics_eq {s s' : Shared} {r : OperatorRequest} {reply : r.Reply}
    (answered : s.Answers r reply s') : s'.metrics = s.metrics + Turn.metrics ⟨r, reply⟩ := by
  cases r with
  | count c => rw [show s' = _ from answered]; exact s.metrics.count_eq_add c
  | acquire key =>
    simp only [Answers] at answered
    split at answered
    · rw [answered.2]; exact (add_zero _).symm
    · rw [answered.2]; exact (add_zero _).symm
  | enterCell =>
    rcases Shared.answers_enterCell_iff.1 answered with ⟨-, -, rfl⟩ | ⟨-, -, -, rfl⟩
    · exact (add_zero _).symm
    · exact (add_zero _).symm
  | release _ | call _ | clock | pause _ | draw | fillCell _ | leaveCell =>
    rw [show s' = _ from answered]
    exact (add_zero _).symm

/-! ## What is written to SSOs -/

inductive SsoWrite where
  | status (key : SsoKey) (status : SsoStatus)
  | finalizers (key : SsoKey) (finalizers : List String)

namespace SsoWrite

def key : SsoWrite → SsoKey
  | status key _ | finalizers key _ => key

/-- What becomes of the SSO.  One that is being deleted goes away once nothing holds it up. -/
def change : SsoWrite → Sso → Option Sso
  | status _ s, sso => some (sso.withStatus s)
  | finalizers _ names, sso =>
    if sso.metadata.isDeleted && names.isEmpty then none else some (sso.withFinalizers names)

theorem ofSso_change {w : SsoWrite} {sso sso' : Sso} (changed : w.change sso = some sso') :
    SsoKey.ofSso sso' = SsoKey.ofSso sso := by
  cases w with
  | status _ s =>
    obtain rfl := Option.some.inj changed
    rfl
  | finalizers _ names =>
    simp only [change] at changed
    split at changed
    · cases changed
    · obtain rfl := Option.some.inj changed
      rfl

end SsoWrite

/-- What a turn writes, if it is a write that worked. -/
def Turn.write? : Turn Operator → Option SsoWrite
  | ⟨.call (.patchSsoStatus ns name status), .ok _⟩ => some (.status ⟨ns, name⟩ status)
  | ⟨.call (.patchSsoFinalizers ns name finalizers), .ok _⟩ => some (.finalizers ⟨ns, name⟩ finalizers)
  | _ => none

/-- The SSO that a call is about, for calls that read or write one. -/
def Call.target? : Call → Option SsoKey
  | getSso ns name | patchSsoStatus ns name _ | patchSsoFinalizers ns name _ => some ⟨ns, name⟩
  | _ => none

namespace Attention

variable {owner : Except Error SsoKey} {attention : Attention} {key : SsoKey}

theorem Allows.target {c : Call} (allowed : Allows owner attention (.call c)) (target : c.target? = some key) :
    owner = .ok key := by
  cases c with
  | getSso | patchSsoStatus | patchSsoFinalizers => cases target; exact allowed.1
  | _ => cases target

theorem Allows.write {t : Turn Operator} {w : SsoWrite} (allowed : Allows owner attention t.request)
    (writes : t.write? = some w) : owner = .ok w.key := by
  unfold Turn.write? at writes
  split at writes
  · cases writes; exact allowed.1
  · cases writes; exact allowed.1
  · cases writes

end Attention

namespace SsoStore

def write (store : SsoStore) (w : SsoWrite) : SsoStore :=
  Function.update store w.key ((store w.key).bind w.change)

/-- The store after a turn. -/
def after (store : SsoStore) (t : Turn Operator) : SsoStore := t.write?.elim store store.write

variable {store store' : SsoStore} {t : Turn Operator} {key : SsoKey}

theorem after_of_ne (other : ∀ w, t.write? = some w → key ≠ w.key) : store.after t key = store key := by
  unfold after
  cases writes : t.write? with
  | none => rfl
  | some w => exact Function.update_of_ne (other w writes) ..

/-- What becomes of an SSO depends on that SSO only. -/
theorem after_congr (t : Turn Operator) (same : store key = store' key) : store.after t key = store'.after t key := by
  unfold after
  cases t.write? with
  | none => exact same
  | some w =>
    simp only [Option.elim_some, write, Function.update_apply]
    split
    next own => rw [← own, same]
    next => exact same

theorem Consistent.after (consistent : store.Consistent) (t : Turn Operator) : (store.after t).Consistent := by
  unfold SsoStore.after
  cases t.write? with
  | none => exact consistent
  | some w =>
    intro key sso stored
    simp only [Option.elim_some, write, Function.update_apply] at stored
    split at stored
    next own =>
      obtain ⟨sso', stored', changed⟩ := Option.bind_eq_some_iff.1 stored
      rw [SsoWrite.ofSso_change changed, own]
      exact consistent w.key sso' stored'
    next => exact consistent key sso stored

end SsoStore

/-! ## Strands -/

/-- What a reconciliation is given: its event, and its script.  How a call ends and how long it takes depends on the
calls that were made up to this one, and on the SSO that it is about, as that is stored. -/
structure Part where
  event : Sso
  outcome : List Call → Option Sso → (c : Call) → Outcome c.Result
  delay : List Call → Nat
  choices : List Call → Fin secretLength → Fin alphabetSize

namespace Part

/-- What the script holds for a request, which is the last of these calls if it is one. -/
def supply (part : Part) (calls : List Call) (store : SsoStore) : Supply where
  outcome _ c := part.outcome calls (c.target?.bind store) c
  delay _ := part.delay calls
  choices _ := part.choices calls

/-- All replies come from the script alone. -/
def IsBlind (part : Part) : Prop :=
  ∀ calls stored stored' c, part.outcome calls stored c = part.outcome calls stored' c

/-- An SSO that is read is the one that was asked for, if what is stored is. -/
def IsHonest (part : Part) : Prop :=
  ∀ calls stored ns name sso, (∀ sso, stored = some sso → SsoKey.ofSso sso = .ok ⟨ns, name⟩) →
    part.outcome calls stored (.getSso ns name) = .ok (some sso) → SsoKey.ofSso sso = .ok ⟨ns, name⟩

end Part

/-- What all reconciliations have in common. -/
structure Commons where
  shared : Shared
  store : SsoStore

/-- A reconciliation in an ensemble: what it is given, when it began, what its clock shows, the calls that it made and
when, what it has been given, and what is left of it. -/
structure Strand where
  part : Part
  start : Nat
  now : Nat
  log : List Recorded
  history : History Operator
  rest : Program Operator (Outcome Followup)

namespace Strand

def fresh (config : Config) (part : Part) (start : Nat) : Strand :=
  ⟨part, start, start, [], [], Reconcile.attend config part.event⟩

/-- The key of the SSO that it is about. -/
def owner (t : Strand) : Except Error SsoKey := SsoKey.ofSso t.part.event

/-- The calls including a request that is made now. -/
def record (t : Strand) (r : OperatorRequest) : List Recorded := t.log ++ r.recorded t.now

def supply (t : Strand) (store : SsoStore) (r : OperatorRequest) : Supply :=
  t.part.supply ((t.record r).map (·.call)) store

def moment (t : Strand) (shared : Shared) : Moment := ⟨shared, t.now, t.log.length, 0⟩

def after (t : Strand) (turn : Turn Operator) (now : Nat) (rest : Program Operator (Outcome Followup)) : Strand :=
  { t with now, log := t.record turn.request, history := t.history ++ [turn], rest }

/-- One turn of a reconciliation. -/
inductive Proceeds (c : Commons) (t : Strand) : Commons → Strand → Prop where
  | turn {r : OperatorRequest} {next : r.Reply → Program Operator (Outcome Followup)} {reply : r.Reply} {m : Moment}
      (asks : t.rest = .ask (I := Operator) r next)
      (answered : (t.supply c.store r).Answers (t.moment c.shared) r reply m) :
      Proceeds c t ⟨m.shared, c.store.after ⟨r, reply⟩⟩ (t.after ⟨r, reply⟩ m.now (next reply))

theorem Proceeds.unique {c c' c'' : Commons} {t t' t'' : Strand} (proceeds : Proceeds c t c' t')
    (proceeds' : Proceeds c t c'' t'') : c' = c'' ∧ t' = t'' := by
  obtain ⟨asks, answered⟩ := proceeds
  obtain ⟨asks', answered'⟩ := proceeds'
  cases asks.symm.trans asks'
  obtain ⟨rfl, rfl⟩ := answered.unique answered'
  exact ⟨rfl, rfl⟩

/-- What is counted is what the turns count. -/
theorem Proceeds.metrics {c c' : Commons} {t t' : Strand} (proceeds : Proceeds c t c' t') :
    ∃ turn, t'.history = t.history ++ [turn] ∧ c'.shared.metrics = c.shared.metrics + turn.metrics := by
  obtain ⟨asks, answered⟩ := proceeds
  exact ⟨_, rfl, answered.shared.metrics_eq⟩

end Strand

/-! ## Ensembles -/

/-- Reconciliations side by side. -/
structure Ensemble where
  commons : Commons
  strands : List Strand

namespace Ensemble

/-- All begin, each at its time. -/
def start (config : Config) (commons : Commons) (parts : List (Part × Nat)) : Ensemble :=
  ⟨commons, parts.map fun p => .fresh config p.1 p.2⟩

/-- One turn of one of the reconciliations. -/
inductive Step : Ensemble → Ensemble → Prop where
  | proceeds {c c' : Commons} {before after : List Strand} {t t' : Strand} (proceeds : t.Proceeds c c' t') :
      Step ⟨c, before ++ t :: after⟩ ⟨c', before ++ t' :: after⟩

abbrev Run : Ensemble → Ensemble → Prop := Relation.ReflTransGen Step

/-- All have ended. -/
def IsOver (e : Ensemble) : Prop := ∀ t ∈ e.strands, ∃ o, t.rest = .done o

end Ensemble

/-! ## What a reconciliation asks for -/

/-- The key that a request is about. -/
def OperatorRequest.key? : OperatorRequest → Option SsoKey
  | acquire key | release key => some key
  | _ => none

namespace Reconcile

variable {config : Config} {event : Sso}

/-- What a reconciliation keeps to, it keeps to with its failure dealt with. -/
theorem attend_keeps {σ : Type} {P : Protocol Operator σ} {post : σ → Outcome Followup → Prop} {s : σ}
    (keeps : Program.Keeps P post (run config event) s) (counts : ∀ s o, post s o → P.allows s (.count .failed)) :
    Program.Keeps P (fun _ _ => True) (attend config event) s := by
  refine Program.keeps_bind_iff.2 (keeps.imp fun s o ended => ?_)
  cases o with
  | ok _ => exact trivial
  | error e => exact ⟨counts s _ ended, fun _ _ => trivial⟩
  | panic => exact trivial

/-- A reconciliation asks only for the key of its own SSO. -/
theorem attend_asks_own {h : History Operator} {r : OperatorRequest} {key : SsoKey}
    (asked : Program.Asks (attend config event) h r) (about : r.key? = some key) : SsoKey.ofSso event = .ok key := by
  rcases Program.asks_bind_iff.1 asked with ⟨next, led⟩ | ⟨o, h₁, h₂, -, -, later⟩
  · have stage := (Stage.start config event).later led
    generalize hp : (Program.ask r next : Program Operator (Outcome Followup)) = p at stage
    cases stage with
    | fresh | refused _ => cases hp; cases about
    | homeless _ | dropped _ | ended _ _ => cases hp
    | waiting hk | leaving hk _ => cases hp; cases about; exact hk
    | @working key' h r' next' hk inside =>
      cases hp
      have known := (admitted_confined config key').asks h r ⟨next', inside⟩
      cases r with
      | acquire _ => exact absurd known (show RequestKind.acquire ∉ admittedFootprint by decide)
      | release _ => exact absurd known (show RequestKind.release ∉ admittedFootprint by decide)
      | _ => cases about
  · cases o with
    | ok _ | panic => exact absurd later Program.not_asks_done
    | error e =>
      rcases Program.asks_ask_iff.1 later with ⟨-, rfl⟩ | ⟨_, _, _, later⟩
      · cases about
      · exact absurd later Program.not_asks_done

end Reconcile

/-- A request that is made on behalf of one SSO, while the cookie secret is loaded: if the stored SSOs are looked at,
it reads and writes no other. -/
structure OperatorRequest.Belongs (looks : Prop) (owner : Except Error SsoKey) (r : OperatorRequest) : Prop where
  own : ∀ key, r.key? = some key → owner = .ok key
  foreign : r.kind ∉ internal
  tends : looks → ∃ attention, Attention.Allows owner attention r

/-- A reconciliation that goes on as it should. -/
structure Strand.IsSound (config : Config) (looks : Prop) (t : Strand) : Prop where
  led : Program.Leads (Reconcile.attend config t.part.event) t.history t.rest
  shares : ∃ standing : Standing, standing.isLoading = false ∧
    Program.Keeps (sharing config.operatorNamespace) (fun _ _ => True) t.rest standing
  tends : looks → ∃ attention, Program.Keeps (tending t.owner) (fun _ _ => True) t.rest attention

/-- The cookie secret is loaded, and the SSOs are stored where they belong, if they are looked at. -/
structure Commons.IsSound (looks : Prop) (c : Commons) : Prop where
  filled : ∃ value, c.shared.cell = .filled value
  consistent : looks → c.store.Consistent

variable {config : Config} {looks : Prop} {c c' : Commons} {t t' : Strand}

namespace Strand

theorem isSound_fresh (config : Config) (looks : Prop) (part : Part) (start : Nat) :
    (fresh config part start).IsSound config looks where
  led := .here _
  shares := by
    refine ⟨.unaware, rfl, Reconcile.attend_keeps (Reconcile.run_shares config part.event) fun s _ idle => ?_⟩
    exact allows_of_idle (r := .count .failed) idle (by decide)
  tends _ := ⟨.unread, Reconcile.attend_keeps (Reconcile.run_tends config part.event) fun _ _ _ => trivial⟩

theorem IsSound.belongs (sound : t.IsSound config looks) {r : OperatorRequest}
    {next : r.Reply → Program Operator (Outcome Followup)} (asks : t.rest = .ask (I := Operator) r next) :
    r.Belongs looks t.owner := by
  have led := sound.led
  obtain ⟨standing, idle, shares⟩ := sound.shares
  have tends := sound.tends
  rw [asks] at led shares tends
  refine ⟨fun key about => Reconcile.attend_asks_own ⟨next, led⟩ about, Standing.not_internal idle shares.1, ?_⟩
  intro looking
  obtain ⟨attention, keeps⟩ := tends looking
  exact ⟨attention, keeps.1⟩

end Strand

namespace OperatorRequest.Belongs

variable {owner : Except Error SsoKey} {r : OperatorRequest} {reply : r.Reply} {s s' : Shared}

/-- A secret that is loaded stays so. -/
theorem cell_eq (belongs : r.Belongs looks owner) (answered : s.Answers r reply s')
    (filled : ∃ value, s.cell = .filled value) : s'.cell = s.cell := by
  obtain ⟨value, filled⟩ := filled
  have foreign : ∀ kind ∈ internal, r.kind ≠ kind := fun _ hk is => belongs.foreign (is ▸ hk)
  by_cases enter : r.kind = .enterCell
  · cases r with
    | enterCell =>
      rcases Shared.answers_enterCell_iff.1 answered with ⟨-, empty, -⟩ | ⟨-, -, -, rfl⟩
      · cases filled.symm.trans empty
      · rfl
    | _ => cases enter
  · exact answered.cell_eq enter (foreign _ (by decide)) (foreign _ (by decide))

/-- Whether a key is in flight changes only for the SSO's own key. -/
theorem mem_keys_iff (belongs : r.Belongs looks owner) (answered : s.Answers r reply s') {key : SsoKey}
    (other : owner ≠ .ok key) : key ∈ s'.inFlight.keys ↔ key ∈ s.inFlight.keys := by
  cases r with
  | acquire key' =>
    have ne : key ≠ key' := by rintro rfl; exact other (belongs.own key rfl)
    rcases answered.acquire with ⟨-, -, taken⟩ | ⟨-, -, rfl⟩
    · rw [taken, List.mem_cons, or_iff_right ne]
    · rfl
  | release key' =>
    have ne : key ≠ key' := by rintro rfl; exact other (belongs.own key rfl)
    rw [show s' = _ from answered]
    exact List.mem_erase_of_ne ne
  | _ => rw [answered.inFlight_eq nofun nofun]

end OperatorRequest.Belongs

namespace Strand

/-- An honest script gives what a reconciliation counts on. -/
theorem expects (t : Strand) {r : OperatorRequest} {reply : r.Reply} {m m' : Moment}
    (answered : (t.supply c.store r).Answers m r reply m') (honest : t.part.IsHonest) (consistent : c.store.Consistent)
    {owner : Except Error SsoKey} {attention : Attention} (allowed : Attention.Allows owner attention r) :
    Attention.Expects owner r reply := by
  unfold Attention.Expects
  split
  next ns name sso =>
    rw [allowed.1]
    exact honest _ _ ns name sso (consistent ⟨ns, name⟩) answered.1.symm
  next => trivial

/-- What a sound reconciliation does leaves it sound, and what it has in common with the others. -/
theorem Proceeds.isSound (proceeds : Proceeds c t c' t') (honest : looks → t.part.IsHonest)
    (common : c.IsSound looks) (sound : t.IsSound config looks) : c'.IsSound looks ∧ t'.IsSound config looks := by
  obtain @⟨r, next, reply, m, asks, answered⟩ := proceeds
  have belongs := sound.belongs asks
  have shared : c.shared.Answers r reply m.shared := answered.shared
  have cell := belongs.cell_eq shared common.filled
  have led := sound.led
  obtain ⟨standing, idle, shares⟩ := sound.shares
  have tends := sound.tends
  rw [asks] at led shares tends
  refine ⟨⟨?_, fun looking => (common.consistent looking).after _⟩, ?_, ?_, fun looking => ?_⟩
  · exact cell ▸ common.filled
  · exact led.append (.turn (.here _))
  · -- Nobody begins to load a secret that is there.
    obtain ⟨value, filled⟩ := common.filled
    have before : 0 + standing.isLoading.toNat = loaders c.shared.cell := by rw [idle, filled]; rfl
    have counted := (dealing shares.1 shared).counted before
    rw [cell, filled, Nat.zero_add] at counted
    exact ⟨_, Bool.toNat_eq_zero.1 counted, shares.2 reply trivial⟩
  · obtain ⟨attention, keeps⟩ := tends looking
    exact ⟨_, keeps.2 reply (t.expects answered (honest looking) (common.consistent looking) keeps.1)⟩

/-- While the secret is loaded nobody has to wait for a reply. -/
theorem exists_proceeds (common : c.IsSound looks) {r : OperatorRequest}
    {next : r.Reply → Program Operator (Outcome Followup)} (asks : t.rest = .ask (I := Operator) r next) :
    ∃ reply c' t', t.Proceeds c c' t' ∧ t'.rest = next reply := by
  obtain ⟨value, filled⟩ := common.filled
  obtain ⟨reply, m, answered⟩ := (t.supply c.store r).exists_answers (t.moment c.shared) r fun _ loading => by
    cases filled.symm.trans loading
  exact ⟨reply, _, _, .turn asks answered, rfl⟩

end Strand

/-! ## What belongs to one SSO -/

variable {owner : Except Error SsoKey}

/-- On the cell and on whether the key of an SSO is in flight, both agree. -/
structure Shared.Agrees (owner : Except Error SsoKey) (s s' : Shared) : Prop where
  cell : s.cell = s'.cell
  held : ∀ key, owner = .ok key → (key ∈ s.inFlight.keys ↔ key ∈ s'.inFlight.keys)

/-- On what a reconciliation of an SSO depends on, both agree. -/
structure Commons.Agrees (looks : Prop) (owner : Except Error SsoKey) (c c' : Commons) : Prop where
  shared : c.shared.Agrees owner c'.shared
  stored : looks → ∀ key, owner = .ok key → c.store key = c'.store key

theorem Commons.Agrees.refl : c.Agrees looks owner c where
  shared := ⟨rfl, fun _ _ => Iff.rfl⟩
  stored _ _ _ := rfl

theorem Commons.Agrees.trans {c'' : Commons} (agrees : c.Agrees looks owner c') (agrees' : c'.Agrees looks owner c'') :
    c.Agrees looks owner c'' where
  shared :=
    { cell := agrees.shared.cell.trans agrees'.shared.cell
      held := fun key own => (agrees.shared.held key own).trans (agrees'.shared.held key own) }
  stored looking key own := (agrees.stored looking key own).trans (agrees'.stored looking key own)

/-- **A reconciliation leaves alone what belongs to another SSO.** -/
theorem Strand.Proceeds.elsewhere (proceeds : t.Proceeds c c' t') (common : c.IsSound looks)
    (sound : t.IsSound config looks) (other : ∀ key, owner = .ok key → t.owner ≠ .ok key) :
    c.Agrees looks owner c' := by
  obtain @⟨r, next, reply, m, asks, answered⟩ := proceeds
  have belongs := sound.belongs asks
  have shared : c.shared.Answers r reply m.shared := answered.shared
  refine ⟨⟨(belongs.cell_eq shared common.filled).symm, fun key own => ?_⟩, fun looking key own => ?_⟩
  · exact (belongs.mem_keys_iff shared (other key own)).symm
  · obtain ⟨attention, allowed⟩ := belongs.tends looking
    refine (SsoStore.after_of_ne ?_).symm
    rintro w writes rfl
    exact other w.key own (allowed.write writes)

namespace OperatorRequest.Belongs

variable {r : OperatorRequest} {reply : r.Reply} {s s' a a' : Shared}

/-- What is answered in one of two states that agree is answered so in the other. -/
theorem exists_answers (belongs : r.Belongs looks owner) (agrees : a.Agrees owner s)
    (filled : ∃ value, s.cell = .filled value) (answered : s.Answers r reply s') : ∃ a', a.Answers r reply a' := by
  cases r with
  | acquire key =>
    have held := agrees.held key (belongs.own key rfl)
    rcases answered.acquire with ⟨free, absent, -⟩ | ⟨refused, present, -⟩
    · exact Shared.exists_answers_acquire ⟨fun _ => held.not.2 absent, fun _ => free⟩
    · exact Shared.exists_answers_acquire
        ⟨fun free => absurd (refused.symm.trans free) nofun, fun absent => absurd (held.2 present) absent⟩
  | enterCell =>
    obtain ⟨value, filled⟩ := filled
    rcases Shared.answers_enterCell_iff.1 answered with ⟨-, empty, -⟩ | ⟨value, given, known, -⟩
    · cases filled.symm.trans empty
    · exact ⟨a, Shared.answers_enterCell_iff.2 (.inr ⟨value, given, agrees.cell.trans known, rfl⟩)⟩
  | _ => exact ⟨_, rfl⟩

theorem agrees (belongs : r.Belongs looks owner) (agrees : a.Agrees owner s)
    (filled : ∃ value, s.cell = .filled value) (answered : s.Answers r reply s') (answered' : a.Answers r reply a') :
    a'.Agrees owner s' where
  cell := by
    rw [belongs.cell_eq answered filled, belongs.cell_eq answered' (agrees.cell ▸ filled), agrees.cell]
  held key own := by
    cases r with
    | acquire key' =>
      cases own.symm.trans (belongs.own key' rfl)
      rcases answered.acquire with ⟨rfl, -, taken⟩ | ⟨rfl, -, rfl⟩
      · rcases answered'.acquire with ⟨-, -, taken'⟩ | ⟨⟨⟩, -⟩
        simp [taken, taken']
      · rcases answered'.acquire with ⟨⟨⟩, -⟩ | ⟨-, -, rfl⟩
        exact agrees.held key own
    | release key' =>
      cases own.symm.trans (belongs.own key' rfl)
      rw [show s' = _ from answered, show a' = _ from answered']
      exact iff_of_false a.inFlight.nodup.not_mem_erase s.inFlight.nodup.not_mem_erase
    | _ => rw [answered.inFlight_eq nofun nofun, answered'.inFlight_eq nofun nofun, agrees.held key own]

end OperatorRequest.Belongs

end SignOnOperator
