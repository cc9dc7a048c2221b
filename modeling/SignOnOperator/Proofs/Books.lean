import SignOnOperator.Proofs.Redelivery
import SignOnOperator.Proofs.Release
/-!
# The books of a reconciliation

What a reconciliation counts, against what it has done.  Each part of the work is looked at by itself: provisioning
counts a client that it deletes again (`Provision.run_books`), a success is counted where the status has been written
(`Reconcile.apply_books`), and a clean-up where everything has worked (`Finalizer.cleanup_books`).  A reconciliation
that has ended has been counted once, and has counted the rest as it was done (`Task.Staged.audited`).
-/
namespace SignOnOperator

/-! ## What a history has counted and done -/

/-- The SSO that a call has found. -/
def Turn.readSso? : Turn Operator → Option Sso
  | ⟨.call (.getSso _ _), .ok found⟩ => found
  | _ => none

/-- A key that was not given. -/
def Turn.isRefusal : Turn Operator → Bool
  | ⟨.acquire _, free⟩ => !free
  | _ => false

namespace History

def refusals (h : History Operator) : Nat := h.countP Turn.isRefusal

def counted (h : History Operator) (c : Counter) : Nat := (h.filterMap Turn.counter?).count c

/-- The statuses written, in order. -/
def statusesWritten (h : History Operator) : List SsoStatus := h.filterMap Turn.writtenStatus?

variable {h h' : History Operator} {c : Counter}

theorem counted_append : (h ++ h').counted c = h.counted c + h'.counted c := by
  unfold counted
  rw [List.filterMap_append, List.count_append]

theorem refusals_append : (h ++ h').refusals = h.refusals + h'.refusals := List.countP_append

theorem clientsCreated_append : (h ++ h').clientsCreated = h.clientsCreated ++ h'.clientsCreated :=
  List.filterMap_append

theorem clientsDeleted_append : (h ++ h').clientsDeleted = h.clientsDeleted ++ h'.clientsDeleted :=
  List.filterMap_append

theorem statusesWritten_append : (h ++ h').statusesWritten = h.statusesWritten ++ h'.statusesWritten :=
  List.filterMap_append

theorem counted_eq_zero {kinds : List RequestKind} (hh : ∀ t ∈ h, t.kind ∈ kinds) (hc : .count c ∉ kinds) :
    h.counted c = 0 := by
  refine List.count_eq_zero.2 fun found => ?_
  obtain ⟨t, ht, counts⟩ := List.mem_filterMap.1 found
  exact hc (Turn.kind_of_counter? counts ▸ hh t ht)

theorem refusals_eq_zero {kinds : List RequestKind} (hh : ∀ t ∈ h, t.kind ∈ kinds) (hk : .acquire ∉ kinds) :
    h.refusals = 0 := by
  refine List.countP_eq_zero.2 fun t ht refusal => ?_
  unfold Turn.isRefusal at refusal
  split at refusal
  · exact hk (hh _ ht)
  · cases refusal

theorem statusesWritten_eq_nil {kinds : List RequestKind} (hh : ∀ t ∈ h, t.kind ∈ kinds)
    (hk : .call .patchSsoStatus ∉ kinds) : h.statusesWritten = [] :=
  filterMap_eq_nil_of_kind hh Turn.kind_of_writtenStatus? hk

/-- The books of an SSO that is not being deleted: a success is counted for each status that was written, a compensation
for each client that was deleted, and each client that was created is one or the other. -/
structure Settled (h : History Operator) : Prop where
  provisioned : h.counted .provisioned = h.statusesWritten.length
  created : h.clientsCreated.length = h.statusesWritten.length + h.clientsDeleted.length
  compensated : h.counted .compensated = h.clientsDeleted.length

namespace Settled

theorem append (settled : h.Settled) (settled' : h'.Settled) : (h ++ h').Settled := by
  obtain ⟨provisioned, created, compensated⟩ := settled
  obtain ⟨provisioned', created', compensated'⟩ := settled'
  constructor
  · rw [counted_append, statusesWritten_append, List.length_append, provisioned, provisioned']
  · rw [clientsCreated_append, statusesWritten_append, clientsDeleted_append, List.length_append, List.length_append,
      List.length_append]
    omega
  · rw [counted_append, clientsDeleted_append, List.length_append, compensated, compensated']

/-- What has nothing to do with clients and statuses leaves the books as they are. -/
theorem of_kinds {kinds : List RequestKind} (hh : ∀ t ∈ h, t.kind ∈ kinds) (status : .call .patchSsoStatus ∉ kinds)
    (create : .call .createClient ∉ kinds) (delete : .call .deleteClient ∉ kinds)
    (provisioned : .count .provisioned ∉ kinds) (compensated : .count .compensated ∉ kinds) : h.Settled := by
  have created : h.clientsCreated = [] := filterMap_eq_nil_of_kind hh Turn.kind_of_createdClient? create
  have deleted : h.clientsDeleted = [] := filterMap_eq_nil_of_kind hh Turn.kind_of_deletedId? delete
  have written : h.statusesWritten = [] := statusesWritten_eq_nil hh status
  constructor
  · rw [written, counted_eq_zero hh provisioned]
    rfl
  · rw [created, written, deleted]
    rfl
  · rw [deleted, counted_eq_zero hh compensated]
    rfl

end Settled
end History

namespace Program

/-- A program that has ended on two beginnings of one history has ended at the same turn. -/
theorem Runs.eq_of_append {I : Interface} {α : Type} {p : Program I α} {h h' k k' : History I} {a b : α}
    (ran : p.Runs h a) (ran' : p.Runs h' b) (same : h ++ k = h' ++ k') : h = h' := by
  have stops {h m : History I} {a b : α} (ran : p.Runs h a) (ran' : p.Runs (h ++ m) b) : m = [] := by
    obtain ⟨q, led, rest⟩ := leads_append_iff.1 ran'
    obtain rfl := Leads.unique ran led
    exact (leads_done_iff.1 rest).1
  rcases List.append_eq_append_iff.1 same with ⟨m, rfl, -⟩ | ⟨m, rfl, -⟩
  · rw [stops ran ran', List.append_nil]
  · rw [stops ran' ran, List.append_nil]

end Program

namespace Provision

variable {config : Config} {sso : Sso} {h : History Operator} {o : Outcome Unit}

/-- Provisioning counts the clients that it deletes.  It writes a status if it works, and for each client that it has
created it either writes a status or deletes it. -/
theorem run_books (ran : Program.Runs (run config sso) h o) (calm : ∀ t ∈ h, ¬t.IsBreakdown) :
    h.counted .compensated = h.clientsDeleted.length ∧
      h.clientsCreated.length = h.statusesWritten.length + h.clientsDeleted.length ∧
      ((o = .ok () ∧ h.statusesWritten.length = 1) ∨ ((∃ e, o = .error e) ∧ h.statusesWritten.length = 0)) := by
  -- Without a breakdown the run ends with a value or with an error.
  have unbroken : o ≠ .panic := by
    rintro rfl
    exact (run_confined config sso).not_runs_panic calm ran
  cases run_course ran with
  | unregistered kinds created ho =>
    have deleted : h.clientsDeleted = [] :=
      History.filterMap_eq_nil_of_kind kinds Turn.kind_of_deletedId? (by decide)
    have written : h.statusesWritten = [] := History.statusesWritten_eq_nil kinds (by decide)
    rw [created, deleted, written]
    refine ⟨History.counted_eq_zero kinds (by decide), rfl, .inr ⟨?_, rfl⟩⟩
    cases o with
    | ok u => exact absurd rfl (ho u)
    | error e => exact ⟨e, rfl⟩
    | panic => exact absurd rfl unbroken
  | @registered g early late client _ prepared configured ho =>
    have written : o = .ok () ∧ History.statusesWritten (early ++ creation sso (.ok client) :: late) =
        [finalStatus client] := by
      obtain ⟨arranged, kinds, ⟨-, failed⟩ | ⟨reply, rfl, rfl⟩⟩ := configure_runs configured
      · cases o with
        | ok u => exact absurd rfl (failed u)
        | error e => exact absurd rfl (ho e)
        | panic => exact absurd rfl unbroken
      · cases reply with
        | error e => exact absurd rfl (ho _)
        | panic => exact absurd rfl unbroken
        | ok u =>
          have before := History.statusesWritten_eq_nil ((prepare_confined config sso).turns prepared) (by decide)
          have between := History.statusesWritten_eq_nil kinds (by decide)
          rw [← List.singleton_append, History.statusesWritten_append, History.statusesWritten_append,
            History.statusesWritten_append, before, between]
          exact ⟨rfl, rfl⟩
    have counted : History.counted (early ++ creation sso (.ok client) :: late) .compensated = 0 := by
      rw [History.counted, counters_registered prepared configured]
      rfl
    rw [counted, clientsCreated_registered prepared configured, clientsDeleted_registered prepared configured,
      written.2]
    exact ⟨rfl, rfl, .inl ⟨written.1, rfl⟩⟩
  | @compensated g early late client e prepared configured reply =>
    have counted : History.counted (early ++ creation sso (.ok client) :: (late ++ epilogue client.id reply))
        .compensated = 1 := by
      rw [← List.cons_append, ← List.append_assoc, History.counted_append, History.counted,
        counters_registered prepared configured]
      rfl
    have written : History.statusesWritten (early ++ creation sso (.ok client) :: (late ++ epilogue client.id reply)) =
        [] := List.filterMap_eq_nil_iff.2 (not_written_compensated prepared configured reply)
    rw [counted, clientsCreated_compensated prepared configured, clientsDeleted_compensated prepared configured,
      written]
    refine ⟨rfl, rfl, .inr ⟨⟨e, afterEpilogue_of_ne_panic ?_ _⟩, rfl⟩⟩
    rintro rfl
    exact absurd rfl unbroken

end Provision

namespace Finalizer

variable {config : Config} {sso : Sso} {h : History Operator} {o : Outcome Followup}

/-- A clean-up that begins with this history has undone all there is to undo without an error, and has then written the
finalizers without the mark of the operator. -/
def Succeeds (config : Config) (sso : Sso) (h : History Operator) : Prop :=
  isHeld sso = true ∧ ∃ ns undone later, sso.requireNamespace = .ok ns ∧
    h = undone ++ release sso ns (.ok ()) :: later ∧ Program.Runs (undo config sso ns) undone (.ok (.ok ()))

/-- A clean-up is counted once if it succeeds, and else not at all. -/
theorem cleanup_books (ran : Program.Runs (cleanup config sso) h o) (calm : ∀ t ∈ h, ¬t.IsBreakdown)
    (later : History Operator) :
    (h.counted .cleanedUp = 1 ∧ Succeeds config sso (h ++ later)) ∨
      (h.counted .cleanedUp = 0 ∧ ¬Succeeds config sso (h ++ later)) := by
  have unbroken : o ≠ .panic := by
    rintro rfl
    exact (cleanup_confined config sso).not_runs_panic calm ran
  rw [cleanup_eq] at ran
  cases held : isHeld sso with
  | false =>
    rw [held] at ran
    obtain ⟨rfl, -⟩ := Action.runs_pure_iff.1 ran
    exact .inr ⟨rfl, fun succeeds => nomatch held.symm.trans succeeds.1⟩
  | true =>
    rw [if_pos held] at ran
    cases hns : sso.requireNamespace with
    | error e =>
      rw [hns] at ran
      obtain ⟨rfl, -⟩ := Program.runs_done_iff.1 ran
      refine .inr ⟨rfl, ?_⟩
      rintro ⟨-, ns, undone, later', home, -⟩
      cases hns.symm.trans home
    | ok ns =>
      rw [hns] at ran
      change Program.Runs (Action.bind (undo config sso ns) (letGo sso)) h o at ran
      rcases Action.runs_bind_iff.1 ran with ⟨result, undone, h', rfl, undoing, last⟩ | ⟨e, -, failed⟩ | ⟨broken, -⟩
      · obtain ⟨withdrawal, deletion, withdrawn, deleted, parts, -, kinds, -, disposes⟩ :=
          (undo_runs hns undoing).resolve_left nofun
        obtain ⟨released, rfl, rfl⟩ := (letGo_runs hns last).resolve_left unbroken
        have counts : History.counted (undone ++ release sso ns released :: counting (ending released result))
            .cleanedUp = History.counted (counting (ending released result)) .cleanedUp := by
          rw [parts, History.counted_append, History.counted_append, History.counted_eq_zero kinds (by decide),
            History.counted_eq_zero disposes.kind (by decide), Nat.zero_add]
          rfl
        rw [counts, List.append_assoc, List.cons_append]
        -- The undoing and the release are where they are in any account of the same history.
        have account {undone' later' : History Operator}
            (undoing' : Program.Runs (undo config sso ns) undone' (.ok (.ok ())))
            (same : undone ++ release sso ns released :: (counting (ending released result) ++ later) =
              undone' ++ release sso ns (.ok ()) :: later') : released = .ok () ∧ result = .ok () := by
          obtain rfl := undoing.eq_of_append undoing' same
          cases undoing.unique undoing'
          have releases := (List.cons.inj (List.append_cancel_left same)).1
          cases released with
          | ok _ => exact ⟨rfl, rfl⟩
          | error e => cases releases
        rcases released with e | ⟨⟨⟩⟩
        · refine .inr ⟨rfl, ?_⟩
          rintro ⟨-, ns', undone', later', home, same, undoing'⟩
          cases hns.symm.trans home
          cases (account undoing' same).1
        · rcases result with e | ⟨⟨⟩⟩
          · refine .inr ⟨rfl, ?_⟩
            rintro ⟨-, ns', undone', later', home, same, undoing'⟩
            cases hns.symm.trans home
            cases (account undoing' same).2
          · exact .inl ⟨rfl, held, ns, undone, _, hns, rfl, undoing⟩
      · rcases undo_runs hns failed with ⟨⟨⟩⟩ | ⟨_, _, _, _, _, ⟨⟩, _⟩
      · exact absurd broken unbroken

end Finalizer

namespace Reconcile

variable {config : Config} {sso : Sso} {key : SsoKey} {h : History Operator} {o : Outcome Followup}

/-- Applying an SSO counts a success where it has written the status. -/
theorem apply_books (ran : Program.Runs (apply config sso) h o) (calm : ∀ t ∈ h, ¬t.IsBreakdown) : h.Settled := by
  have ensured {h : History Operator} {o : Outcome Unit} (ran : Program.Runs (Finalizer.ensure sso) h o) : h.Settled :=
    .of_kinds ((Finalizer.ensure_confined sso).turns ran) (by decide) (by decide) (by decide) (by decide) (by decide)
  have uncounted {h : History Operator} {o : Outcome Unit} (ran : Program.Runs (Provision.run config sso) h o) :
      h.counted .provisioned = 0 := History.counted_eq_zero ((Provision.run_confined config sso).turns ran) (by decide)
  unfold apply at ran
  by_cases initialized : sso.isInitialized = true
  · rw [if_pos initialized] at ran
    obtain ⟨rfl, -⟩ := Action.runs_pure_iff.1 ran
    exact ⟨rfl, rfl, rfl⟩
  rw [if_neg initialized] at ran
  rcases Action.runs_bind_iff.1 ran with ⟨_, h₁, h₂, rfl, marked, rest⟩ | ⟨e, -, failed⟩ | ⟨-, broken⟩
  rotate_left
  · exact ensured failed
  · exact ensured broken
  refine (ensured marked).append ?_
  have calm : ∀ t ∈ h₂, ¬t.IsBreakdown := fun t ht => calm t (List.mem_append_right h₁ ht)
  -- A success is counted after provisioning that has worked, and that has written one status.
  rcases Action.runs_bind_iff.1 rest with ⟨_, h₃, h₄, rfl, provisioned, last⟩ | ⟨e, -, failed⟩ | ⟨-, broken⟩
  · obtain ⟨_, h₅, rfl, ending⟩ := Action.runs_request_bind_iff.1 last
    obtain ⟨rfl, -⟩ := Action.runs_pure_iff.1 ending
    obtain ⟨compensated, created, written⟩ :=
      Provision.run_books provisioned fun t ht => calm t (List.mem_append_left _ ht)
    have written : h₃.statusesWritten.length = 1 := (written.resolve_right fun ⟨⟨_, failed⟩, _⟩ => nomatch failed).2
    constructor
    · rw [History.counted_append, uncounted provisioned, History.statusesWritten_append, List.length_append, written]
      rfl
    · rw [History.clientsCreated_append, History.statusesWritten_append, History.clientsDeleted_append,
        List.length_append, List.length_append, List.length_append, created]
      rfl
    · rw [History.counted_append, History.clientsDeleted_append, List.length_append, compensated]
      rfl
  · obtain ⟨compensated, created, written⟩ := Provision.run_books failed calm
    have written : h₂.statusesWritten.length = 0 := (written.resolve_left fun ⟨worked, _⟩ => nomatch worked).2
    exact ⟨(uncounted failed).trans written.symm, created, compensated⟩
  · exact absurd broken ((Provision.run_confined config sso).not_runs_panic calm)

def applyFootprint : List RequestKind :=
  [.call .patchSsoFinalizers, .count .provisioned] ++ Provision.runFootprint

theorem apply_confined_apart (config : Config) (sso : Sso) : Confined applyFootprint (apply config sso) :=
  .branch (.pure _) <|
    ((Finalizer.ensure_confined sso).mono (by decide)).bind fun _ =>
    ((Provision.run_confined config sso).mono (by decide)).bind fun _ =>
    (Confined.request (r := .count .provisioned) (by decide)).bind fun _ => .pure _

open Classical in
/-- What is done about an SSO that has been read has been counted, one way or the other. -/
theorem pursue_books (ran : Program.Runs (pursue config sso) h o) (calm : ∀ t ∈ h, ¬t.IsBreakdown)
    (later : History Operator) :
    h.counted .provisioned = h.statusesWritten.length ∧
      h.clientsCreated.length = h.statusesWritten.length + h.counted .compensated ∧
      h.counted .compensated = (if demandOf sso = .apply then h.clientsDeleted.length else 0) ∧
      h.counted .cleanedUp =
        if demandOf sso = .cleanup ∧ Finalizer.Succeeds config sso (h ++ later) then 1 else 0 := by
  unfold pursue at ran
  cases demand : demandOf sso with
  | apply =>
    rw [demand] at ran
    obtain ⟨provisioned, created, compensated⟩ := apply_books ran calm
    have other : h.counted .cleanedUp = 0 :=
      History.counted_eq_zero ((apply_confined_apart config sso).turns ran) (by decide)
    exact ⟨provisioned, compensated ▸ created, compensated, other.trans (if_neg nofun).symm⟩
  | cleanup =>
    rw [demand] at ran
    have kinds := (Finalizer.cleanup_confined config sso).turns ran
    have created : h.clientsCreated = [] :=
      History.filterMap_eq_nil_of_kind kinds Turn.kind_of_createdClient? (by decide)
    have written : h.statusesWritten = [] := History.statusesWritten_eq_nil kinds (by decide)
    have provisioned : h.counted .provisioned = 0 := History.counted_eq_zero kinds (by decide)
    have compensated : h.counted .compensated = 0 := History.counted_eq_zero kinds (by decide)
    rw [created, written, provisioned, compensated]
    refine ⟨rfl, rfl, rfl, ?_⟩
    rcases Finalizer.cleanup_books ran calm later with ⟨once, succeeds⟩ | ⟨never, fails⟩
    · rw [once, if_pos ⟨rfl, succeeds⟩]
    · rw [never, if_neg fun both => fails both.2]

/-- A reconciliation that has its key reads the SSO, and goes on only if there is one. -/
theorem admitted_runs (ran : Program.Runs (admitted config key) h o) :
    ∃ found h', h = key.reading found :: h' ∧
      ((∃ sso, found = .ok (some sso) ∧ Program.Runs (pursue config sso) h' o) ∨
        ((key.reading found).readSso? = none ∧ h' = [] ∧ o = afterReading found)) := by
  rcases Action.runs_bind_iff.1 ran with ⟨(found : Option Sso), _, h', rfl, read, rest⟩ | ⟨e, rfl, read⟩ | ⟨rfl, read⟩
  · obtain rfl := Routine.runs_call_iff.1 read
    refine ⟨.ok found, h', rfl, ?_⟩
    cases found with
    | none => exact .inr ⟨rfl, Action.runs_pure_iff.1 rest⟩
    | some sso => exact .inl ⟨sso, rfl, rest⟩
  · obtain rfl := Routine.runs_call_iff.1 read
    exact ⟨.error e, [], rfl, .inr ⟨rfl, rfl, rfl⟩⟩
  · obtain rfl := Routine.runs_call_iff.1 read
    exact ⟨.panic, [], rfl, .inr ⟨rfl, rfl, rfl⟩⟩

end Reconcile

/-! ## Reconciliations -/

/-- All turns of a reconciliation that had its key. -/
def Reconcile.visit (key : SsoKey) (h : History Operator) : History Operator :=
  opening key true ++ h ++ [⟨.release key, ()⟩]

namespace Task

/-- The SSO that a reconciliation has read, if it has. -/
def sso? (t : Task) : Option Sso := t.history.findSome? Turn.readSso?

/-- Whether a reconciliation provisions an SSO, or tries to. -/
def provisions (t : Task) : Bool := t.sso?.any fun sso => Reconcile.demandOf sso = .apply

/-- A reconciliation has cleaned up after an SSO, and all of that has worked. -/
def CleansUp (config : Config) (t : Task) : Prop :=
  ∃ key sso h, t.history = Reconcile.opening key true ++ key.reading (.ok (some sso)) :: h ∧
    Reconcile.demandOf sso = .cleanup ∧ Finalizer.Succeeds config sso h

open Classical in
/-- **The books of a reconciliation that has ended.** -/
structure Audited (config : Config) (t : Task) : Prop where
  reconciled : t.history.counted .reconciled = 1
  failed : t.history.counted .failed = 0
  dropped : t.history.counted .duplicate = t.history.refusals
  provisioned : t.history.counted .provisioned = t.history.statusesWritten.length
  created : t.history.clientsCreated.length = t.history.statusesWritten.length + t.history.counted .compensated
  compensated : t.history.counted .compensated = if t.provisions then t.history.clientsDeleted.length else 0
  cleanedUp : t.history.counted .cleanedUp = if t.CleansUp config then 1 else 0

variable {config : Config} {event sso : Sso} {key : SsoKey} {found : Outcome (Option Sso)} {h : History Operator}
  {p : Program Operator (Outcome Followup)}

theorem cleansUp_iff :
    CleansUp config ⟨event, Reconcile.opening key true ++ key.reading found :: h, p⟩ ↔
      ∃ sso, found = .ok (some sso) ∧ Reconcile.demandOf sso = .cleanup ∧ Finalizer.Succeeds config sso h := by
  constructor
  · rintro ⟨key', sso, h', same, demand, succeeds⟩
    obtain ⟨rfl, same⟩ := Reconcile.opening_append_inj same
    obtain ⟨read, rfl⟩ := List.cons.inj same
    injection read with _ reply
    exact ⟨sso, reply, demand, succeeds⟩
  · rintro ⟨sso, rfl, demand, succeeds⟩
    exact ⟨key, sso, h, rfl, demand, succeeds⟩

/-- What tells nothing of the beginning and of the end finds what it finds in between. -/
theorem filterMap_visit {β : Type} {f : Turn Operator → Option β} (reconciled : f ⟨.count .reconciled, ()⟩ = none)
    (acquire : f ⟨.acquire key, true⟩ = none) (release : f ⟨.release key, ()⟩ = none) :
    (Reconcile.visit key h).filterMap f = h.filterMap f := by
  unfold Reconcile.visit Reconcile.opening
  rw [List.filterMap_append, List.filterMap_append, List.filterMap_cons_none reconciled,
    List.filterMap_cons_none acquire, List.filterMap_cons_none release]
  simp

theorem counted_visit (c : Counter) :
    (Reconcile.visit key h).counted c = h.counted c + if c = .reconciled then 1 else 0 := by
  unfold Reconcile.visit
  rw [History.counted_append, History.counted_append]
  have opened : (Reconcile.opening key true).counted c = if c = .reconciled then 1 else 0 := by
    cases c <;> rfl
  have released : History.counted [⟨.release key, ()⟩] c = 0 := rfl
  rw [opened, released, Nat.add_zero, Nat.add_comm]

theorem sso?_visit : sso? ⟨event, Reconcile.visit key h, p⟩ = h.findSome? Turn.readSso? := by
  unfold sso? Reconcile.visit Reconcile.opening
  rw [List.findSome?_append, List.findSome?_append]
  change (h.findSome? Turn.readSso?).or none = _
  exact Option.or_none

open Classical in
/-- What a reconciliation that had its key has counted is what it has done in between. -/
theorem audited_visit {o : Outcome Followup} (ran : Program.Runs (Reconcile.admitted config key) h o)
    (calm : ∀ turn ∈ h, ¬turn.IsBreakdown) : Audited config ⟨event, Reconcile.visit key h, p⟩ := by
  have kinds := (Reconcile.admitted_confined config key).turns ran
  have created : (Reconcile.visit key h).clientsCreated = h.clientsCreated := filterMap_visit rfl rfl rfl
  have deleted : (Reconcile.visit key h).clientsDeleted = h.clientsDeleted := filterMap_visit rfl rfl rfl
  have written : (Reconcile.visit key h).statusesWritten = h.statusesWritten := filterMap_visit rfl rfl rfl
  have same (c : Counter) (hc : c ≠ .reconciled) : (Reconcile.visit key h).counted c = h.counted c := by
    rw [counted_visit, if_neg hc, Nat.add_zero]
  have never (c : Counter) (hc : c ≠ .reconciled) (out : .count c ∉ Reconcile.admittedFootprint) :
      (Reconcile.visit key h).counted c = 0 := (same c hc).trans (History.counted_eq_zero kinds out)
  have reconciled : (Reconcile.visit key h).counted .reconciled = 1 := by
    rw [counted_visit, History.counted_eq_zero kinds (by decide)]
    rfl
  have dropped : (Reconcile.visit key h).counted .duplicate = (Reconcile.visit key h).refusals := by
    have given : h.refusals = 0 := History.refusals_eq_zero kinds (by decide)
    rw [never .duplicate nofun (by decide), Reconcile.visit, History.refusals_append, History.refusals_append, given]
    rfl
  obtain ⟨found, h', rfl, ⟨sso, rfl, ran'⟩ | ⟨unread, rfl, -⟩⟩ := Reconcile.admitted_runs ran
  · obtain ⟨provisioned, balanced, compensated, cleanedUp⟩ := Reconcile.pursue_books ran'
      (fun turn ht => calm turn (List.mem_cons_of_mem _ ht)) [⟨.release key, ()⟩]
    have provides : provisions ⟨event, Reconcile.visit key (key.reading (.ok (some sso)) :: h'), p⟩ = true ↔
        Reconcile.demandOf sso = .apply := decide_eq_true_iff
    have cleansUp : CleansUp config ⟨event, Reconcile.visit key (key.reading (.ok (some sso)) :: h'), p⟩ ↔
        Reconcile.demandOf sso = .cleanup ∧ Finalizer.Succeeds config sso (h' ++ [⟨.release key, ()⟩]) := by
      refine cleansUp_iff.trans ⟨?_, fun cleans => ⟨sso, rfl, cleans⟩⟩
      rintro ⟨sso', read, cleans⟩
      injection read with read
      injection read with read
      exact read ▸ cleans
    refine ⟨reconciled, never .failed nofun (by decide), dropped, ?_, ?_, ?_, ?_⟩
    · exact (same .provisioned nofun).trans (provisioned.trans (congrArg List.length written.symm))
    · dsimp only
      rw [created, same .compensated nofun, written]
      exact balanced
    · dsimp only
      rw [same .compensated nofun, deleted]
      exact compensated.trans (if_congr provides.symm rfl rfl)
    · exact (same .cleanedUp nofun).trans (cleanedUp.trans (if_congr cleansUp.symm rfl rfl))
  · -- Only the reading was between the beginning and the end.
    have idle : provisions ⟨event, Reconcile.visit key [key.reading found], p⟩ = false := by
      rw [provisions, sso?_visit, List.findSome?_cons, unread]
      rfl
    have cleansUp : ¬CleansUp config ⟨event, Reconcile.visit key [key.reading found], p⟩ := by
      rintro cleans
      obtain ⟨sso, rfl, -⟩ := cleansUp_iff.1 cleans
      cases unread
    refine ⟨reconciled, never .failed nofun (by decide), dropped, rfl, rfl, ?_, ?_⟩
    · rw [idle]
      rfl
    · exact (if_neg cleansUp).symm

/-- **A reconciliation that has ended has kept its books**, unless a call has broken down. -/
theorem Staged.audited {t : Task} (staged : t.Staged config) (ended : t.isRunning = false)
    (calm : ∀ turn ∈ t.history, ¬turn.IsBreakdown) : t.Audited config := by
  obtain ⟨event, history, rest⟩ := t
  unfold Staged at staged
  dsimp only at staged calm
  cases staged with
  | fresh | waiting _ | refused _ | working _ _ | leaving _ _ => cases ended
  | homeless hk =>
    refine ⟨rfl, rfl, rfl, rfl, rfl, rfl, (if_neg ?_).symm⟩
    rintro ⟨key, sso, h, same, -⟩
    cases same
  | dropped hk =>
    refine ⟨rfl, rfl, rfl, rfl, rfl, rfl, (if_neg ?_).symm⟩
    rintro ⟨key, sso, h, same, -⟩
    cases same
  | ended hk ran =>
    exact audited_visit ran fun turn ht => calm turn (List.mem_append_left _ (List.mem_append_right _ ht))

end Task
end SignOnOperator
