import SignOnOperator.Proofs.CellUse
import SignOnOperator.Proofs.Coupling
/-!
# Postponement

A reconciliation has no use for the time but to see how long it has been waiting.  If it begins later and is given the
same replies, except that every reading of the clock is later by as much, it asks for the same and comes to the same
result (`Reconcile.attend_postponable`).
-/
namespace SignOnOperator

/-- The second turn is the first one, so much later. -/
inductive Turn.Postponed (shift : Nat) : Turn Operator → Turn Operator → Prop where
  | clock (now : Nat) : Postponed shift ⟨.clock, now⟩ ⟨.clock, now + shift⟩
  | other {t : Turn Operator} (steady : t.kind ≠ .clock) : Postponed shift t t

/-- Two programs of which the second runs so much later than the first. -/
def postponed (shift : Nat) : Coupling Operator Unit where
  pairs _ r r' := r = r'
  gives _ r r' reply reply' := Turn.Postponed shift ⟨r, reply⟩ ⟨r', reply'⟩
  next _ _ _ := ()

variable {α β : Type} {shift : Nat}

theorem postponed_repeats {r : OperatorRequest} (steady : r.kind ≠ .clock) : (postponed shift).Repeats () r where
  pairs := rfl
  gives reply reply' given := by
    cases given with
    | clock now => exact absurd rfl steady
    | other _ => rfl
  next := rfl

theorem postponed_keeping : (postponed shift).Keeping () shift where
  pairs := rfl
  gives now now' given := by
    cases given with
    | clock now => rfl
    | other steady => exact absurd rfl steady
  next := rfl
  pause _ := postponed_repeats nofun

/-- The program does the same when it begins later. -/
def Postponable (p : Program Operator α) : Prop :=
  ∀ shift, Program.Coupled (postponed shift) (fun _ a a' => a = a') () p p

namespace Postponable

theorem done (a : α) : Postponable (.done a) := fun _ => .done rfl

theorem ask {r : OperatorRequest} {next : r.Reply → Program Operator α} (steady : r.kind ≠ .clock)
    (later : ∀ reply, Postponable (next reply)) : Postponable (.ask (I := Operator) r next) := fun shift =>
  .ask rfl fun reply reply' given => by
    obtain rfl := (postponed_repeats steady).gives reply reply' given
    exact later reply shift

theorem bind {p : Program Operator α} {f : α → Program Operator β} (first : Postponable p)
    (later : ∀ a, Postponable (f a)) : Postponable (p.bind f) := fun shift =>
  (first shift).bind fun _ a _ same => same ▸ later a shift

/-- What does not look at the clock may begin at any time. -/
theorem of_confined {kinds : List RequestKind} {x : Routine α} (confined : Confined kinds x)
    (steady : .clock ∉ kinds) : Postponable x := fun _ =>
  (confined.coupled fun _ hr => postponed_repeats fun clock => steady (clock ▸ hr)).imp fun _ _ _ => And.right

theorem action_bind {x : Routine α} {f : α → Routine β} (first : Postponable x) (later : ∀ a, Postponable (f a)) :
    Postponable (Action.bind x f) := by
  refine bind first fun o => ?_
  cases o with
  | ok a => exact later a
  | error e => exact done _
  | panic => exact done _

theorem call {c : Call} : Postponable (Routine.call c) := ask nofun done

theorem ofExcept_bind {result : Except Error α} {f : α → Routine β} (later : ∀ a, Postponable (f a)) :
    Postponable (Action.bind (Action.ofExcept result) f) := by
  cases result with
  | ok a => exact later a
  | error e => exact done _

theorem require_bind {value : Option α} {e : Error} {f : α → Routine β} (later : ∀ a, Postponable (f a)) :
    Postponable (Action.bind (Action.require value e) f) := by
  cases value with
  | some a => exact later a
  | none => exact done _

theorem mapError {x : Routine α} {f : Error → Error} (postponable : Postponable x) : Postponable (x.mapError f) :=
  Action.mapError_eq x f ▸ bind postponable fun _ => done _

theorem attempt {x : Routine α} (postponable : Postponable x) : Postponable x.attempt :=
  Action.attempt_eq x ▸ bind postponable fun _ => done _

end Postponable

open Postponable

/-- How long a wait lasts does not depend on when it begins. -/
theorem Waiting.wait_postponable {what : String} {polling : Polling} {c : Call} {judge : c.Result → Verdict} :
    Postponable (wait what polling (ask c judge)) := fun shift => by
  have asked : Postponable (ask c judge) := action_bind call.attempt fun _ => done _
  refine Program.Coupled.imp (fun _ _ _ => And.right) (wait_coupled postponed_keeping ?_)
  exact (asked shift).imp fun _ _ _ same => ⟨rfl, same⟩

/-! ## The parts of the work -/

variable {config : Config} {sso : Sso} {client : OidcClient}

namespace Proxy

theorem deploy_postponable {cookieSecret : String} : Postponable (deploy config sso client cookieSecret) := by
  refine ofExcept_bind fun _ => action_bind call fun _ => require_bind fun _ => ofExcept_bind fun bundle => ?_
  refine action_bind ?_ fun _ => done _
  refine action_bind call fun _ => action_bind call fun _ => action_bind call fun _ => ?_
  exact action_bind Waiting.wait_postponable fun _ => Waiting.wait_postponable

theorem update_postponable {cookieSecret : String} {bundle : Bundle} :
    Postponable (update config sso client cookieSecret bundle) := by
  refine ofExcept_bind fun _ => ofExcept_bind fun _ => action_bind call fun _ => action_bind call fun _ => ?_
  exact action_bind Waiting.wait_postponable fun _ => action_bind Waiting.wait_postponable fun _ => done _

end Proxy

theorem Exposure.createJob_postponable {ns : String} {job : Kubernetes.Job} : Postponable (createJob ns job) := by
  refine action_bind call.attempt fun created => ?_
  cases created with
  | ok _ => exact done _
  | error e =>
    by_cases conflict : e.isConflict = true
    · simp only [conflict, if_true]
      exact action_bind call fun _ => done _
    · simp only [conflict]
      exact done _

theorem Exposure.run_postponable (mode : Mode) {service account : String} :
    Postponable (run config mode sso service account) := by
  refine ofExcept_bind fun _ => action_bind call fun _ => action_bind createJob_postponable fun _ => ?_
  exact action_bind Waiting.wait_postponable fun _ => action_bind call fun _ => call

namespace Provision

theorem publish_postponable {ns account service : String} : Postponable (publish config sso ns account service) := by
  unfold publish
  split
  · exact done _
  · exact mapError (Exposure.run_postponable .expose)

theorem arrange_postponable {ns account cookieSecret : String} :
    Postponable (arrange config sso ns account cookieSecret client) :=
  action_bind Proxy.deploy_postponable.mapError fun _ => action_bind publish_postponable fun _ =>
    action_bind (of_confined (resolveHosts_confined _ _) (by decide)).mapError fun _ =>
    action_bind call.mapError fun _ => action_bind Proxy.update_postponable.mapError fun _ => done _

theorem run_postponable : Postponable (run config sso) := by
  rw [run_eq]
  refine action_bind (of_confined (prepare_confined _ _) (by decide)) fun g => ?_
  refine action_bind call.mapError fun client => action_bind (attempt ?_) fun result => ?_
  · rw [configure_eq]
    exact action_bind arrange_postponable fun _ => call.mapError
  · cases result with
    | ok _ => exact done _
    | error e => exact action_bind (of_confined (compensate_confined _) (by decide)) fun _ => done _

end Provision

namespace Finalizer

theorem undo_postponable {ns : String} : Postponable (undo config sso ns) := by
  have concealed : Postponable (conceal config sso ns) := by
    unfold conceal
    split
    · exact done _
    · exact attempt (mapError (action_bind call fun _ => Exposure.run_postponable .cleanup))
  unfold undo
  split
  · rw [teardown_eq]
    refine action_bind concealed fun _ => ?_
    exact action_bind (of_confined (dispose_confined _ _) (by decide)) fun _ => done _
  · exact done _

theorem cleanup_postponable : Postponable (cleanup config sso) := by
  rw [cleanup_eq]
  split
  · refine ofExcept_bind fun ns => action_bind undo_postponable fun result => ?_
    refine action_bind (ofExcept_bind fun _ => call) fun _ => ?_
    cases result with
    | ok _ => exact ask nofun fun _ => done _
    | error e => exact done _
  · exact done _

end Finalizer

namespace Reconcile

theorem pursue_postponable : Postponable (pursue config sso) := by
  unfold pursue
  cases demandOf sso with
  | cleanup => exact Finalizer.cleanup_postponable
  | apply =>
    show Postponable (apply config sso)
    unfold apply
    split
    · exact done _
    · refine action_bind (of_confined (Finalizer.ensure_confined sso) (by decide)) fun _ => ?_
      exact action_bind Provision.run_postponable fun _ => ask nofun fun _ => done _

theorem run_postponable (event : Sso) : Postponable (run config event) := by
  rw [run_eq]
  refine ask nofun fun _ => ?_
  unfold entrance
  cases SsoKey.ofSso event with
  | error e => exact done _
  | ok key =>
    refine ask nofun fun free => ?_
    cases free with
    | true =>
      refine bind (action_bind call fun found => ?_) fun o => ask nofun fun _ => done o
      cases found with
      | none => exact done _
      | some sso => exact pursue_postponable
    | false => exact ask nofun fun _ => done _

/-- **A reconciliation may begin at any time**: later it does the same, later by as much. -/
theorem attend_postponable (event : Sso) : Postponable (attend config event) := by
  refine bind (run_postponable event) fun o => ?_
  cases o with
  | ok _ => exact done _
  | error e => exact ask nofun fun _ => done _
  | panic => exact done _

end Reconcile
end SignOnOperator
