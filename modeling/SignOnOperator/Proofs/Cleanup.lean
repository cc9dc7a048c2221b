import SignOnOperator.Proofs.Compensation
import SignOnOperator.Reconcile.Reconcile
/-!
# What a reconciliation asks for

The clean-up of an SSO in parts, as provisioning was taken apart before, and from both the kinds of requests of a
reconciliation that has its key.
-/
namespace SignOnOperator

namespace Finalizer

def withdrawFootprint : List RequestKind := .call .ensureClusterRoleBinding :: Exposure.footprint

def cleanupFootprint : List RequestKind :=
  [.call .deleteClient, .call .patchSsoFinalizers, .count .cleanedUp] ++ withdrawFootprint

theorem replace_confined {kinds : List RequestKind} (hk : .call .patchSsoFinalizers ∈ kinds) (sso : Sso)
    (finalizers : List String) : Confined kinds (replace sso finalizers) :=
  (Confined.ofExcept _).bind fun _ => .call hk

theorem ensure_confined (sso : Sso) : Confined [.call .patchSsoFinalizers] (ensure sso) :=
  .branch (.pure ()) (replace_confined (by decide) _ _)

theorem withdraw_confined (config : Config) (sso : Sso) (ns : String) :
    Confined withdrawFootprint (withdraw config sso ns) :=
  (Confined.call (c := .ensureClusterRoleBinding _ _) (by simp [withdrawFootprint])).bind fun _ =>
    (Exposure.run_confined _ _ _ _ _).mono (by decide)

/-- The withdrawal of the service, unless there is nothing to withdraw. -/
def conceal (config : Config) (sso : Sso) (ns : String) : Routine (Except Error Unit) :=
  if sso.spec.skipExposeService then pure (.ok ())
  else ((withdraw config sso ns).mapError (.pipeline exposureStep ns sso.name)).attempt

def dispose (sso : Sso) (ns : String) : Routine (Except Error Unit) :=
  match sso.clientId? with
  | some id => ((Routine.call (.deleteClient id)).mapError (.pipeline clientStep ns sso.name)).attempt
  | none => pure (.ok ())

def firstFailure (a b : Except Error Unit) : Except Error Unit :=
  match a with
  | .error e => .error e
  | .ok () => b

theorem teardown_eq (config : Config) (sso : Sso) (ns : String) :
    teardown config sso ns =
      conceal config sso ns >>= fun withdrawn =>
        dispose sso ns >>= fun deleted => pure (firstFailure withdrawn deleted) := by
  unfold teardown conceal dispose
  cases sso.spec.skipExposeService <;> cases sso.clientId? <;>
    exact congrArg (Action.bind _) (funext fun withdrawn => by cases withdrawn <;> rfl)

/-- What has to be undone outside of the cluster's own clean-up, which is nothing before the status is written. -/
def undo (config : Config) (sso : Sso) (ns : String) : Routine (Except Error Unit) :=
  if sso.isInitialized then teardown config sso ns else pure (.ok ())

/-- The end of a clean-up: the SSO is let go of, whatever came of the rest. -/
def letGo (sso : Sso) (result : Except Error Unit) : Routine Followup := do
  remove sso
  match result with
  | .ok () =>
    Routine.count .cleanedUp
    return .awaitChange
  | .error e => Action.fail e

theorem cleanup_eq (config : Config) (sso : Sso) :
    cleanup config sso =
      if isHeld sso then
        Action.ofExcept sso.requireNamespace >>= fun ns => undo config sso ns >>= fun result => letGo sso result
      else pure .awaitChange := by
  unfold cleanup undo letGo
  cases isHeld sso with
  | false => rfl
  | true =>
    cases sso.isInitialized with
    | true => rfl
    | false => rfl

theorem conceal_confined (config : Config) (sso : Sso) (ns : String) :
    Confined withdrawFootprint (conceal config sso ns) :=
  .branch (.pure _) (.attempt (.mapError _ (withdraw_confined config sso ns)))

theorem dispose_confined (sso : Sso) (ns : String) : Confined [.call .deleteClient] (dispose sso ns) := by
  unfold dispose
  cases sso.clientId? with
  | some id => exact .attempt (.mapError _ (.call (by simp)))
  | none => exact .pure _

def undoFootprint : List RequestKind := .call .deleteClient :: withdrawFootprint

theorem undo_confined (config : Config) (sso : Sso) (ns : String) : Confined undoFootprint (undo config sso ns) := by
  refine .branch ?_ (.pure _)
  rw [teardown_eq]
  exact ((conceal_confined _ _ _).mono (by decide)).bind fun _ =>
    ((dispose_confined _ _).mono (by decide)).bind fun _ => .pure _

def letGoFootprint : List RequestKind := [.call .patchSsoFinalizers, .count .cleanedUp]

theorem letGo_confined (sso : Sso) (result : Except Error Unit) : Confined letGoFootprint (letGo sso result) := by
  refine (replace_confined (by decide) _ _).bind fun _ => ?_
  cases result with
  | ok _ => exact (Confined.request (r := .count .cleanedUp) (by decide)).bind fun _ => .pure _
  | error e => exact .fail e

theorem cleanup_confined (config : Config) (sso : Sso) : Confined cleanupFootprint (cleanup config sso) := by
  rw [cleanup_eq]
  exact .branch ((Confined.ofExcept _).bind fun _ => ((undo_confined _ _ _).mono (by decide)).bind fun _ =>
    (letGo_confined _ _).mono (by decide)) (.pure _)

end Finalizer

namespace Reconcile

def admittedFootprint : List RequestKind :=
  [.call .getSso, .call .patchSsoFinalizers, .count .provisioned] ++ Provision.runFootprint ++
    Finalizer.cleanupFootprint

theorem apply_confined (config : Config) (sso : Sso) : Confined admittedFootprint (apply config sso) :=
  .branch (.pure _) <|
    ((Finalizer.ensure_confined sso).mono (by decide)).bind fun _ =>
    ((Provision.run_confined config sso).mono (by decide)).bind fun _ =>
    (Confined.request (r := .count .provisioned) (by decide)).bind fun _ => .pure _

theorem admitted_confined (config : Config) (key : SsoKey) : Confined admittedFootprint (admitted config key) := by
  refine (Confined.call (c := .getSso _ _) (by simp [admittedFootprint])).bind fun found => ?_
  cases found with
  | none => exact .pure _
  | some sso =>
    have cleanup : Confined admittedFootprint (Finalizer.cleanup config sso) :=
      (Finalizer.cleanup_confined config sso).mono (by decide)
    dsimp only
    cases demandOf sso with
    | cleanup => exact cleanup
    | apply => exact apply_confined config sso

end Reconcile
end SignOnOperator
