import SignOnOperator.Proofs.Conduct
import SignOnOperator.Proofs.Custody
/-!
# Attention to the SSO

What a reconciliation does with the SSO that it is about, as a protocol.  It reads that SSO once, and all else depends
on what it reads.  It writes to no other SSO, and to this one only while there is something to be done for it; the only
status that it writes says that all is done.  While an SSO that is to be provisioned has no such status the
reconciliation does not end well (`Reconcile.run_tends`).
-/
namespace SignOnOperator

/-- What a reconciliation knows of its SSO. -/
inductive Attention where
  -- It has not read the SSO.
  | unread
  -- There was no SSO to read.
  | idle
  -- The SSO is being deleted.
  | marked
  -- The SSO is to be provisioned.
  | pending
  -- The SSO is provisioned.
  | settled
  deriving DecidableEq, Repr

namespace Attention

def ofSso (sso : Sso) : Attention :=
  if sso.metadata.isDeleted then .marked else if sso.isInitialized then .settled else .pending

/-- The calls with which an SSO is read and written. -/
def tracked : List CallKind := [.getSso, .patchSsoStatus, .patchSsoFinalizers]

def critical : List RequestKind := tracked.map .call

variable {owner : Except Error SsoKey} {attention : Attention} {r : OperatorRequest}

def Allows (owner : Except Error SsoKey) (attention : Attention) : OperatorRequest → Prop
  | .call (.getSso ns name) => owner = .ok ⟨ns, name⟩ ∧ attention = .unread
  | .call (.patchSsoStatus ns name status) => owner = .ok ⟨ns, name⟩ ∧ attention = .pending ∧ status.initialized = true
  | .call (.patchSsoFinalizers ns name _) => owner = .ok ⟨ns, name⟩ ∧ (attention = .pending ∨ attention = .marked)
  | _ => True

/-- What may be counted on: an SSO that is read is the one that was asked for. -/
def Expects (owner : Except Error SsoKey) : (r : OperatorRequest) → r.Reply → Prop
  | .call (.getSso _ _), .ok (some sso) => SsoKey.ofSso sso = owner
  | _, _ => True

def after (attention : Attention) : (r : OperatorRequest) → r.Reply → Attention
  | .call (.getSso _ _), .ok (some sso) => ofSso sso
  | .call (.getSso _ _), _ => .idle
  | .call (.patchSsoStatus _ _ _), .ok _ => .settled
  | _, _ => attention

theorem allows_of_not_mem (h : r.kind ∉ critical) : Allows owner attention r := by
  unfold Allows
  split
  case h_4 => trivial
  all_goals exact absurd (by simp [critical, tracked]) h

theorem after_of_not_mem (h : r.kind ∉ critical) (reply : r.Reply) : attention.after r reply = attention := by
  unfold after
  split
  case h_4 => rfl
  all_goals exact absurd (by simp [critical, tracked]) h

/-- How a reconciliation may end: not well while the SSO is to be provisioned. -/
def Ends {α : Type} (attention : Attention) (o : Outcome α) : Prop := attention = .pending → ∀ a, o ≠ .ok a

theorem ends_of_ne {α : Type} {o : Outcome α} (other : attention ≠ .pending) : attention.Ends o :=
  fun pending => absurd pending other

theorem ends_error {α : Type} {e : Error} : attention.Ends (.error e : Outcome α) := fun _ => nofun

theorem ends_panic {α : Type} : attention.Ends (.panic : Outcome α) := fun _ => nofun

end Attention

/-- The attention to the SSO that has a key, if there is one. -/
def tending (owner : Except Error SsoKey) : Protocol Operator Attention where
  allows := Attention.Allows owner
  expects _ := Attention.Expects owner
  next := Attention.after

open Attention

variable {owner : Except Error SsoKey} {key : SsoKey} {config : Config} {sso : Sso}

theorem Confined.stays_tending {α : Type} {kinds : List RequestKind} {x : Routine α} (confined : Confined kinds x)
    (neutral : ∀ k ∈ kinds, k ∉ critical) (attention : Attention) : Program.Stays (tending owner) x attention :=
  confined.stays (fun r hr => allows_of_not_mem (neutral r.kind hr))
    fun r reply hr => after_of_not_mem (neutral r.kind hr) reply

/-! ## Provisioning and clean-up -/

namespace Provision

/-- The work on a client ends well only with the status. -/
theorem configure_tends {ns account cookieSecret : String} {client : OidcClient} (hns : key = ⟨ns, sso.name⟩) :
    Program.Keeps (tending (.ok key)) Ends (configure config sso ns account cookieSecret client) .pending := by
  subst hns
  rw [configure_eq]
  refine Action.keeps_bind ((arrange_confined config sso ns account cookieSecret client).stays_tending (by decide) _)
    ?_ (fun _ _ _ => ends_error) (fun _ _ => ends_panic)
  rintro _ _ rfl
  refine Action.keeps_mapError ⟨⟨rfl, rfl, rfl⟩, fun reply _ => ?_⟩
  cases reply with
  | ok _ => exact ends_of_ne nofun
  | error _ => exact ends_error
  | panic => exact ends_panic

theorem complete_tends {g : Groundwork} {client : OidcClient} (hns : key = ⟨g.ns, sso.name⟩) :
    Program.Keeps (tending (.ok key)) Ends (complete config sso g client) .pending := by
  have configured : Program.Keeps (tending (.ok key))
      (fun attention o => o = .ok (.ok ()) → attention ≠ .pending)
      (configure config sso g.ns g.account g.cookieSecret client).attempt .pending := by
    refine Action.keeps_attempt ((configure_tends hns).imp fun attention o ends => ?_)
    cases o with
    | ok _ => exact fun _ pending => ends pending () rfl
    | error _ => exact nofun
    | panic => exact nofun
  refine Action.keeps_bind configured ?_ (fun _ _ _ => ends_error) (fun _ _ => ends_panic)
  intro attention result settled
  cases result with
  | ok _ => exact ends_of_ne (settled rfl)
  | error e =>
    refine Action.keeps_bind ((compensate_confined client.id).stays_tending (by decide) attention) ?_
      (fun _ _ _ => ends_error) (fun _ _ => ends_panic)
    exact fun _ _ _ => ends_error

theorem run_tends (hk : SsoKey.ofSso sso = .ok key) :
    Program.Keeps (tending (.ok key)) Ends (run config sso) .pending := by
  obtain ⟨hns, hname⟩ := SsoKey.ofSso_eq_ok_iff.1 hk
  have neutral : ∀ k ∈ prepareFootprint, k ∉ critical := by decide
  rw [run_eq]
  refine Action.keeps_bind ((prepare_confined config sso).stays_runs (fun r hr => allows_of_not_mem (neutral r.kind hr))
    fun r reply hr => after_of_not_mem (neutral r.kind hr) reply) ?_ (fun _ _ _ => ends_error) (fun _ _ => ends_panic)
  -- That the preparation ran tells which namespace it goes on with.
  rintro _ g ⟨rfl, h, prepared⟩
  have home : key = ⟨g.ns, sso.name⟩ := by
    rw [← Except.ok.inj (hns.symm.trans (prepare_ok prepared).1), hname]
  have created : Program.Stays (tending (.ok key)) (create sso g) .pending :=
    Action.stays_mapError ⟨trivial, fun _ _ => rfl⟩
  refine Action.keeps_bind created ?_ (fun _ _ _ => ends_error) (fun _ _ => ends_panic)
  rintro _ client rfl
  exact complete_tends home

end Provision

namespace Finalizer

theorem replace_tends {finalizers : List String} {attention : Attention} (hk : SsoKey.ofSso sso = .ok key)
    (allowed : attention = .pending ∨ attention = .marked) :
    Program.Stays (tending (.ok key)) (replace sso finalizers) attention := by
  obtain ⟨hns, hname⟩ := SsoKey.ofSso_eq_ok_iff.1 hk
  unfold replace
  rw [hns, hname]
  exact ⟨⟨rfl, allowed⟩, fun _ _ => rfl⟩

theorem ensure_tends (hk : SsoKey.ofSso sso = .ok key) :
    Program.Stays (tending (.ok key)) (ensure sso) .pending := by
  unfold ensure
  split
  · exact rfl
  · exact replace_tends hk (.inl rfl)

theorem undo_tends {ns : String} (attention : Attention) :
    Program.Stays (tending owner) (undo config sso ns) attention := by
  unfold undo
  split
  · rw [teardown_eq]
    refine Action.stays_bind ((conceal_confined config sso ns).stays_tending (by decide) _) fun _ => ?_
    exact Action.stays_bind ((dispose_confined sso ns).stays_tending (by decide) _) fun _ => rfl
  · exact rfl

theorem cleanup_tends (hk : SsoKey.ofSso sso = .ok key) :
    Program.Stays (tending (.ok key)) (cleanup config sso) .marked := by
  rw [cleanup_eq]
  split
  · refine Action.stays_ofExcept_bind fun ns _ => ?_
    refine Action.stays_bind (undo_tends _) fun result => ?_
    refine Action.stays_bind (replace_tends hk (.inr rfl)) fun _ => ?_
    cases result with
    | ok _ => exact ⟨trivial, fun _ _ => rfl⟩
    | error e => exact rfl
  · exact rfl

end Finalizer

/-! ## Reconciliation -/

namespace Reconcile

theorem apply_tends (hk : SsoKey.ofSso sso = .ok key) :
    Program.Keeps (tending (.ok key)) Ends (apply config sso) (if sso.isInitialized then .settled else .pending) := by
  unfold apply
  split
  · exact ends_of_ne nofun
  · refine Action.keeps_bind (Finalizer.ensure_tends hk) ?_ (fun _ _ _ => ends_error) (fun _ _ => ends_panic)
    rintro _ _ rfl
    refine Action.keeps_bind (Provision.run_tends hk) ?_ (fun _ _ _ => ends_error) (fun _ _ => ends_panic)
    intro attention _ ends
    exact ⟨trivial, fun _ _ pending => absurd rfl (ends pending ())⟩

theorem pursue_tends (hk : SsoKey.ofSso sso = .ok key) :
    Program.Keeps (tending (.ok key)) Ends (pursue config sso) (Attention.ofSso sso) := by
  unfold pursue Attention.ofSso
  cases deleted : sso.metadata.isDeleted with
  | true =>
    rw [show demandOf sso = .cleanup from if_pos deleted, if_pos rfl]
    refine (Finalizer.cleanup_tends hk).imp ?_
    rintro _ _ rfl
    exact ends_of_ne nofun
  | false =>
    rw [show demandOf sso = .apply from if_neg (by simp [deleted]), if_neg nofun]
    exact apply_tends hk

theorem admitted_tends (config : Config) (key : SsoKey) :
    Program.Keeps (tending (.ok key)) Ends (admitted config key) .unread := by
  refine ⟨⟨rfl, rfl⟩, fun reply expected => ?_⟩
  rcases reply with (- | sso) | e | -
  · exact ends_of_ne nofun
  · exact pursue_tends expected
  · exact ends_error
  · exact ends_panic

/-- **A reconciliation tends to its SSO as the protocol says**, and ends well only if nothing is left to be done. -/
theorem run_tends (config : Config) (event : Sso) :
    Program.Keeps (tending (SsoKey.ofSso event)) Ends (run config event) .unread := by
  rw [run_eq]
  refine ⟨trivial, fun _ _ => ?_⟩
  unfold entrance
  cases SsoKey.ofSso event with
  | error e => exact ends_error
  | ok key =>
    refine ⟨trivial, fun free _ => ?_⟩
    cases free with
    | false => exact ⟨trivial, fun _ _ => ends_of_ne nofun⟩
    | true =>
      exact Program.keeps_bind_iff.2 ((admitted_tends config key).imp fun _ _ ends => ⟨trivial, fun _ _ => ends⟩)

end Reconcile

end SignOnOperator
