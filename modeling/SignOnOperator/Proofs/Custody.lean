import SignOnOperator.Proofs.Agreement
import SignOnOperator.Proofs.Exclusion
import SignOnOperator.Proofs.Protocol
/-!
# Custody of clients

How far a reconciliation has come with the client of its SSO, and what it may ask for at each point: no client is made
before the deletion of the SSO is held up, a new client is recorded or deleted before the key is given back, and the
SSO is let go of only when there is no client any more.  A reconciliation that has its key keeps to this
(`Reconcile.admitted_keeps`), whatever it is answered.
-/
namespace SignOnOperator

/-- A status as provisioning leaves it: none, or one that says that all is done and names the client. -/
def Sso.IsTidy (sso : Sso) : Prop :=
  sso.status = none ∨ ∃ id, sso.status = some { clientId := some id, initialized := true }

theorem Sso.IsTidy.isInitialized_eq {sso : Sso} (tidy : sso.IsTidy) : sso.isInitialized = sso.clientId?.isSome := by
  unfold isInitialized clientId?
  obtain none | ⟨id, some⟩ := tidy
  · rw [none]
    rfl
  · rw [some]
    rfl

theorem SsoKey.ofSso_eq_ok_iff {sso : Sso} {key : SsoKey} :
    ofSso sso = .ok key ↔ sso.requireNamespace = .ok key.namespaceName ∧ sso.name = key.name := by
  obtain ⟨ns, name⟩ := key
  unfold ofSso
  cases sso.requireNamespace with
  | error e => exact ⟨nofun, nofun⟩
  | ok ns' => simp [Except.map]

theorem Finalizer.isHeld_iff {sso : Sso} : isHeld sso = true ↔ name ∈ sso.metadata.finalizerList := by
  simp [isHeld]

/-! ## The protocol -/

/-- How far a reconciliation has come with the client of its SSO. -/
inductive Phase where
  -- The SSO has not been read, or nothing is to be done for it any more.
  | settled
  -- There is no client, and the operator may not yet hold up the deletion of the SSO.
  | unsecured
  -- There is no client, and the operator holds up the deletion of the SSO.
  | secured
  -- There is a client that the status does not name.
  | registered (id : String)
  -- The SSO is being deleted, and the client that its status names is to be deleted with it.
  | condemned (id : String)
  -- The SSO is being deleted, and there is no client.
  | cleared
  deriving DecidableEq, Repr

namespace Phase

def IsSafe (phase : Phase) : Prop := ∀ id, phase ≠ .registered id

def ofSso (sso : Sso) : Phase :=
  if sso.metadata.isDeleted then
    if Finalizer.isHeld sso then sso.clientId?.elim .cleared .condemned else .settled
  else if sso.isInitialized then .settled
  else if Finalizer.isHeld sso then .secured
  else .unsecured

theorem ofSso_deleted {sso : Sso} (deleted : sso.metadata.isDeleted = true) :
    ofSso sso = if Finalizer.isHeld sso then sso.clientId?.elim .cleared .condemned else .settled :=
  if_pos deleted

theorem ofSso_live {sso : Sso} (live : sso.metadata.isDeleted = false) :
    ofSso sso =
      if sso.isInitialized then .settled else if Finalizer.isHeld sso then .secured else .unsecured :=
  if_neg (by simp [live])

/-- The calls that count for the custody of a client. -/
def tracked : List CallKind := [.getSso, .patchSsoStatus, .patchSsoFinalizers, .createClient, .deleteClient]

def critical : List RequestKind := .release :: tracked.map .call

def Allows (key : SsoKey) (phase : Phase) : OperatorRequest → Prop
  | .call (.getSso ns name) => key = ⟨ns, name⟩ ∧ phase = .settled
  | .call (.patchSsoStatus ns name status) =>
    key = ⟨ns, name⟩ ∧ ∃ id, phase = .registered id ∧ status = { clientId := some id, initialized := true }
  | .call (.patchSsoFinalizers ns name finalizers) =>
    key = ⟨ns, name⟩ ∧
      (phase = .unsecured ∧ Finalizer.name ∈ finalizers ∨ phase = .cleared ∧ Finalizer.name ∉ finalizers)
  | .call (.createClient _ _ _ _ _) => phase = .secured
  | .call (.deleteClient id) => phase = .registered id ∨ phase = .condemned id
  | .release _ => phase.IsSafe
  | _ => True

/-- What may be counted on: no call breaks down, and an SSO that is read is that of the key and has a tidy status. -/
def Expects (key : SsoKey) : (r : OperatorRequest) → r.Reply → Prop
  | .call (.getSso _ _), .ok (some sso) => SsoKey.ofSso sso = .ok key ∧ sso.IsTidy
  | .call _, .panic => False
  | _, _ => True

def after (phase : Phase) : (r : OperatorRequest) → r.Reply → Phase
  | .call (.getSso _ _), .ok (some sso) => ofSso sso
  | .call (.patchSsoStatus _ _ _), .ok _ => .settled
  | .call (.patchSsoFinalizers _ _ finalizers), .ok _ => if Finalizer.name ∈ finalizers then .secured else .settled
  | .call (.createClient _ _ _ _ _), .ok client => .registered client.id
  | .call (.deleteClient _), _ =>
    match phase with
    | .registered _ => .secured
    | _ => .cleared
  | .release _, _ => .settled
  | _, _ => phase

theorem allows_of_not_mem {key : SsoKey} {phase : Phase} {r : OperatorRequest} (h : r.kind ∉ critical) :
    Allows key phase r := by
  unfold Allows
  split
  case h_7 => trivial
  all_goals exact absurd (by simp [critical, tracked]) h

theorem after_of_not_mem {phase : Phase} {r : OperatorRequest} (h : r.kind ∉ critical) (reply : r.Reply) :
    phase.after r reply = phase := by
  unfold after
  split
  case h_7 => rfl
  all_goals exact absurd (by simp [critical, tracked]) h

theorem Expects.calm {key : SsoKey} {r : OperatorRequest} {reply : r.Reply} (expected : Expects key r reply) :
    ¬Turn.IsBreakdown ⟨r, reply⟩ := by
  rintro ⟨c, broke⟩
  cases broke
  cases c <;> exact expected

end Phase

def custody (key : SsoKey) : Protocol Operator Phase where
  allows := Phase.Allows key
  expects _ := Phase.Expects key
  next := Phase.after

variable {key : SsoKey}

/-- A routine that asks for nothing that counts stays in its phase. -/
theorem Confined.keeps_custody {α : Type} {kinds : List RequestKind} {x : Routine α} (confined : Confined kinds x)
    (neutral : ∀ k ∈ kinds, k ∉ Phase.critical) (phase : Phase) :
    Program.Keeps (custody key) (fun phase' o => phase' = phase ∧ o ≠ .panic ∧ ∃ h, Program.Runs x h o) x phase :=
  confined.keeps (fun r hr => Phase.allows_of_not_mem (neutral r.kind hr)) (fun _ _ => Phase.Expects.calm)
    (fun r reply hr _ => Phase.after_of_not_mem (neutral r.kind hr) reply)

theorem Confined.endsIn_custody {α : Type} {kinds : List RequestKind} {x : Routine α} (confined : Confined kinds x)
    (neutral : ∀ k ∈ kinds, k ∉ Phase.critical) {phase : Phase} {failed : Phase → Prop} (hp : failed phase) :
    Program.Keeps (custody key) (Action.EndsIn (fun _ => phase) failed) x phase := by
  refine (confined.keeps_custody neutral phase).imp ?_
  rintro _ o ⟨rfl, unbroken, -⟩
  cases o with
  | ok _ => exact rfl
  | error _ => exact hp
  | panic => exact absurd rfl unbroken

/-! ## Provisioning -/

namespace Provision

variable {config : Config} {sso : Sso} {ns : String}

/-- The new client is recorded, or it is there without a record. -/
theorem configure_keeps {account cookieSecret : String} {client : OidcClient} (hns : key = ⟨ns, sso.name⟩) :
    Program.Keeps (custody key) (Action.EndsIn (fun _ => .settled) (· = .registered client.id))
      (configure config sso ns account cookieSecret client) (.registered client.id) := by
  rw [configure_eq]
  refine Action.keeps_bind_endsIn ((arrange_confined _ _ _ _ _ _).endsIn_custody (by decide) rfl) fun _ => ?_
  refine Action.keeps_mapError ⟨⟨hns, client.id, rfl, rfl⟩, fun reply expected => ?_⟩
  cases reply with
  | ok _ => exact rfl
  | error _ => exact rfl
  | panic => exact expected

theorem compensate_keeps (id : String) :
    Program.Keeps (custody key) (Action.EndsIn (fun _ => .secured) Phase.IsSafe) (compensate id) (.registered id) := by
  refine ⟨trivial, fun _ _ => ⟨.inl rfl, fun reply expected => ?_⟩⟩
  cases reply with
  | ok _ => exact rfl
  | error _ => exact rfl
  | panic => exact expected

/-- The new client is recorded, or it is deleted again. -/
theorem complete_keeps {g : Groundwork} {client : OidcClient} (hns : key = ⟨g.ns, sso.name⟩) :
    Program.Keeps (custody key) (Action.EndsIn (fun _ => .settled) Phase.IsSafe) (complete config sso g client)
      (.registered client.id) := by
  -- Whether there is still a client to delete shows in whether the work on it failed.
  have configured : Program.Keeps (custody key)
      (Action.EndsIn (fun result : Except Error Unit => result.rec (fun _ => .registered client.id) fun _ => .settled)
        Phase.IsSafe)
      (configure config sso g.ns g.account g.cookieSecret client).attempt (.registered client.id) := by
    refine Action.keeps_attempt ((configure_keeps hns).imp fun phase o => ?_)
    cases o with
    | ok _ => exact id
    | error _ => exact id
    | panic => exact id
  refine Action.keeps_bind_endsIn configured fun result => ?_
  cases result with
  | ok _ => exact rfl
  | error e => exact Action.keeps_bind_endsIn (compensate_keeps client.id) fun _ => nofun

theorem create_keeps (g : Groundwork) :
    Program.Keeps (custody key) (Action.EndsIn (fun client => .registered client.id) Phase.IsSafe) (create sso g)
      .secured := by
  refine Action.keeps_mapError ⟨rfl, fun reply expected => ?_⟩
  cases reply with
  | ok client => exact rfl
  | error _ => exact nofun
  | panic => exact expected

/-- Provisioning makes a client only while the deletion of the SSO is held up, and leaves none without a record. -/
theorem run_keeps (hk : SsoKey.ofSso sso = .ok key) :
    Program.Keeps (custody key) (Action.EndsIn (fun _ => .settled) Phase.IsSafe) (run config sso) .secured := by
  obtain ⟨hns, hname⟩ := SsoKey.ofSso_eq_ok_iff.1 hk
  rw [run_eq]
  refine Action.keeps_bind ((prepare_confined config sso).keeps_custody (by decide) _) ?_ ?_ ?_
  · -- That the preparation ran tells which namespace it goes on with.
    rintro _ g ⟨rfl, -, h, prepared⟩
    refine Action.keeps_bind_endsIn (create_keeps g) fun client => complete_keeps ?_
    have same : key.namespaceName = g.ns := Except.ok.inj (hns.symm.trans (prepare_ok prepared).1)
    rw [← same, hname]
  · rintro _ e ⟨rfl, -⟩
    exact nofun
  · rintro _ ⟨-, unbroken, -⟩
    exact absurd rfl unbroken

end Provision

/-! ## Holding up the deletion, and clean-up -/

namespace Finalizer

variable {config : Config} {sso : Sso}

theorem replace_keeps {finalizers : List String} (phase : Phase) (hk : SsoKey.ofSso sso = .ok key)
    (safe : phase.IsSafe)
    (allowed : phase = .unsecured ∧ name ∈ finalizers ∨ phase = .cleared ∧ name ∉ finalizers) :
    Program.Keeps (custody key)
      (Action.EndsIn (fun _ => if name ∈ finalizers then .secured else .settled) Phase.IsSafe)
      (replace sso finalizers) phase := by
  obtain ⟨hns, hname⟩ := SsoKey.ofSso_eq_ok_iff.1 hk
  unfold replace
  rw [hns, hname]
  refine ⟨⟨rfl, allowed⟩, fun reply expected => ?_⟩
  cases reply with
  | ok _ => exact rfl
  | error _ => exact safe
  | panic => exact expected

theorem ensure_keeps (hk : SsoKey.ofSso sso = .ok key) :
    Program.Keeps (custody key) (Action.EndsIn (fun _ => .secured) Phase.IsSafe) (ensure sso)
      (if isHeld sso then .secured else .unsecured) := by
  unfold ensure
  by_cases held : isHeld sso = true
  · rw [if_pos held, if_pos held]
    exact rfl
  · rw [if_neg held, if_neg held]
    have added : name ∈ sso.metadata.finalizerList ++ [name] := by simp
    have replaced := replace_keeps .unsecured hk nofun (.inl ⟨rfl, added⟩)
    rwa [if_pos added] at replaced

theorem dispose_keeps {ns : String} :
    Program.Keeps (custody key) (Action.EndsIn (fun _ => .cleared) Phase.IsSafe) (dispose sso ns)
      (sso.clientId?.elim .cleared .condemned) := by
  unfold dispose
  cases sso.clientId? with
  | none => exact rfl
  | some id =>
    refine Action.keeps_attempt (Action.keeps_mapError ⟨.inr rfl, fun reply expected => ?_⟩)
    cases reply with
    | ok _ => exact rfl
    | error _ => exact rfl
    | panic => exact expected

/-- The client that the status names is deleted, whatever becomes of the rest. -/
theorem undo_keeps {ns : String} (tidy : sso.IsTidy) :
    Program.Keeps (custody key) (Action.EndsIn (fun _ => .cleared) Phase.IsSafe) (undo config sso ns)
      (sso.clientId?.elim .cleared .condemned) := by
  have safe : Phase.IsSafe (sso.clientId?.elim .cleared .condemned) := by
    cases sso.clientId? with
    | none => exact nofun
    | some id => exact nofun
  cases hid : sso.clientId? with
  | none =>
    have skipped : undo config sso ns = pure (.ok ()) := if_neg (by simp [tidy.isInitialized_eq, hid])
    rw [skipped]
    exact rfl
  | some id =>
    have tried : undo config sso ns = teardown config sso ns := if_pos (by simp [tidy.isInitialized_eq, hid])
    rw [tried, teardown_eq, ← hid]
    refine Action.keeps_bind_endsIn ((conceal_confined config sso ns).endsIn_custody (by decide) safe) fun _ => ?_
    exact Action.keeps_bind_endsIn dispose_keeps fun _ => rfl

theorem letGo_keeps {result : Except Error Unit} (hk : SsoKey.ofSso sso = .ok key) :
    Program.Keeps (custody key) (Action.EndsIn (fun _ => .settled) Phase.IsSafe) (letGo sso result) .cleared := by
  have removed : name ∉ sso.metadata.finalizerList.filter (· ≠ name) := by simp
  have replaced := replace_keeps .cleared hk nofun (.inr ⟨rfl, removed⟩)
  rw [if_neg removed] at replaced
  refine Action.keeps_bind_endsIn replaced fun _ => ?_
  cases result with
  | ok _ => exact ⟨trivial, fun _ _ => rfl⟩
  | error e => exact nofun

/-- An SSO that is being deleted is let go of only when its client has been deleted. -/
theorem cleanup_keeps (hk : SsoKey.ofSso sso = .ok key) (tidy : sso.IsTidy) (deleted : sso.metadata.isDeleted = true) :
    Program.Keeps (custody key) (Action.EndsIn (fun _ => .settled) Phase.IsSafe) (cleanup config sso)
      (Phase.ofSso sso) := by
  obtain ⟨hns, -⟩ := SsoKey.ofSso_eq_ok_iff.1 hk
  rw [Phase.ofSso_deleted deleted, cleanup_eq]
  by_cases held : isHeld sso = true
  · rw [if_pos held, if_pos held, hns]
    change Program.Keeps _ _ (Action.bind (undo config sso key.namespaceName) (letGo sso)) _
    exact Action.keeps_bind_endsIn (undo_keeps tidy) fun _ => letGo_keeps hk
  · rw [if_neg held, if_neg held]
    exact rfl

end Finalizer

/-! ## Reconciliation -/

namespace Reconcile

variable {config : Config} {sso : Sso}

theorem apply_keeps (hk : SsoKey.ofSso sso = .ok key) (live : sso.metadata.isDeleted = false) :
    Program.Keeps (custody key) (Action.EndsIn (fun _ => .settled) Phase.IsSafe) (apply config sso)
      (Phase.ofSso sso) := by
  rw [Phase.ofSso_live live]
  unfold apply
  by_cases initialized : sso.isInitialized = true
  · rw [if_pos initialized, if_pos initialized]
    exact rfl
  · rw [if_neg initialized, if_neg initialized]
    refine Action.keeps_bind_endsIn (Finalizer.ensure_keeps hk) fun _ => ?_
    refine Action.keeps_bind_endsIn (Provision.run_keeps hk) fun _ => ?_
    exact ⟨trivial, fun _ _ => rfl⟩

def pursue (config : Config) (sso : Sso) : Routine Followup :=
  match demandOf sso with
  | .cleanup => Finalizer.cleanup config sso
  | .apply => apply config sso

/-- Once the SSO has been read, it is not read again. -/
def pursueFootprint : List RequestKind :=
  [.call .patchSsoFinalizers, .count .provisioned] ++ Provision.runFootprint ++ Finalizer.cleanupFootprint

theorem pursue_confined (config : Config) (sso : Sso) : Confined pursueFootprint (pursue config sso) := by
  have applied : Confined pursueFootprint (apply config sso) :=
    .branch (.pure _) <|
      ((Finalizer.ensure_confined sso).mono (by decide)).bind fun _ =>
      ((Provision.run_confined config sso).mono (by decide)).bind fun _ =>
      (Confined.request (r := .count .provisioned) (by decide)).bind fun _ => .pure _
  unfold pursue
  cases demandOf sso with
  | cleanup => exact (Finalizer.cleanup_confined config sso).mono (by decide)
  | apply => exact applied

theorem pursue_keeps (hk : SsoKey.ofSso sso = .ok key) (tidy : sso.IsTidy) :
    Program.Keeps (custody key) (Action.EndsIn (fun _ => .settled) Phase.IsSafe) (pursue config sso)
      (Phase.ofSso sso) := by
  unfold pursue
  cases deleted : sso.metadata.isDeleted with
  | true =>
    rw [show demandOf sso = .cleanup from if_pos deleted]
    exact Finalizer.cleanup_keeps hk tidy deleted
  | false =>
    rw [show demandOf sso = .apply from if_neg (by simp [deleted])]
    exact apply_keeps hk deleted

/-- **A reconciliation keeps the custody of its client**, from the reading of the SSO to its end. -/
theorem admitted_keeps (config : Config) (key : SsoKey) :
    Program.Keeps (custody key) (Action.EndsIn (fun _ => .settled) Phase.IsSafe) (admitted config key) .settled := by
  refine ⟨⟨rfl, rfl⟩, fun reply expected => ?_⟩
  rcases reply with (- | sso) | e | -
  · exact rfl
  · obtain ⟨hk, tidy⟩ := expected
    exact pursue_keeps hk tidy
  · exact nofun
  · exact expected

/-- The key is given back when no client is without a record. -/
theorem inside_keeps (config : Config) (key : SsoKey) :
    Program.Keeps (custody key) (fun phase _ => phase = .settled)
      (Program.bind (admitted config key) (leaving key)) .settled := by
  refine Program.keeps_bind_iff.2 ((admitted_keeps config key).imp fun phase o ended => ⟨?_, fun _ _ => rfl⟩)
  cases o with
  | ok _ => exact (show phase = .settled from ended) ▸ nofun
  | error _ => exact ended
  | panic => exact ended.elim

end Reconcile

end SignOnOperator
