import SignOnOperator.Proofs.Agreement
import SignOnOperator.Proofs.Cleanup
import SignOnOperator.Proofs.Conduct
import SignOnOperator.Proofs.CookieLoading
import SignOnOperator.Proofs.Custody
import SignOnOperator.Proofs.Exclusion
import SignOnOperator.Proofs.Template
/-!
# The use of the cell

How a reconciliation deals with the cookie secret, as a protocol.  It enters the cell at most once; it reads and
creates the object that holds the secret only while it has the sole right to load it, in the course of one loading,
which it ends by filling the cell with what was loaded or by leaving it after a failure; and it hands to proxies only
the secret that it knows (`Reconcile.run_shares`).  What one turn can do to the cell, and to how a reconciliation stands
to it, is said once (`CookieSecret.Dealing`).
-/
namespace SignOnOperator

open Kubernetes
open Rehearsal (Cell)

namespace CookieSecret

/-- A proxy's object that holds a configuration with this cookie secret, which stands on a line of its own. -/
def Carries (secret : Secret) (value : String) : Prop :=
  ∃ sso client upstreamUrl text, Proxy.render sso client value upstreamUrl Proxy.port = .ok text ∧
    ("\ncookie_secret = \"" ++ value ++ "\"\n").toList <:+: text.toList ∧
    secret.data = some ((Proxy.secretData text).map Bytes.ofString)

/-- How a reconciliation stands to the cookie secret: it has not come to it, or has lost it; it is loading it, and this
is what the loading has been given; or it knows it. -/
inductive Standing where
  | unaware
  | loading (load : History Operator)
  | aware (value : String)

namespace Standing

def isLoading : Standing → Bool
  | loading _ => true
  | _ => false

def next : Standing → (r : OperatorRequest) → r.Reply → Standing
  | _, .enterCell, some value => aware value
  | _, .enterCell, none => loading []
  | loading _, .fillCell value, _ => aware value
  | loading _, .leaveCell, _ => unaware
  | loading load, r, reply => loading (load ++ [⟨r, reply⟩])
  | standing, _, _ => standing

/-- What belongs to a loading of the secret. -/
def internal : List RequestKind := [.call .getSecret, .call .createSecret, .fillCell, .leaveCell]

/-- What has to do with the secret. -/
def related : List RequestKind := .enterCell :: .call .applySecret :: internal

/-- How the right to the cell is given back: with the value, if the loading has come to one. -/
def handBack : Outcome String → OperatorRequest
  | .ok value => .fillCell value
  | _ => .leaveCell

/-- What may be asked for during a loading: what the loading asks for next, or, once that has ended, to give back the
right to the cell. -/
def Loads (ns : String) (load : History Operator) (r : OperatorRequest) : Prop :=
  Program.Asks (loadOrCreate ns) load r ∨ ∃ o, Program.Runs (loadOrCreate ns) load o ∧ r = handBack o

def Allows (ns : String) : Standing → OperatorRequest → Prop
  | unaware, r => r.kind ∉ RequestKind.call .applySecret :: internal
  | loading load, r => Loads ns load r
  | aware value, r =>
    r.kind ∉ RequestKind.enterCell :: internal ∧ ∀ secret, r = .call (.applySecret secret) → Carries secret value

end Standing

/-- The use of the cell by operators in a namespace.  Nothing is expected of the replies. -/
def sharing (ns : String) : Protocol Operator Standing where
  allows := Standing.Allows ns
  expects _ _ _ := True
  next := Standing.next

open Standing

variable {ns : String}

namespace Standing

theorem next_of_ne {standing : Standing} {r : OperatorRequest} {reply : r.Reply}
    (idle : standing.isLoading = false) (enter : r.kind ≠ .enterCell) : standing.next r reply = standing := by
  cases standing with
  | loading load => cases idle
  | unaware | aware value =>
    cases r with
    | enterCell => exact absurd rfl enter
    | _ => rfl

theorem next_enterCell_none {standing : Standing} : standing.next .enterCell none = loading [] := by
  cases standing <;> rfl

theorem loading_next {load : History Operator} {r : OperatorRequest} {reply : r.Reply}
    (asked : Program.Asks (loadOrCreate ns) load r) :
    (loading load).next r reply = loading (load ++ [⟨r, reply⟩]) := by
  have known : r.kind ∈ loadFootprint := (loadOrCreate_confined ns).asks load r asked
  cases r with
  | enterCell | fillCell _ | leaveCell => exact absurd known (by simp [loadFootprint])
  | _ => rfl

end Standing

/-! ## What has nothing to do with the secret -/

section Neutral

variable {α : Type} {kinds : List RequestKind} {x : Routine α} {standing : Standing} {r : OperatorRequest}

theorem allows_of_idle (idle : standing.isLoading = false) (neutral : r.kind ∉ related) : Allows ns standing r := by
  cases standing with
  | loading load => cases idle
  | unaware => exact fun known => neutral (List.mem_cons_of_mem _ known)
  | aware value =>
    refine ⟨fun known => neutral ?_, fun secret applied => ?_⟩
    · rcases List.mem_cons.1 known with enters | inside
      · exact List.mem_cons.2 (.inl enters)
      · exact List.mem_cons_of_mem _ (List.mem_cons_of_mem _ inside)
    · subst applied
      exact absurd (by simp [related]) neutral

theorem next_of_idle (idle : standing.isLoading = false) (neutral : r.kind ∉ related) (reply : r.Reply) :
    standing.next r reply = standing :=
  next_of_ne idle fun enters => neutral (enters ▸ List.mem_cons_self)

theorem stays_of_idle (idle : standing.isLoading = false) (confined : Confined kinds x)
    (neutral : ∀ k ∈ kinds, k ∉ related) : Program.Stays (sharing ns) x standing :=
  confined.stays (fun r hr => allows_of_idle idle (neutral r.kind hr))
    fun r reply hr => next_of_idle idle (neutral r.kind hr) reply

theorem keeps_ask_of_idle {post : Standing → α → Prop} {next : r.Reply → Program Operator α}
    (idle : standing.isLoading = false) (neutral : r.kind ∉ related)
    (later : ∀ reply, (next reply).Keeps (sharing ns) post standing) :
    Program.Keeps (sharing ns) post (.ask (I := Operator) r next) standing := by
  refine ⟨allows_of_idle idle neutral, fun reply _ => ?_⟩
  have same : (sharing ns).next standing r reply = standing := next_of_idle idle neutral reply
  rw [same]
  exact later reply

theorem stays_call {c : Call} (kind : CallKind) (hc : c.kind = kind)
    (idle : standing.isLoading = false) (neutral : .call kind ∉ related) :
    Program.Stays (sharing ns) (Routine.call c) standing := by
  subst hc
  exact keeps_ask_of_idle (r := .call c) idle neutral fun _ => rfl

end Neutral

theorem stays_applySecret {secret : Secret} {value : String} (carries : Carries secret value) :
    Program.Stays (sharing ns) (Routine.call (.applySecret secret)) (aware value) := by
  refine ⟨⟨show RequestKind.call .applySecret ∉ _ by decide, fun other same => ?_⟩, fun _ _ => rfl⟩
  cases same
  exact carries

/-! ## Loading -/

/-- Where a reconciliation stands when the loading has ended. -/
def EndsLoading (standing : Standing) : Outcome String → Prop
  | .ok value => standing = aware value
  | _ => standing = unaware

theorem EndsLoading.idle {standing : Standing} {o : Outcome String} (ended : EndsLoading standing o) :
    standing.isLoading = false := by
  cases o with
  | ok _ | error _ | panic =>
    obtain rfl : standing = _ := ended
    rfl

theorem loadOrCreate_keeps (ns : String) :
    Program.Keeps (sharing ns)
      (fun standing o => ∃ load, Program.Runs (loadOrCreate ns) load o ∧ standing = .loading load) (loadOrCreate ns)
      (.loading []) :=
  Program.keeps_along Standing.loading fun _ _ asked => ⟨.inl asked, fun _ _ => loading_next asked⟩

theorem fill_keeps (ns : String) : Program.Keeps (sharing ns) EndsLoading (fill ns) (.loading []) := by
  rw [fill_eq]
  refine Program.keeps_bind_iff.2 ((loadOrCreate_keeps ns).imp ?_)
  rintro _ o ⟨load, ran, rfl⟩
  cases o with
  | ok _ | error _ | panic => exact ⟨.inr ⟨_, ran, rfl⟩, fun _ _ => rfl⟩

theorem get_keeps (ns : String) : Program.Keeps (sharing ns) EndsLoading (get ns) unaware := by
  refine ⟨show RequestKind.enterCell ∉ _ by decide, fun held _ => ?_⟩
  cases held with
  | some value => exact rfl
  | none => exact fill_keeps ns

end CookieSecret

open CookieSecret CookieSecret.Standing

variable {config : Config} {sso : Sso} {ns : String} {client : OidcClient} {value : String}

/-! ## Handing the secret to the proxies -/

namespace Proxy

theorem carries_of_buildBundle {app url rendered : String} {bundle : Bundle}
    (made : render sso client value url port = .ok rendered)
    (built : buildBundle sso app url (secretData rendered) = .ok bundle) : Carries bundle.secret value := by
  obtain ⟨-, -, data, -⟩ := buildBundle_ok built
  have recipe : Recipe.render ⟨sso, client, value, url, port⟩ = .ok rendered := made
  have shown := Recipe.render_cookieSecret recipe
  exact ⟨sso, client, url, rendered, made, shown, data⟩

theorem carries_of_plan {upstream : Service} {bundle : Bundle} (planned : plan sso client value upstream = .ok bundle) :
    Carries bundle.secret value := by
  obtain ⟨rendered, made, built⟩ := plan_built planned
  exact carries_of_buildBundle made built

theorem carries_of_revise {bundle updated : Bundle} (revised : revise sso client value bundle = .ok updated) :
    Carries updated.secret value := by
  obtain ⟨rendered, made, built⟩ := Except.bind_eq_ok revised
  exact carries_of_buildBundle made built

theorem deploy_shares : Program.Stays (sharing ns) (deploy config sso client value) (aware value) := by
  refine Action.stays_ofExcept_bind fun home _ => ?_
  refine Action.stays_bind (stays_call .getService rfl rfl (by decide)) fun found => ?_
  refine Action.stays_require_bind fun upstream => ?_
  refine Action.stays_ofExcept_bind fun bundle planned => ?_
  refine Action.stays_bind ?_ fun _ => rfl
  refine Action.stays_bind (stays_applySecret (carries_of_plan planned)) fun _ => ?_
  refine Action.stays_bind (stays_call .applyDeployment rfl rfl (by decide)) fun _ => ?_
  refine Action.stays_bind (stays_call .applyService rfl rfl (by decide)) fun _ => ?_
  refine Action.stays_bind (stays_of_idle rfl (Waiting.forService_confined _ _ _ _) (by decide)) fun _ => ?_
  exact stays_of_idle rfl (Waiting.forPods_confined _ _ _ _) (by decide)

theorem update_shares {bundle : Bundle} :
    Program.Stays (sharing ns) (update config sso client value bundle) (aware value) := by
  refine Action.stays_ofExcept_bind fun home _ => Action.stays_ofExcept_bind fun updated revised => ?_
  refine Action.stays_bind (stays_applySecret (carries_of_revise revised)) fun _ => ?_
  refine Action.stays_bind (stays_call .applyDeployment rfl rfl (by decide)) fun _ => ?_
  refine Action.stays_bind (stays_of_idle rfl (Waiting.forDeployment_confined _ _ _) (by decide)) fun _ => ?_
  exact Action.stays_bind (stays_of_idle rfl (Waiting.forPods_confined _ _ _ _) (by decide)) fun _ => rfl

end Proxy

namespace Provision

theorem arrange_shares {home account : String} :
    Program.Stays (sharing ns) (arrange config sso home account value client) (aware value) := by
  refine Action.stays_bind (Action.stays_mapError Proxy.deploy_shares) fun bundle => ?_
  refine Action.stays_bind (stays_of_idle rfl (publish_confined _ _ _ _ _) (by decide)) fun _ => ?_
  refine Action.stays_bind (Action.stays_mapError (stays_of_idle rfl (resolveHosts_confined _ _) (by decide)))
    fun hosts => ?_
  refine Action.stays_bind
    (Action.stays_mapError (stays_call .updateClient rfl rfl (by decide))) fun _ => ?_
  exact Action.stays_bind (Action.stays_mapError Proxy.update_shares) fun _ => rfl

/-- From the new client on, the secret that was loaded is used throughout. -/
theorem complete_shares {g : Groundwork} :
    Program.Stays (sharing ns) (complete config sso g client) (aware g.cookieSecret) := by
  have configured : Program.Stays (sharing ns) (configure config sso g.ns g.account g.cookieSecret client)
      (aware g.cookieSecret) := by
    rw [configure_eq]
    exact Action.stays_bind arrange_shares fun _ =>
      Action.stays_mapError (stays_call .patchSsoStatus rfl rfl (by decide))
  refine Action.stays_bind (Action.stays_attempt configured) fun result => ?_
  cases result with
  | ok _ => exact rfl
  | error e => exact Action.stays_bind (stays_of_idle rfl (compensate_confined _) (by decide)) fun _ => rfl

theorem create_shares {g : Groundwork} : Program.Stays (sharing ns) (create sso g) (aware value) :=
  Action.stays_mapError (stays_call .createClient rfl rfl (by decide))

/-- Where a reconciliation stands when the groundwork is laid, or could not be. -/
def EndsPreparing (standing : Standing) : Outcome Groundwork → Prop
  | .ok g => standing = aware g.cookieSecret
  | _ => standing.isLoading = false

theorem prepare_shares :
    Program.Keeps (sharing config.operatorNamespace) EndsPreparing (prepare config sso) unaware := by
  unfold prepare
  cases sso.requireNamespace with
  | error e => exact rfl
  | ok home =>
    have bound : Program.Stays (sharing config.operatorNamespace)
        (Step.bindRole.run sso home (Routine.call (.ensureClusterRoleBinding config.clusterRoleName home))) unaware :=
      Action.stays_mapError (stays_call .ensureClusterRoleBinding rfl rfl (by decide))
    have loaded : Program.Keeps (sharing config.operatorNamespace) EndsLoading
        (Step.loadCookieSecret.run sso home (get config.operatorNamespace)) unaware := by
      refine Action.keeps_mapError ((get_keeps _).imp fun _ o ended => ?_)
      cases o with
      | ok _ | error _ | panic => exact ended
    change Program.Keeps _ _ (Action.bind (Step.bindRole.run sso home _) _) _
    refine Action.keeps_bind bound ?_ (fun _ _ same => same ▸ rfl) (fun _ same => same ▸ rfl)
    rintro _ account rfl
    exact Action.keeps_bind loaded (fun _ _ ended => ended) (fun _ _ ended => ended.idle) fun _ ended => ended.idle

theorem run_shares :
    Program.Keeps (sharing config.operatorNamespace) (fun standing _ => standing.isLoading = false) (run config sso)
      unaware := by
  rw [run_eq]
  refine Action.keeps_bind prepare_shares ?_ (fun _ _ => id) (fun _ => id)
  rintro _ g rfl
  have made : Program.Stays (sharing config.operatorNamespace) (Action.bind (create sso g) (complete config sso g))
      (aware g.cookieSecret) := Action.stays_bind create_shares fun _ => complete_shares
  exact made.imp fun _ _ same => same ▸ rfl

end Provision

/-! ## Reconciliation -/

namespace Reconcile

/-- Only provisioning comes to the cell. -/
theorem apply_shares :
    Program.Keeps (sharing config.operatorNamespace) (fun standing _ => standing.isLoading = false) (apply config sso)
      unaware := by
  unfold apply
  split
  · exact rfl
  · refine Action.keeps_bind (stays_of_idle rfl (Finalizer.ensure_confined sso) (by decide)) ?_
      (fun _ _ same => same ▸ rfl) (fun _ same => same ▸ rfl)
    rintro _ _ rfl
    refine Action.keeps_bind Provision.run_shares (fun standing _ idle => ?_) (fun _ _ => id) (fun _ => id)
    exact keeps_ask_of_idle (r := .count .provisioned) idle (by decide) fun _ => idle

theorem admitted_shares (key : SsoKey) :
    Program.Keeps (sharing config.operatorNamespace) (fun standing _ => standing.isLoading = false)
      (admitted config key) unaware := by
  refine keeps_ask_of_idle (r := .call (.getSso _ _)) rfl (show .call .getSso ∉ related by decide) fun found => ?_
  rcases found with (- | sso) | e | -
  · exact rfl
  · have cleaned : Program.Stays (sharing config.operatorNamespace) (Finalizer.cleanup config sso) unaware :=
      stays_of_idle rfl (Finalizer.cleanup_confined config sso) (by decide)
    change Program.Keeps _ _ (pursue config sso) _
    unfold pursue
    cases demandOf sso with
    | cleanup => exact cleaned.imp fun _ _ same => same ▸ rfl
    | apply => exact apply_shares
  · exact rfl
  · exact rfl

/-- **A reconciliation deals with the cookie secret as the protocol says**, from its beginning to its end, and does not
end while it is loading. -/
theorem run_shares (config : Config) (event : Sso) :
    Program.Keeps (sharing config.operatorNamespace) (fun standing _ => standing.isLoading = false) (run config event)
      unaware := by
  rw [run_eq]
  refine keeps_ask_of_idle (r := .count .reconciled) rfl (by decide) fun _ => ?_
  unfold entrance
  cases SsoKey.ofSso event with
  | error e => exact rfl
  | ok key =>
    refine keeps_ask_of_idle (r := .acquire key) rfl (by simp [related, internal]) fun free => ?_
    cases free with
    | false => exact keeps_ask_of_idle (r := .count .duplicate) rfl (by decide) fun _ => rfl
    | true =>
      refine Program.keeps_bind_iff.2 ((admitted_shares key).imp fun standing o idle => ?_)
      exact keeps_ask_of_idle (r := .release key) idle (by simp [related, internal]) fun _ => idle

end Reconcile

/-! ## Turns at the cell -/

namespace Shared

variable {shared shared' : Shared} {r : OperatorRequest} {reply : r.Reply}

/-- Only three requests have to do with the cell. -/
theorem Answers.cell_eq (answered : shared.Answers r reply shared') (enter : r.kind ≠ .enterCell)
    (fill : r.kind ≠ .fillCell) (leave : r.kind ≠ .leaveCell) : shared'.cell = shared.cell := by
  cases r with
  | enterCell => exact absurd rfl enter
  | fillCell _ => exact absurd rfl fill
  | leaveCell => exact absurd rfl leave
  | acquire key =>
    simp only [Answers] at answered
    split at answered <;> rw [answered.2]
  | call _ | clock | pause _ | draw | release _ | count _ => rw [show shared' = _ from answered]

/-- Whoever comes to an empty cell is to load it, and whoever comes to a filled one is given what is in it; while the
cell is being loaded nobody is answered. -/
theorem answers_enterCell_iff {held : Option String} :
    shared.Answers .enterCell held shared' ↔
      (held = none ∧ shared.cell = .empty ∧ shared' = { shared with cell := .loading }) ∨
        ∃ value, held = some value ∧ shared.cell = .filled value ∧ shared' = shared := by
  simp only [Answers]
  cases shared.cell with
  | empty =>
    simp only [reduceCtorEq, false_and, and_false, exists_false, or_false, true_and]
    exact Iff.rfl
  | loading => simp
  | filled value =>
    simp only [reduceCtorEq, false_and, and_false, false_or, Cell.filled.injEq]
    constructor
    · rintro ⟨hh, hs⟩
      exact ⟨value, hh, rfl, hs⟩
    · rintro ⟨_, hh, same, hs⟩
      exact ⟨same ▸ hh, hs⟩

end Shared

namespace CookieSecret

open Standing

/-- How many loadings a cell waits for. -/
def loaders : Cell → Nat
  | .loading => 1
  | _ => 0

/-- **What one turn of a reconciliation can do** to how it stands to the cookie secret, and to the cell. -/
inductive Dealing (ns : String) : Standing → Cell → Turn Operator → Standing → Cell → Prop where
  | begins {standing : Standing} (idle : standing.isLoading = false) :
      Dealing ns standing .empty ⟨.enterCell, none⟩ (.loading []) .loading
  | learns {standing : Standing} {value : String} (idle : standing.isLoading = false) :
      Dealing ns standing (.filled value) ⟨.enterCell, some value⟩ (aware value) (.filled value)
  | loads {load : History Operator} {cell : Cell} {turn : Turn Operator}
      (asked : Program.Asks (loadOrCreate ns) load turn.request) :
      Dealing ns (.loading load) cell turn (.loading (load ++ [turn])) cell
  | fills {load : History Operator} {cell : Cell} {value : String}
      (ran : Program.Runs (loadOrCreate ns) load (.ok value)) :
      Dealing ns (.loading load) cell ⟨.fillCell value, ()⟩ (aware value) (.filled value)
  | leaves {load : History Operator} {cell : Cell} {o : Outcome String} (ran : Program.Runs (loadOrCreate ns) load o)
      (failed : ∀ value, o ≠ .ok value) :
      Dealing ns (.loading load) cell ⟨.leaveCell, ()⟩ unaware .empty
  | other {standing : Standing} {cell : Cell} {turn : Turn Operator} (idle : standing.isLoading = false)
      (enter : turn.kind ≠ .enterCell) (allowed : Allows ns standing turn.request) :
      Dealing ns standing cell turn standing cell

variable {ns : String}

theorem Standing.not_internal {standing : Standing} {r : OperatorRequest} (idle : standing.isLoading = false)
    (allowed : Allows ns standing r) : r.kind ∉ internal := by
  cases standing with
  | loading _ => cases idle
  | unaware => exact fun known => allowed (List.mem_cons_of_mem _ known)
  | aware _ => exact fun known => allowed.1 (List.mem_cons_of_mem _ known)

/-- Nobody comes to the cell while loading the secret. -/
theorem Standing.idle_of_enter {standing : Standing} {r : OperatorRequest} (allowed : Allows ns standing r)
    (enters : r.kind = .enterCell) : standing.isLoading = false := by
  cases standing with
  | unaware | aware _ => rfl
  | loading load =>
    rcases allowed with asked | ⟨o, -, rfl⟩
    · have known : r.kind ∈ loadFootprint := (loadOrCreate_confined ns).asks load r asked
      rw [enters] at known
      exact absurd known (by decide)
    · cases o <;> cases enters

/-- Every turn is one of these dealings. -/
theorem dealing {standing : Standing} {r : OperatorRequest} {reply : r.Reply} {shared shared' : Shared}
    (allowed : Allows ns standing r) (answered : shared.Answers r reply shared') :
    Dealing ns standing shared.cell ⟨r, reply⟩ (standing.next r reply) shared'.cell := by
  cases standing with
  | loading load =>
    rcases allowed with asked | ⟨o, ran, rfl⟩
    · have known : r.kind ∈ loadFootprint := (loadOrCreate_confined ns).asks load r asked
      have foreign : ∀ kind, kind ∉ loadFootprint → r.kind ≠ kind := fun _ hk is => hk (is ▸ known)
      rw [loading_next asked,
        answered.cell_eq (foreign _ (by decide)) (foreign _ (by decide)) (foreign _ (by decide))]
      exact .loads asked
    · cases o with
      | ok value =>
        rw [show shared' = _ from answered]
        exact .fills ran
      | error _ | panic =>
        rw [show shared' = _ from answered]
        exact .leaves ran nofun
  | unaware | aware _ =>
    have apart : r.kind ∉ internal := Standing.not_internal rfl allowed
    by_cases enter : r.kind = .enterCell
    · cases r with
      | enterCell =>
        rcases Shared.answers_enterCell_iff.1 answered with ⟨rfl, empty, rfl⟩ | ⟨value, rfl, filled, rfl⟩
        · rw [empty]
          exact .begins rfl
        · rw [filled]
          exact .learns rfl
      | _ => cases enter
    · have foreign : ∀ kind ∈ internal, r.kind ≠ kind := fun _ hk is => apart (is ▸ hk)
      rw [next_of_ne rfl enter, answered.cell_eq enter (foreign _ (by decide)) (foreign _ (by decide))]
      exact .other rfl enter allowed

theorem loaders_le (cell : Cell) : loaders cell ≤ 1 := by
  cases cell <;> simp [loaders]

namespace Dealing

variable {standing standing' : Standing} {cell cell' : Cell} {turn : Turn Operator} {n : Nat}

/-- If the cell waits for the others that are loading and for this one, it does so afterwards. -/
theorem counted (dealing : Dealing ns standing cell turn standing' cell')
    (before : n + standing.isLoading.toNat = loaders cell) : n + standing'.isLoading.toNat = loaders cell' := by
  have one := loaders_le cell
  cases dealing with
  | begins idle =>
    rw [idle] at before
    obtain rfl : n = 0 := before
    rfl
  | learns idle =>
    rw [idle] at before
    exact before
  | fills | leaves =>
    simp only [isLoading, Bool.toNat_true] at before
    obtain rfl : n = 0 := by omega
    rfl
  | loads | other => exact before

/-- Unless this one is loading, the cell is not being loaded, if nobody else does. -/
theorem frees (dealing : Dealing ns standing cell turn standing' cell')
    (before : standing.isLoading = false → cell ≠ .loading) (idle : standing'.isLoading = false) :
    cell' ≠ .loading := by
  cases dealing with
  | begins | loads => cases idle
  | learns | fills | leaves => exact nofun
  | other => exact before idle

/-- Nothing becomes of a filled cell. -/
theorem filled (dealing : Dealing ns standing cell turn standing' cell')
    (before : n + standing.isLoading.toNat = loaders cell) {value : String} (known : cell = .filled value) :
    cell' = .filled value := by
  cases dealing with
  | begins idle => cases known
  | fills | leaves =>
    subst known
    simp [isLoading, loaders] at before
  | learns | loads | other => exact known

/-- Whoever comes to know a secret knows the one in the cell. -/
theorem known (dealing : Dealing ns standing cell turn standing' cell')
    (before : ∀ value, standing = aware value → cell = .filled value) {value : String}
    (aware' : standing' = aware value) : cell' = .filled value := by
  cases dealing with
  | begins | loads | leaves => cases aware'
  | learns | fills =>
    cases aware'
    rfl
  | other => exact before value aware'

end Dealing
end CookieSecret

end SignOnOperator
