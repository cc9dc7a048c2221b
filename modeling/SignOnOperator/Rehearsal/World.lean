import SignOnOperator.Reconcile.CookieSecret
import SignOnOperator.Reconcile.InFlight
import SignOnOperator.Reconcile.Metrics
import SignOnOperator.Rehearsal.Script
/-!
# The world of a rehearsal

What all programs of a rehearsal share: the time, which moves only while everything sleeps, the operator's own state,
and the SSOs that are stored.  Each program has a stage of its own, with the rest of its script and a record of its
calls.
-/
namespace SignOnOperator.Rehearsal

open Kubernetes

/-- The cell of the cookie secret: empty, being loaded, or filled. -/
inductive Cell where
  | empty
  | loading
  | filled (secret : String)

/-- What the programs share.  Times are in nanoseconds; the SSOs are stored under their keys. -/
structure World where
  now : Nat := 0
  metrics : Metrics := {}
  inFlight : InFlight := .empty
  cell : Cell := .empty
  store : KeyMap Sso := .empty
  seed : Nat := 1

/-- A call and the time when it was made. -/
structure Recorded where
  time : Nat
  call : Call

/-- What belongs to one program: the rest of its script, the calls it made, the latest first, and the pod
specifications of the deployments that it applied. -/
structure Stage where
  script : Script := .empty
  calls : List Recorded := []
  templates : List (Option PodSpec) := []

/-- The key under which an SSO is stored. -/
def storeKey (namespaceName name : String) : String := (SsoKey.mk namespaceName name).describe

/-- The key under which an SSO is stored; missing parts are empty. -/
def keyOf (sso : Sso) : String := storeKey (sso.metadata.namespaceName.getD "") sso.name

namespace World

def put (w : World) (sso : Sso) : World := { w with store := w.store.insert (keyOf sso) sso }

/-- Replaces the stored SSO of a key, if there is one. -/
def modify (w : World) (key : String) (f : Sso → Sso) : World :=
  match w.store.get? key with
  | some sso => { w with store := w.store.insert key (f sso) }
  | none => w

/-- Removes the stored SSO of a key if it is being deleted and nothing holds it up any longer. -/
def collect (w : World) (key : String) : World :=
  match w.store.get? key with
  | some sso =>
    if sso.metadata.isDeleted && sso.metadata.finalizerList.isEmpty then { w with store := w.store.erase key } else w
  | none => w

end World

/-! ## Replies -/

/-- The cookie secret that operators share unless a script says otherwise. -/
def usualCookieSecret : String := "0123456789abcdefABCDEF0123456789"

/-- How a call ends that no script mentions. -/
def usualResult (w : World) (stage : Stage) : (c : Call) → c.Result
  | .getSso ns name => w.store.get? (storeKey ns name)
  | .ensureClusterRoleBinding _ _ => "sso-operator-sa"
  | .getService _ name =>
    some ({ metadata := { name := some name }, spec := some { ports := some [{ port := 8080 }] } } : Service)
  | .getSecret _ _ =>
    some ({ data := some (.ofList [(CookieSecret.key, Bytes.ofString usualCookieSecret)]) } : Secret)
  | .getDeployment _ _ =>
    some ({ metadata := { generation := some 2 }, spec := some { replicas := some 1 }
            status := some { observedGeneration := some 2, replicas := some 1 } } : Deployment)
  | .listPods _ _ => [({ spec := (atIndex? stage.templates (-1)).join, phase? := some "Running" } : Pod)]
  | .getJob _ name =>
    some ({ metadata := { name := some name }, conditions := [{ type := "Complete", status := "True" }] } : Job)
  | .ingressHosts _ _ => ["jenkins.jx.example.com"]
  | .createClient redirectUris trustedPeers isPublic name logoUrl =>
    ({ id := "client-1", secret := "client-secret", redirectUris, trustedPeers, isPublic, name, logoUrl } : OidcClient)
  | .patchSsoStatus _ _ _ | .patchSsoFinalizers _ _ _ | .applyService _ | .applySecret _ | .createSecret _
  | .applyDeployment _ | .applyConfigMap _ | .deleteConfigMap _ _ | .createJob _ | .deleteJob _ _
  | .updateClient _ _ _ _ _ | .deleteClient _ => ()

/-- What a call that worked has changed. -/
def settle (w : World) (stage : Stage) : Call → World × Stage
  | .patchSsoStatus ns name status =>
    (w.modify (storeKey ns name) fun sso => { sso with status := some status }, stage)
  | .patchSsoFinalizers ns name finalizers =>
    let key := storeKey ns name
    let w := w.modify key fun sso => { sso with metadata := { sso.metadata with finalizers := some finalizers } }
    (w.collect key, stage)
  | .applyDeployment d => (w, { stage with templates := stage.templates ++ [d.podSpec?] })
  | _ => (w, stage)

/-- How a call ends with a reply. -/
def endCall (w : World) (stage : Stage) (c : Call) (ending : Ending) : Outcome c.Result × World × Stage :=
  let outcome : Outcome c.Result := match ending with
    | .panic => .panic
    | .error e => .error e
    | .value j => .ofExcept (readResult stage.templates c j)
    | .usual => .ok (usualResult w stage c)
  match outcome with
  | .ok result => (.ok result, settle w stage c)
  | outcome => (outcome, w, stage)

/-! ## Requests -/

/-- What becomes of a request: a reply at once, a reply when some time has passed, or waiting for the cell. -/
inductive Handled (R : Type) where
  | reply (r : R) (w : World) (stage : Stage)
  | sleep (wake : Nat) (w : World) (stage : Stage) (finish : World → Stage → R × World × Stage)
  | queue

/-- A reply after a while; after no time at all, at once. -/
def Handled.after {R : Type} (d : Duration) (w : World) (stage : Stage) (finish : World → Stage → R × World × Stage) :
    Handled R :=
  if d.nanoseconds = 0 then
    let (r, w, stage) := finish w stage
    .reply r w stage
  else .sleep (w.now + d.nanoseconds) w stage finish

/-- Pseudo-random choices, and the seed for the next ones. -/
def choices (seed : Nat) : (Fin secretLength → Fin alphabetSize) × Nat :=
  (fun i => ⟨(seed * (2 * i.val + 1) * 6364136223846793005 + 1442695040888963407) / 65536 % alphabetSize,
    Nat.mod_lt _ (by decide)⟩, seed + 1)

def handle (w : World) (stage : Stage) : (r : OperatorRequest) → Handled r.Reply
  | .call c =>
    let (reply, script) := stage.script.next (callName c)
    let stage := { stage with script, calls := ⟨w.now, c⟩ :: stage.calls }
    .after reply.delay w stage fun w stage => endCall w stage c reply.ending
  | .clock => .reply w.now w stage
  | .pause d => .after d w stage fun w stage => ((), w, stage)
  | .draw =>
    let (chosen, seed) := choices w.seed
    .reply chosen { w with seed } stage
  | .acquire key =>
    match w.inFlight.tryAcquire key with
    | some inFlight => .reply true { w with inFlight } stage
    | none => .reply false w stage
  | .release key => .reply () { w with inFlight := w.inFlight.release key } stage
  | .count counter => .reply () { w with metrics := w.metrics.count counter } stage
  | .enterCell =>
    match w.cell with
    | .empty => .reply none { w with cell := .loading } stage
    | .loading => .queue
    | .filled secret => .reply (some secret) w stage
  | .fillCell secret => .reply () { w with cell := .filled secret } stage
  | .leaveCell => .reply () { w with cell := .empty } stage

end SignOnOperator.Rehearsal
