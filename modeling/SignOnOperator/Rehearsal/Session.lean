import SignOnOperator.Reconcile.Reconcile
import SignOnOperator.Rehearsal.Schedule
/-!
# Sessions

A session is a sequence of steps on one operator: events that it deals with one by one or side by side, parts of its
work on their own, and changes from outside.  Its answer tells of each step how it ended and which calls were made.
-/
namespace SignOnOperator.Rehearsal

open Kubernetes

/-- An SSO given in full, or the stored one of a key. -/
inductive Target where
  | given (sso : Sso)
  | stored (key : String)

/-- An event: its SSO, whether it is stored first, and how the cluster replies. -/
structure Event where
  target : Target
  put : Bool := false
  script : Script := .empty

/-- Part of the operator's work, on an SSO. -/
inductive Work where
  | provision
  | ensureFinalizer
  | cleanup
  | deploy (client : OidcClient) (cookieSecret : String)
  | update (client : OidcClient) (cookieSecret appName upstreamUrl : String) (data : KeyMap String)
  | expose (mode : Exposure.Mode) (service serviceAccount : String)

inductive Step where
  | reconcile (event : Event)
  | concurrent (events : List (Duration × Event))
  | work (work : Work) (event : Event)
  | cookieSecret (script : Script)
  | errorPolicy (e : Error)
  | put (sso : Sso)
  | markDeleted (key : String)
  | sleep (d : Duration)
  | hold (key : SsoKey)
  | release (key : SsoKey)

/-- What a step comes to, if it does not fail. -/
inductive Value where
  | followup (f : Followup)
  | bundle (b : Proxy.Bundle)
  | text (s : String)
  | nothing

/-- How a step ended: its target was not there, it ran, or it was a simple change. -/
inductive Ended where
  | missing
  | ran (outcome : Outcome Value)
  | policy (f : Followup)
  | flag (b : Bool)
  | silent

/-- What is told of one run: how it ended, its calls in order, and when it began and ended. -/
structure Report where
  ended : Ended
  calls : List Recorded := []
  start : Nat
  finish : Nat

/-- What is told of a step. -/
inductive Told where
  | one (report : Report)
  | many (reports : List Report)

/-- The world, and the keys that are held from outside. -/
structure Session where
  config : Config
  world : World := {}
  held : List SsoKey := []

/-! ## Targets -/

/-- The world after an event's SSO was stored, if it is to be, and that SSO. -/
def Event.targetIn (event : Event) (w : World) : World × Option Sso :=
  match event.target with
  | .given sso => (if event.put then w.put sso else w, some sso)
  | .stored key => (w, w.store.get? key)

/-! ## Programs -/

def mapValue {α : Type} (f : α → Value) (task : Routine α) : Routine Value := Action.bind task fun a => pure (f a)

/-- The program of a part of the work. -/
def Work.program (config : Config) (sso : Sso) : Work → Routine Value
  | provision => mapValue (fun _ => .nothing) (Provision.run config sso)
  | ensureFinalizer => mapValue (fun _ => .nothing) (Finalizer.ensure sso)
  | cleanup =>
    mapValue .followup <| Program.bind (Finalizer.cleanup config sso) fun
      | .error e => (Reconcile.errorPolicy e).bind fun _ => .done (.error e)
      | outcome => .done outcome
  | deploy client cookieSecret => mapValue .bundle (Proxy.deploy config sso client cookieSecret)
  | update client cookieSecret appName upstreamUrl data => do
    let ns := sso.metadata.namespaceName.getD "jx"
    let placed := { sso with metadata := { sso.metadata with namespaceName := some ns } }
    let bundle ← Action.ofExcept (Proxy.buildBundle placed appName upstreamUrl data)
    mapValue .bundle (Proxy.update config sso client cookieSecret bundle)
  | expose mode service serviceAccount =>
    mapValue (fun _ => .nothing) (Exposure.run config mode sso service serviceAccount)

/-! ## Steps -/

namespace Session

/-- Runs one program and tells of it. -/
def runOne (s : Session) (script : Script) (program : Routine Value) : Session × Report :=
  let start := s.world.now
  let (world, stage, outcome) := runAlone s.world script program
  ({ s with world },
    { ended := outcome.elim .missing .ran, calls := stage.calls.reverse, start, finish := world.now })

/-- Runs a program on the SSO of an event, if there is one. -/
def runOn (s : Session) (event : Event) (program : Sso → Routine Value) : Session × Report :=
  match event.targetIn s.world with
  | (world, some sso) => { s with world }.runOne event.script (program sso)
  | (world, none) => ({ s with world }, { ended := .missing, start := world.now, finish := world.now })

/-- An event that begins after a while, as an actor. -/
def actorOf (s : Session) (delay : Duration) (event : Event) : Actor (Option (Outcome Value)) where
  stage := { script := event.script }
  status := .sleeping (s.world.now + delay.nanoseconds) fun w stage =>
    match event.targetIn w with
    | (w, some sso) =>
      (Program.bind (mapValue .followup (Reconcile.attend s.config sso)) fun o => .done (some o), w, stage)
    | (w, none) => (.done none, w, stage)

/-- What is told of an actor. -/
def reportOf (start : Nat) (a : Actor (Option (Outcome Value))) : Report :=
  match a.status with
  | .finished finish (some outcome) =>
    { ended := .ran outcome, calls := a.stage.calls.reverse, start, finish }
  | _ => { ended := .missing, start, finish := start }

/-- Lets all events begin, each after its while, and waits for all of them. -/
def runTogether (s : Session) (events : List (Duration × Event)) : Session × List Report :=
  let begins := events.map fun e => s.world.now + e.1.nanoseconds
  let (world, actors) := playAll s.world (events.map fun e => s.actorOf e.1 e.2)
  ({ s with world }, (begins.zip actors).map fun b => reportOf b.1 b.2)

/-- Tells of a step that takes no time and makes no calls. -/
def simply (s : Session) (ended : Ended) : Session × Told :=
  (s, .one { ended, start := s.world.now, finish := s.world.now })

/-- The time at which an SSO counts as deleted. -/
def deletionTime : String := "2026-01-01T00:00:00Z"

def perform (s : Session) : Step → Session × Told
  | .reconcile event =>
    let (s, report) := s.runOn event fun sso => mapValue .followup (Reconcile.attend s.config sso)
    (s, .one report)
  | .concurrent events =>
    let (s, reports) := s.runTogether events
    (s, .many reports)
  | .work work event =>
    let (s, report) := s.runOn event fun sso => work.program s.config sso
    (s, .one report)
  | .cookieSecret script =>
    let (s, report) := s.runOne script (mapValue .text (CookieSecret.get s.config.operatorNamespace))
    (s, .one report)
  | .errorPolicy e =>
    let (world, _, followup) := runAlone s.world .empty (Reconcile.errorPolicy e)
    { s with world }.simply (followup.elim .missing .policy)
  | .put sso => { s with world := s.world.put sso }.simply .silent
  | .markDeleted key =>
    let world := s.world.modify key fun sso =>
      { sso with metadata := { sso.metadata with deletionTimestamp := some deletionTime } }
    { s with world }.simply (.flag (s.world.store.contains key))
  | .sleep d => { s with world := { s.world with now := s.world.now + d.nanoseconds } }.simply .silent
  | .hold key =>
    match s.world.inFlight.tryAcquire key with
    | some inFlight => { s with world := { s.world with inFlight }, held := key :: s.held }.simply (.flag true)
    | none => s.simply (.flag false)
  | .release key =>
    if s.held.contains key then
      { s with
        world := { s.world with inFlight := s.world.inFlight.release key }
        held := s.held.erase key }.simply (.flag true)
    else s.simply (.flag false)

/-- All steps in order; after each, what is told of it and the session as it then is. -/
def performAll (s : Session) : List Step → List (Told × Session)
  | [] => []
  | step :: rest =>
    let (s, told) := s.perform step
    (told, s) :: performAll s rest

end Session
end SignOnOperator.Rehearsal
