import SignOnOperator.Proofs.CookieLoading
import SignOnOperator.Proofs.Interleaving
import SignOnOperator.Proofs.System
/-!
# The shared secret

All operators of a namespace use the same cookie secret.  Each has a context of its own, in whose cell it keeps the
secret; what they share is the store of secrets.  Whoever finds no secret there generates one, but only the first is
stored, and everybody else goes by that.  The argument is that of `Interleaving`: once a secret is stored it stays, so
whatever a call has found there, and whatever a cell holds, stays right (`discipline`).
-/
namespace SignOnOperator

open Kubernetes
open Interleaving (Setting Discipline Secures Thread Pool Alone Secured result?)
open Rehearsal (Cell)

namespace CookieSecret

/-! ## Operators side by side -/

/-- The secrets of a cluster, by namespace and name. -/
abbrev Store : Type := String → String → Option Secret

/-- How a store answers, and what becomes of it.  An object is stored only if there is none of its name, with its data
as they are; any call may also fail, with a conflict or otherwise, and then changes nothing. -/
def Store.Answers (store : Store) : (r : OperatorRequest) → r.Reply → Store → Prop
  | .call (.getSecret ns name), reply, store' =>
    store' = store ∧ (reply = .ok (store ns name) ∨ ∃ e, reply = .error e)
  | .call (.createSecret secret), reply, store' =>
    (∃ ns name stored, secret.metadata.namespaceName = some ns ∧ secret.metadata.name = some name ∧
      store ns name = none ∧ stored.data = secret.data ∧ stored.stringData = secret.stringData ∧ reply = .ok () ∧
      store' = fun ns' name' => if ns' = ns ∧ name' = name then some stored else store ns' name') ∨
    ((∃ e, reply = .error e) ∧ store' = store)
  | _, _, store' => store' = store

/-- The store, and the context of each operator. -/
structure Estate (P : Type) where
  store : Store
  contexts : P → Shared

/-- Operators that load the cookie secret, each in its own context.  Meanwhile everything may change but the cells and
the object that holds the secret. -/
def operators (P : Type) (ns : String) : Setting Operator P (Outcome String) (Estate P) where
  program _ := get ns
  answers p e r reply e' :=
    (e.contexts p).Answers r reply (e'.contexts p) ∧ (∀ q, q ≠ p → e'.contexts q = e.contexts q) ∧
      e.store.Answers r reply e'.store
  drifts e e' :=
    (∀ p, (e'.contexts p).cell = (e.contexts p).cell) ∧ e'.store ns objectName = e.store ns objectName

variable {P : Type} {ns : String} {e e' : Estate P} {p : P}

/-- The value is the one that is stored. -/
def Agreed (ns : String) (e : Estate P) (value : String) : Prop :=
  ∃ secret, e.store ns objectName = some secret ∧ Holds secret value

/-- What is in a cell is what is stored, and what is stored stays. -/
def discipline (P : Type) (ns : String) : Discipline (operators P ns) where
  inv e := ∀ p value, (e.contexts p).cell = .filled value → Agreed ns e value
  evolves e e' := ∀ secret, e.store ns objectName = some secret → e'.store ns objectName = some secret
  refl _ _ := id
  trans first later secret hs := later secret (first secret hs)
  drifts {e e'} inv drift := by
    obtain ⟨cells, same⟩ := drift
    refine ⟨fun p value filled => ?_, fun secret hs => same.trans hs⟩
    obtain ⟨secret, hs, holds⟩ := inv p value ((cells p).symm.trans filled)
    exact ⟨secret, same.trans hs, holds⟩

theorem Agreed.evolve {value : String} (agreed : Agreed ns e value) (evolves : (discipline P ns).evolves e e') :
    Agreed ns e' value := by
  obtain ⟨secret, hs, holds⟩ := agreed
  exact ⟨secret, evolves secret hs, holds⟩

theorem evolves_of_store_eq (ns : String) (same : e'.store = e.store) : (discipline P ns).evolves e e' :=
  fun _ hs => (congrFun₂ same ns objectName).trans hs

/-! ## One call -/

/-- A call that has succeeded has given the value that is stored. -/
def Right (ns : String) (_ : History Operator) (e : Estate P) (result : Option (Outcome String)) : Prop :=
  ∀ value, result = some (.ok value) → Agreed ns e value

/-- From this state on the program ends well, whatever it has been given before. -/
def Safe (ns : String) (p : P) (x : Program Operator (Outcome String)) (e : Estate P) : Prop :=
  ∀ h, Secures (discipline P ns) p (Right ns) x h e

theorem safe_done {o : Outcome String} (agreed : ∀ value, o = .ok value → Agreed ns e value) :
    Safe ns p (.done o) e := by
  intro h e' evolves _ value same
  exact (agreed value (Option.some.inj same)).evolve evolves

/-- A request after which the cells hold nothing new but what is stored. -/
theorem safe_ask {r : OperatorRequest} {next : r.Reply → Program Operator (Outcome String)}
    (after : ∀ e₁ reply e₂, (discipline P ns).evolves e e₁ → (discipline P ns).inv e₁ →
      (e₁.contexts p).Answers r reply (e₂.contexts p) → e₁.store.Answers r reply e₂.store →
      (discipline P ns).evolves e₁ e₂ ∧ (∀ value, (e₂.contexts p).cell = .filled value → Agreed ns e₂ value) ∧
        Safe ns p (next reply) e₂) :
    Safe ns p (.ask (I := Operator) r next) e := by
  intro h e₁ evolves inv
  refine ⟨nofun, fun reply e₂ answered => ?_⟩
  obtain ⟨own, others, stored⟩ := answered
  obtain ⟨evolves', cell, safe⟩ := after e₁ reply e₂ evolves inv own stored
  refine ⟨fun q value filled => ?_, evolves', safe _⟩
  by_cases same : q = p
  · subst same
    exact cell value filled
  · rw [others q same] at filled
    exact (inv q value filled).evolve evolves'

/-- A call leaves the cell of its context alone. -/
theorem safe_call {c : Call} {next : Outcome c.Result → Program Operator (Outcome String)}
    (after : ∀ e₁ reply e₂, (discipline P ns).evolves e e₁ → e₁.store.Answers (.call c) reply e₂.store →
      (discipline P ns).evolves e₁ e₂ ∧ Safe ns p (next reply) e₂) :
    Safe ns p (.ask (I := Operator) (.call c) next) e := by
  refine safe_ask fun e₁ reply e₂ evolves inv own stored => ?_
  obtain ⟨evolves', safe⟩ := after e₁ reply e₂ evolves stored
  refine ⟨evolves', fun value filled => ?_, safe⟩
  have same : e₂.contexts p = e₁.contexts p := own
  rw [same] at filled
  exact (inv p value filled).evolve evolves'

/-- A look at the object shows it as it is stored, or fails. -/
theorem safe_read {next : Outcome (Option Secret) → Program Operator (Outcome String)}
    (found : ∀ e₁, (discipline P ns).evolves e e₁ → Safe ns p (next (.ok (e₁.store ns objectName))) e₁)
    (failed : ∀ err e₁, Safe ns p (next (.error err)) e₁) :
    Safe ns p (.ask (I := Operator) (.call (.getSecret ns objectName)) next) e := by
  refine safe_call fun e₁ reply e₂ evolves stored => ?_
  obtain ⟨same, rfl | ⟨err, rfl⟩⟩ := stored
  · have evolves' := evolves_of_store_eq ns same
    have safe := found e₂ ((discipline P ns).trans evolves evolves')
    rw [same] at safe
    exact ⟨evolves', safe⟩
  · exact ⟨evolves_of_store_eq ns same, failed err e₂⟩

/-- An object that is made for a value is stored as it is, or nothing changes. -/
theorem safe_create {value : String} {next : Outcome Unit → Program Operator (Outcome String)}
    (created : ∀ e₁, Agreed ns e₁ value → Safe ns p (next (.ok ())) e₁)
    (failed : ∀ err e₁, (discipline P ns).evolves e e₁ → Safe ns p (next (.error err)) e₁) :
    Safe ns p (.ask (I := Operator) (.call (.createSecret (buildSecret ns value))) next) e := by
  refine safe_call fun e₁ reply e₂ evolves stored => ?_
  rcases stored with ⟨ns', name, secret, home, called, absent, data, -, rfl, put⟩ | ⟨⟨err, rfl⟩, same⟩
  · obtain rfl := Option.some.inj home
    obtain rfl := Option.some.inj called
    have here : e₂.store ns objectName = some secret := by
      rw [put]
      exact if_pos ⟨rfl, rfl⟩
    -- Nothing was stored before, so nothing that was stored is lost.
    refine ⟨fun other hs => ?_, created e₂ ⟨secret, here, holds_buildSecret data⟩⟩
    rw [absent] at hs
    cases hs
  · have evolves' := evolves_of_store_eq ns same
    exact ⟨evolves', failed err e₂ ((discipline P ns).trans evolves evolves')⟩

theorem safe_leave {o : Outcome String} (failed : ∀ value, o ≠ .ok value) :
    Safe ns p (.ask (I := Operator) .leaveCell fun _ => .done o) e := by
  refine safe_ask fun e₁ _ e₂ _ _ own stored => ?_
  refine ⟨evolves_of_store_eq ns stored, fun value filled => ?_, safe_done fun value same => absurd same (failed value)⟩
  have cell : (e₂.contexts p).cell = .empty := congrArg Shared.cell own
  rw [cell] at filled
  cases filled

theorem safe_settle {o : Outcome String} (agreed : ∀ value, o = .ok value → Agreed ns e value) :
    Safe ns p (settle o) e := by
  cases o with
  | ok value =>
    refine safe_ask fun e₁ _ e₂ evolves inv own stored => ?_
    have evolves' := evolves_of_store_eq ns stored
    have here : Agreed ns e₂ value := ((agreed value rfl).evolve evolves).evolve evolves'
    refine ⟨evolves', fun value' filled => ?_, safe_done fun value' same => Outcome.ok.inj same ▸ here⟩
    have cell : (e₂.contexts p).cell = .filled value := congrArg Shared.cell own
    rw [cell] at filled
    cases filled
    exact here
  | error err => exact safe_leave nofun
  | panic => exact safe_leave nofun

/-- What is read off the object that is stored is given back. -/
theorem safe_required {secret : Secret} (stored : e.store ns objectName = some secret) :
    Safe ns p (settle (.ofExcept (required secret ns))) e := by
  refine safe_settle fun value same => ⟨secret, stored, ?_⟩
  cases read : required secret ns with
  | ok value' =>
    rw [read] at same
    cases same
    exact required_eq_ok_iff.1 read
  | error err =>
    rw [read] at same
    cases same

theorem safe_reread : Safe ns p (Program.bind (reread ns) settle) e := by
  refine safe_read (fun e₁ _ => ?_) (fun err e₁ => safe_settle nofun)
  cases stored : e₁.store ns objectName with
  | none => exact safe_settle nofun
  | some secret => exact safe_required stored

theorem safe_adopt (err : Error) : Safe ns p (Program.bind (adopt ns err) settle) e := by
  unfold adopt
  by_cases conflict : err.isConflict = true
  · rw [if_pos conflict]
    exact safe_reread
  · rw [if_neg conflict]
    exact safe_settle nofun

theorem safe_createOrRead (value : String) : Safe ns p (Program.bind (createOrRead ns value) settle) e :=
  safe_create (fun _ here => safe_settle fun _ same => Outcome.ok.inj same ▸ here) fun err _ _ => safe_adopt err

theorem safe_fill : Safe ns p (fill ns) e := by
  rw [fill_eq, loadOrCreate_eq]
  refine safe_read (fun e₁ _ => ?_) (fun err e₁ => safe_settle nofun)
  cases stored : e₁.store ns objectName with
  | some secret => exact safe_required stored
  | none =>
    refine safe_ask fun e₂ choices e₃ _ inv own alone => ?_
    have evolves := evolves_of_store_eq ns alone
    refine ⟨evolves, fun value filled => ?_, safe_createOrRead _⟩
    have same : e₃.contexts p = e₂.contexts p := own
    rw [same] at filled
    exact (inv p value filled).evolve evolves

theorem safe_get : Safe ns p (get ns) e := by
  refine safe_ask fun e₁ held e₂ _ inv own stored => ?_
  have evolves := evolves_of_store_eq ns stored
  refine ⟨evolves, ?_⟩
  dsimp only [Shared.Answers] at own
  cases cell : (e₁.contexts p).cell with
  | empty =>
    rw [cell] at own
    obtain ⟨rfl, same⟩ := own
    refine ⟨fun value filled => ?_, safe_fill⟩
    rw [same] at filled
    cases filled
  | loading =>
    rw [cell] at own
    exact own.elim
  | filled value =>
    rw [cell] at own
    obtain ⟨rfl, same⟩ := own
    have here : Agreed ns e₂ value := (inv p value cell).evolve evolves
    refine ⟨fun value' filled => ?_, safe_done fun value' same => Outcome.ok.inj same ▸ here⟩
    rw [same, cell] at filled
    cases filled
    exact here

/-! ## All calls -/

/-- **All operators use one secret.**  However their calls interleave and whichever of them fail, every call that
succeeds gives the value that is stored, so that no two give different ones; and what is once stored is never replaced.
What is stored for a value that was generated reads as that value. -/
theorem operators_agree {start during finish : Pool Operator P (Outcome String) (Estate P)} (idle : start.threads = [])
    (unloaded : ∀ p, (start.state.contexts p).cell = .empty) (first : Interleaving.Run (operators P ns) start during)
    (later : Interleaving.Run (operators P ns) during finish) :
    (∀ t ∈ finish.threads, ∀ value, result? t.rest = some (.ok value) →
      ∃ secret, finish.state.store ns objectName = some secret ∧ Holds secret value) ∧
    (∀ t ∈ finish.threads, ∀ t' ∈ finish.threads, ∀ value value', result? t.rest = some (.ok value) →
      result? t'.rest = some (.ok value') → value = value') ∧
    (∀ secret, during.state.store ns objectName = some secret →
      finish.state.store ns objectName = some secret) ∧
    ∀ value, required (buildSecret ns value) ns = .ok value := by
  -- No cell is filled in the beginning, so nothing need be stored.
  have opening : Secured (discipline P ns) (fun _ _ => Right ns) start := by
    refine ⟨fun p value filled => ?_, ?_⟩
    · rw [unloaded p] at filled
      cases filled
    · rw [idle]
      exact List.forall_mem_nil _
  have fresh : ∀ p e, (discipline P ns).inv e → Secures (discipline P ns) p (Right ns) (get ns) [] e :=
    fun _ _ _ => safe_get []
  have secured : Secured (discipline P ns) (fun _ _ => Right ns) during := (first.secured fresh opening).1
  obtain ⟨secured', kept⟩ := later.secured fresh secured
  refine ⟨fun t ht => secured'.now ht, fun t ht t' ht' value value' result result' => ?_, kept, fun value => ?_⟩
  · obtain ⟨secret, stored, holds⟩ := secured'.now ht value result
    obtain ⟨secret', stored', holds'⟩ := secured'.now ht' value' result'
    obtain rfl := Option.some.inj (stored.symm.trans stored')
    exact holds.eq holds'
  · exact required_eq_ok_iff.2 (holds_buildSecret rfl)

/-- What two operators hold in their cells, and what is stored. -/
def rivals (own other : Cell) (object : Option Secret) : Estate Bool where
  store ns name := if ns = "sso" ∧ name = objectName then object else none
  contexts first := { cell := if first then own else other }

def firstDraw : Fin secretLength → Fin alphabetSize := fun _ => ⟨0, alphabetSize_pos⟩

def secondDraw : Fin secretLength → Fin alphabetSize := fun _ => ⟨1, by decide⟩

/-- The secret that is stored, of the operator that drew second but was faster. -/
def faster : Secret := buildSecret "sso" (generate secondDraw)

def alreadyExists : Error := .cluster (.refused ⟨"Failure", "secrets already exists", "AlreadyExists", 409⟩)

/-- Both find no secret; the second stores one while the first has only drawn its own, and the first goes by that. -/
def overtaken : Pool Operator Bool (Outcome String) (Estate Bool) where
  state := rivals (.filled (generate secondDraw)) (.filled (generate secondDraw)) (some faster)
  threads :=
    [⟨true, rivals .empty .empty none,
        [⟨.enterCell, none⟩, ⟨.call (.getSecret "sso" objectName), .ok none⟩, ⟨.draw, firstDraw⟩,
          ⟨.call (.createSecret (buildSecret "sso" (generate firstDraw))), .error alreadyExists⟩,
          ⟨.call (.getSecret "sso" objectName), .ok (some faster)⟩, ⟨.fillCell (generate secondDraw), ()⟩],
        .done (.ok (generate secondDraw))⟩,
      ⟨false, rivals .empty .empty none,
        [⟨.enterCell, none⟩, ⟨.call (.getSecret "sso" objectName), .ok none⟩, ⟨.draw, secondDraw⟩,
          ⟨.call (.createSecret faster), .ok ()⟩, ⟨.fillCell (generate secondDraw), ()⟩],
        .done (.ok (generate secondDraw))⟩]

theorem rivals_first {own own' other : Cell} {object object' : Option Secret} (q : Bool) (hq : q ≠ true) :
    (rivals own' other object').contexts q = (rivals own other object).contexts q := by
  cases q with
  | false => rfl
  | true => exact absurd rfl hq

theorem rivals_second {own other other' : Cell} {object object' : Option Secret} (q : Bool) (hq : q ≠ false) :
    (rivals own other' object').contexts q = (rivals own other object).contexts q := by
  cases q with
  | false => exact absurd rfl hq
  | true => rfl

theorem overtaken_run : Interleaving.Run (operators Bool "sso") ⟨rivals .empty .empty none, []⟩ overtaken := by
  have looks : Alone (operators Bool "sso") true (rivals .empty .empty none) (get "sso")
      [⟨.enterCell, none⟩, ⟨.call (.getSecret "sso" objectName), .ok none⟩, ⟨.draw, firstDraw⟩]
      (rivals .loading .empty none) (Program.bind (createOrRead "sso" (generate firstDraw)) settle) := by
    refine .turn (rivals .loading .empty none) ⟨⟨rfl, rfl⟩, rivals_first, rfl⟩ ?_
    change Alone _ _ _ (fill "sso") _ _ _
    rw [fill_eq, loadOrCreate_eq]
    exact .turn _ ⟨rfl, rivals_first, rfl, .inl rfl⟩ <| .turn _ ⟨rfl, rivals_first, rfl⟩ <| .done _ _
  have stored : (rivals .loading .loading (some faster)).store = fun ns name =>
      if ns = "sso" ∧ name = objectName then some faster else (rivals .loading .loading none).store ns name := by
    funext ns name
    exact congrArg (ite _ _) (ite_self none).symm
  have overtakes : Alone (operators Bool "sso") false (rivals .loading .empty none) (get "sso")
      [⟨.enterCell, none⟩, ⟨.call (.getSecret "sso" objectName), .ok none⟩, ⟨.draw, secondDraw⟩,
        ⟨.call (.createSecret faster), .ok ()⟩, ⟨.fillCell (generate secondDraw), ()⟩]
      (rivals .loading (.filled (generate secondDraw)) (some faster)) (.done (.ok (generate secondDraw))) :=
    .turn (rivals .loading .loading none) ⟨⟨rfl, rfl⟩, rivals_second, rfl⟩ <|
    .turn _ ⟨rfl, rivals_second, rfl, .inl rfl⟩ <| .turn _ ⟨rfl, rivals_second, rfl⟩ <|
    .turn (rivals .loading .loading (some faster))
      ⟨rfl, rivals_second, .inl ⟨"sso", objectName, faster, rfl, rfl, rfl, rfl, rfl, rfl, stored⟩⟩ <|
    .turn (rivals .loading (.filled (generate secondDraw)) (some faster)) ⟨rfl, rivals_second, rfl⟩ <| .done _ _
  have adopts : Alone (operators Bool "sso") true (rivals .loading (.filled (generate secondDraw)) (some faster))
      (Program.bind (createOrRead "sso" (generate firstDraw)) settle)
      [⟨.call (.createSecret (buildSecret "sso" (generate firstDraw))), .error alreadyExists⟩,
        ⟨.call (.getSecret "sso" objectName), .ok (some faster)⟩, ⟨.fillCell (generate secondDraw), ()⟩]
      overtaken.state (.done (.ok (generate secondDraw))) := by
    have read : required faster "sso" = .ok (generate secondDraw) := required_eq_ok_iff.2 (holds_buildSecret rfl)
    refine .turn _ ⟨rfl, rivals_first, .inr ⟨⟨_, rfl⟩, rfl⟩⟩ <| .turn _ ⟨rfl, rivals_first, rfl, .inl rfl⟩ ?_
    change Alone _ _ _ (settle (.ofExcept (required faster "sso"))) _ _ _
    rw [read]
    exact .turn overtaken.state ⟨rfl, rivals_first, rfl⟩ <| .done _ _
  exact .head (.begins _ true) <| .head (.begins _ false) <| (looks.run _ [] [] [_]).trans <|
    (overtakes.run _ [] [_] []).trans <| adopts.run _ _ [] [_]

theorem overtaken_agree :
    Interleaving.Run (operators Bool "sso") ⟨rivals .empty .empty none, []⟩ overtaken ∧
      (∀ t ∈ overtaken.threads, ∀ value, result? t.rest = some (.ok value) →
        ∃ secret, some faster = some secret ∧ Holds secret value) ∧
      generate firstDraw ≠ generate secondDraw :=
  ⟨overtaken_run, (operators_agree rfl (fun p => by cases p <;> rfl) .refl overtaken_run).1, by decide⟩

end CookieSecret
end SignOnOperator
