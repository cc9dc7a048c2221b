import Mathlib.Data.Set.Insert
import Mathlib.Logic.Function.Basic
import SignOnOperator.Proofs.Custody
/-!
# Clients and their SSOs

A cluster that stores SSOs and an identity provider that keeps clients, as surroundings of the operator: reads give
what is stored, writes that work take effect, and only an SSO that is being deleted and that nothing holds up goes
away.  While a reconciliation is in a phase the SSO and its clients are as `Phase.Holds` says; every turn that custody
allows (`Realm.Answers.carried`) and every change from outside (`Realm.Drift.carried`) leaves that so.
-/
namespace SignOnOperator

namespace Sso

def withStatus (sso : Sso) (status : SsoStatus) : Sso := { sso with status := some status }

def withFinalizers (sso : Sso) (finalizers : List String) : Sso :=
  { sso with metadata := { sso.metadata with finalizers := some finalizers } }

end Sso

/-- The SSOs that are stored, and the clients that exist, each with the SSO that it was made for. -/
structure Realm where
  store : SsoKey → Option Sso
  owner : String → Option SsoKey

namespace Realm

/-- The clients that were made for an SSO and exist. -/
def clients (realm : Realm) (key : SsoKey) : Set String := {id | realm.owner id = some key}

def put (realm : Realm) (key : SsoKey) (sso? : Option Sso) : Realm :=
  { realm with store := Function.update realm.store key sso? }

def assign (realm : Realm) (id : String) (owner? : Option SsoKey) : Realm :=
  { realm with owner := Function.update realm.owner id owner? }

/-- How a call made for an event may end, and what becomes of the realm.  The ids of new clients are of those that
`gives` allows.  Calls that neither concern SSOs nor make or delete clients may end in any way but a breakdown. -/
inductive Answers (gives : Realm → String → Prop) (realm : Realm) (event : Sso) :
    (c : Call) → Outcome c.Result → Realm → Prop where
  | read (ns name : String) : Answers gives realm event (.getSso ns name) (.ok (realm.store ⟨ns, name⟩)) realm
  | status {ns name : String} {status : SsoStatus} {sso : Sso} (stored : realm.store ⟨ns, name⟩ = some sso) :
      Answers gives realm event (.patchSsoStatus ns name status) (.ok ())
        (realm.put ⟨ns, name⟩ (some (sso.withStatus status)))
  | finalizers {ns name : String} {finalizers : List String} {sso : Sso} (stored : realm.store ⟨ns, name⟩ = some sso) :
      Answers gives realm event (.patchSsoFinalizers ns name finalizers) (.ok ())
        (realm.put ⟨ns, name⟩ (some (sso.withFinalizers finalizers)))
  | created {redirectUris trustedPeers : List String} {isPublic : Bool} {name logoUrl : String} {client : OidcClient}
      {key : SsoKey} (own : SsoKey.ofSso event = .ok key) (given : gives realm client.id) :
      Answers gives realm event (.createClient redirectUris trustedPeers isPublic name logoUrl) (.ok client)
        (realm.assign client.id (some key))
  | deleted (id : String) : Answers gives realm event (.deleteClient id) (.ok ()) (realm.assign id none)
  | other {c : Call} (hc : c.kind ∉ Phase.tracked) (value : c.Result) : Answers gives realm event c (.ok value) realm
  | failed {c : Call} (hc : c.kind ≠ .deleteClient) (e : Error) : Answers gives realm event c (.error e) realm

/-- What others may do: store an SSO that is new to the operator, change one except for its status and its finalizers,
but not take back its deletion, and remove one that is being deleted once it has no finalizers. -/
inductive Drift (realm : Realm) : Realm → Prop where
  | added {key : SsoKey} {sso : Sso} (free : realm.store key = none) (own : SsoKey.ofSso sso = .ok key)
      (unknown : sso.status = none) (loose : Finalizer.isHeld sso = false) : Drift realm (realm.put key (some sso))
  | edited {key : SsoKey} {sso sso' : Sso} (stored : realm.store key = some sso) (own : SsoKey.ofSso sso' = .ok key)
      (status : sso'.status = sso.status) (finalizers : sso'.metadata.finalizers = sso.metadata.finalizers)
      (deletion : sso.metadata.isDeleted = true → sso'.metadata.isDeleted = true) :
      Drift realm (realm.put key (some sso'))
  | removed {key : SsoKey} {sso : Sso} (stored : realm.store key = some sso) (deleted : sso.metadata.isDeleted = true)
      (loose : sso.metadata.finalizerList = []) : Drift realm (realm.put key none)

/-- The id is that of no client. -/
def IsFree (realm : Realm) (id : String) : Prop := realm.owner id = none

/-- The id is that of no client, and no status names it. -/
def IsNew (realm : Realm) (id : String) : Prop :=
  realm.owner id = none ∧ ∀ key sso, realm.store key = some sso → sso.clientId? ≠ some id

def surroundings (gives : Realm → String → Prop) : Surroundings Realm := ⟨Answers gives, Drift⟩

section Updates

variable {realm : Realm} {key key' : SsoKey} {sso? : Option Sso} {id id' : String} {owner? : Option SsoKey}

theorem mem_clients : id ∈ realm.clients key ↔ realm.owner id = some key := Iff.rfl

@[simp]
theorem put_store_self : (realm.put key sso?).store key = sso? := Function.update_self ..

theorem put_store_of_ne (h : key' ≠ key) : (realm.put key sso?).store key' = realm.store key' :=
  Function.update_of_ne h ..

@[simp]
theorem put_clients : (realm.put key sso?).clients = realm.clients := rfl

@[simp]
theorem assign_store : (realm.assign id owner?).store = realm.store := rfl

@[simp]
theorem assign_owner_self : (realm.assign id owner?).owner id = owner? := Function.update_self ..

theorem assign_owner_of_ne (h : id' ≠ id) : (realm.assign id owner?).owner id' = realm.owner id' :=
  Function.update_of_ne h ..

theorem mem_assign_clients : id' ∈ (realm.assign id owner?).clients key ↔
    if id' = id then owner? = some key else id' ∈ realm.clients key := by
  rw [mem_clients]
  split
  next same => rw [same, assign_owner_self]
  next other => rw [assign_owner_of_ne other, mem_clients]

end Updates

/-- Every SSO is stored where it belongs and with a tidy status, and the client that its status names was made for no
other SSO, if it exists. -/
structure Orderly (realm : Realm) : Prop where
  own : ∀ {key sso}, realm.store key = some sso → SsoKey.ofSso sso = .ok key
  tidy : ∀ {key sso}, realm.store key = some sso → sso.IsTidy
  named : ∀ {key sso id}, realm.store key = some sso → sso.clientId? = some id →
    realm.owner id = none ∨ realm.owner id = some key

end Realm

/-- What is so of an SSO and its clients while a reconciliation is in a phase. -/
def Phase.Holds (realm : Realm) (key : SsoKey) : Phase → Prop
  | settled =>
    (∀ id ∈ realm.clients key,
      ∃ sso, realm.store key = some sso ∧ Finalizer.isHeld sso = true ∧ sso.clientId? = some id) ∧
    ∀ sso id, realm.store key = some sso → sso.metadata.isDeleted = false → sso.clientId? = some id →
      id ∈ realm.clients key
  | unsecured => realm.clients key = ∅ ∧ ∀ sso, realm.store key = some sso → sso.clientId? = none
  | secured =>
    realm.clients key = ∅ ∧ ∃ sso, realm.store key = some sso ∧ Finalizer.isHeld sso = true ∧ sso.clientId? = none
  | registered id =>
    realm.clients key = {id} ∧ ∃ sso, realm.store key = some sso ∧ Finalizer.isHeld sso = true ∧ sso.clientId? = none
  | condemned id =>
    realm.clients key ⊆ {id} ∧
      ∃ sso, realm.store key = some sso ∧ sso.metadata.isDeleted = true ∧ Finalizer.isHeld sso = true ∧
        sso.clientId? = some id
  | cleared =>
    realm.clients key = ∅ ∧
      ∀ sso, realm.store key = some sso → sso.metadata.isDeleted = false → sso.clientId? = none

namespace Phase

variable {realm realm' : Realm} {key : SsoKey}

theorem Holds.congr {phase : Phase} (holds : phase.Holds realm key) (store : realm'.store key = realm.store key)
    (clients : realm'.clients key = realm.clients key) : phase.Holds realm' key := by
  cases phase with
  | settled | unsecured | secured | registered | condemned | cleared =>
    unfold Holds at *
    rw [store, clients]
    exact holds

/-- Where the key may be given back, it is as if nothing were being done. -/
theorem Holds.settle {phase : Phase} (holds : phase.Holds realm key) (safe : phase.IsSafe) :
    settled.Holds realm key := by
  cases phase with
  | settled => exact holds
  | registered id => exact absurd rfl (safe id)
  | unsecured =>
    obtain ⟨clients, unnamed⟩ := holds
    exact ⟨by simp [clients], fun sso id stored _ named => by simp [unnamed sso stored] at named⟩
  | secured =>
    obtain ⟨clients, sso, stored, held, unnamed⟩ := holds
    refine ⟨by simp [clients], fun sso' id stored' _ named => ?_⟩
    cases stored.symm.trans stored'
    simp [unnamed] at named
  | condemned id =>
    obtain ⟨clients, sso, stored, deleted, held, named⟩ := holds
    refine ⟨fun id' h => ⟨sso, stored, held, Set.mem_singleton_iff.1 (clients h) ▸ named⟩,
      fun sso' id stored' live _ => ?_⟩
    cases stored.symm.trans stored'
    cases deleted.symm.trans live
  | cleared =>
    obtain ⟨clients, unnamed⟩ := holds
    exact ⟨by simp [clients], fun sso id stored live named => by simp [unnamed sso stored live] at named⟩

/-- Once the SSO has been read, what is so of it is as the phase says in which the work on it begins. -/
theorem Holds.read {sso : Sso} (holds : settled.Holds realm key) (tidy : sso.IsTidy)
    (stored : realm.store key = some sso) : (ofSso sso).Holds realm key := by
  obtain ⟨recorded, kept⟩ := holds
  have only : ∀ id, id ∈ realm.clients key → Finalizer.isHeld sso = true ∧ sso.clientId? = some id := by
    intro id h
    obtain ⟨sso', stored', found⟩ := recorded id h
    cases stored.symm.trans stored'
    exact found
  -- Which phase it is depends on the deletion, on the client that the status names, and on the finalizer, in order.
  have none_of_unnamed : sso.clientId? = none → realm.clients key = ∅ := by
    intro unnamed
    refine Set.eq_empty_of_forall_notMem fun id h => ?_
    cases unnamed.symm.trans (only id h).2
  cases deleted : sso.metadata.isDeleted with
  | true =>
    rw [ofSso_deleted deleted]
    cases held : Finalizer.isHeld sso with
    | false => exact ⟨recorded, kept⟩
    | true =>
      rw [if_pos rfl]
      cases named : sso.clientId? with
      | some id =>
        exact ⟨fun id' h => Option.some.inj ((only id' h).2.symm.trans named), sso, stored, deleted, held, named⟩
      | none =>
        refine ⟨none_of_unnamed named, fun sso' stored' live => ?_⟩
        cases stored.symm.trans stored'
        exact named
  | false =>
    rw [ofSso_live deleted, tidy.isInitialized_eq]
    cases named : sso.clientId? with
    | some id => exact ⟨recorded, kept⟩
    | none =>
      rw [if_neg (by simp)]
      cases held : Finalizer.isHeld sso with
      | true => exact ⟨none_of_unnamed named, sso, stored, held, named⟩
      | false =>
        refine ⟨none_of_unnamed named, fun sso' stored' => ?_⟩
        cases stored.symm.trans stored'
        exact named

end Phase

/-! ## Turns and changes from outside -/

namespace Realm

variable {realm realm' : Realm} {key : SsoKey}

namespace Orderly

variable {sso : Sso} {id : String}

theorem put (orderly : realm.Orderly) (own : SsoKey.ofSso sso = .ok key) (tidy : sso.IsTidy)
    (named : ∀ id, sso.clientId? = some id → realm.owner id = none ∨ realm.owner id = some key) :
    (realm.put key (some sso)).Orderly := by
  have split : ∀ {key' sso'}, (realm.put key (some sso)).store key' = some sso' →
      key' = key ∧ sso' = sso ∨ realm.store key' = some sso' := by
    intro key' sso' stored
    by_cases same : key' = key
    · subst same
      rw [put_store_self] at stored
      exact .inl ⟨rfl, (Option.some.inj stored).symm⟩
    · rw [put_store_of_ne same] at stored
      exact .inr stored
  constructor
  case own =>
    intro key' sso' stored
    obtain ⟨rfl, rfl⟩ | stored := split stored
    · exact own
    · exact orderly.own stored
  case tidy =>
    intro key' sso' stored
    obtain ⟨rfl, rfl⟩ | stored := split stored
    · exact tidy
    · exact orderly.tidy stored
  case named =>
    intro key' sso' id stored hid
    obtain ⟨rfl, rfl⟩ | stored := split stored
    · exact named id hid
    · exact orderly.named stored hid

theorem put_none (orderly : realm.Orderly) : (realm.put key none).Orderly := by
  have split : ∀ {key' sso'}, (realm.put key none).store key' = some sso' → realm.store key' = some sso' := by
    intro key' sso' stored
    by_cases same : key' = key
    · rw [same, put_store_self] at stored
      cases stored
    · rwa [put_store_of_ne same] at stored
  exact ⟨fun h => orderly.own (split h), fun h => orderly.tidy (split h), fun h => orderly.named (split h)⟩

theorem assign_new (orderly : realm.Orderly) (new : realm.IsNew id) : (realm.assign id (some key)).Orderly where
  own := orderly.own
  tidy := orderly.tidy
  named {key' sso id'} stored named := by
    have other : id' ≠ id := fun same => new.2 key' sso stored (same ▸ named)
    rw [assign_owner_of_ne other]
    exact orderly.named stored named

theorem assign_none (orderly : realm.Orderly) : (realm.assign id none).Orderly where
  own := orderly.own
  tidy := orderly.tidy
  named {key' sso id'} stored named := by
    by_cases same : id' = id
    · exact .inl (same ▸ assign_owner_self)
    · rw [assign_owner_of_ne same]
      exact orderly.named stored named

end Orderly

/-- A change of the realm that concerns one SSO and its clients, and after which a phase holds of them. -/
structure Carried (key : SsoKey) (phase : Phase) (realm realm' : Realm) : Prop where
  orderly : realm'.Orderly
  holds : phase.Holds realm' key
  store : ∀ key', key' ≠ key → realm'.store key' = realm.store key'
  clients : ∀ key', key' ≠ key → realm'.clients key' = realm.clients key'

namespace Carried

variable {phase : Phase}

theorem refl (orderly : realm.Orderly) (holds : phase.Holds realm key) : Carried key phase realm realm :=
  ⟨orderly, holds, fun _ _ => rfl, fun _ _ => rfl⟩

theorem put {sso? : Option Sso} (orderly : (realm.put key sso?).Orderly)
    (holds : phase.Holds (realm.put key sso?) key) :
    Carried key phase realm (realm.put key sso?) :=
  ⟨orderly, holds, fun _ => put_store_of_ne, fun _ _ => rfl⟩

/-- Whether a client exists may change that belongs to no other SSO. -/
theorem assign {id : String} {owner? : Option SsoKey} (orderly : (realm.assign id owner?).Orderly)
    (holds : phase.Holds (realm.assign id owner?) key) (before : realm.owner id = none ∨ realm.owner id = some key)
    (after : owner? = none ∨ owner? = some key) : Carried key phase realm (realm.assign id owner?) := by
  refine ⟨orderly, holds, fun _ _ => rfl, fun key' other => Set.ext fun id' => ?_⟩
  rw [mem_assign_clients]
  split
  next same =>
    rw [same, mem_clients]
    grind
  next _ => exact Iff.rfl

/-- What holds of other SSOs is not concerned. -/
theorem frame (carried : Carried key phase realm realm') {key' : SsoKey} (other : key' ≠ key) {phase' : Phase}
    (holds : phase'.Holds realm key') : phase'.Holds realm' key' :=
  holds.congr (carried.store key' other) (carried.clients key' other)

end Carried

section Calls

variable {sso : Sso} {phase : Phase}

theorem carried_status {id : String} (orderly : realm.Orderly) (holds : (Phase.registered id).Holds realm key)
    (stored : realm.store key = some sso) :
    Carried key .settled realm
      (realm.put key (some (sso.withStatus { clientId := some id, initialized := true }))) := by
  obtain ⟨clients, sso', stored', held, -⟩ := holds
  cases stored.symm.trans stored'
  have made : id ∈ realm.clients key := clients ▸ Set.mem_singleton id
  have own : SsoKey.ofSso sso = .ok key := orderly.own stored
  refine .put (orderly.put own (.inr ⟨id, rfl⟩) ?_) ⟨?_, ?_⟩
  · intro id' named
    cases named
    exact .inr made
  · intro id' h
    rw [put_clients, clients] at h
    exact ⟨_, put_store_self, held, congrArg some (Set.mem_singleton_iff.1 h).symm⟩
  · intro sso' id' stored' _ named
    rw [put_store_self] at stored'
    cases stored'
    cases named
    exact made

theorem carried_finalizers {finalizers : List String} (orderly : realm.Orderly) (holds : phase.Holds realm key)
    (stored : realm.store key = some sso)
    (allowed : phase = .unsecured ∧ Finalizer.name ∈ finalizers ∨ phase = .cleared ∧ Finalizer.name ∉ finalizers) :
    Carried key (if Finalizer.name ∈ finalizers then .secured else .settled) realm
      (realm.put key (some (sso.withFinalizers finalizers))) := by
  have own : SsoKey.ofSso sso = .ok key := orderly.own stored
  have tidy : sso.IsTidy := orderly.tidy stored
  refine .put (orderly.put own tidy fun _ (named : sso.clientId? = _) => orderly.named stored named) ?_
  rcases allowed with ⟨rfl, held⟩ | ⟨rfl, loose⟩
  · obtain ⟨clients, unnamed⟩ := holds
    rw [if_pos held]
    exact ⟨clients, _, put_store_self, Finalizer.isHeld_iff.2 held, unnamed sso stored⟩
  · obtain ⟨clients, unnamed⟩ := holds
    rw [if_neg loose]
    refine ⟨by simp [clients], fun sso' id stored' live named => ?_⟩
    rw [put_store_self] at stored'
    cases stored'
    cases (unnamed sso stored live).symm.trans named

theorem carried_created {id : String} (orderly : realm.Orderly) (holds : Phase.secured.Holds realm key)
    (new : realm.IsNew id) : Carried key (.registered id) realm (realm.assign id (some key)) := by
  obtain ⟨clients, kept⟩ := holds
  refine .assign (orderly.assign_new new) ⟨?_, kept⟩ (.inl new.1) (.inr rfl)
  ext id'
  rw [mem_assign_clients, clients]
  simp

theorem carried_deleted {id : String} (orderly : realm.Orderly) (holds : phase.Holds realm key)
    (allowed : phase = .registered id ∨ phase = .condemned id) :
    Carried key (phase.after (.call (.deleteClient id)) (.ok ())) realm (realm.assign id none) := by
  have gone : realm.clients key ⊆ {id} → (realm.assign id none).clients key = ∅ := by
    intro only
    refine Set.eq_empty_of_forall_notMem fun id' h => ?_
    rw [mem_assign_clients] at h
    split at h
    next _ => cases h
    next other => exact other (only h)
  -- Only a client of this SSO can go: the new one is its own, and no other SSO has the one that its status names.
  rcases allowed with rfl | rfl
  · obtain ⟨clients, kept⟩ := holds
    have made : id ∈ realm.clients key := clients ▸ Set.mem_singleton id
    exact .assign orderly.assign_none ⟨gone clients.subset, kept⟩ (.inr made) (.inl rfl)
  · obtain ⟨clients, sso, stored, deleted, held, named⟩ := holds
    refine .assign orderly.assign_none ⟨gone clients, fun sso' stored' live => ?_⟩ (orderly.named stored named)
      (.inl rfl)
    cases stored.symm.trans stored'
    cases deleted.symm.trans live

theorem carried_failed {c : Call} (orderly : realm.Orderly) (holds : phase.Holds realm key)
    (hc : c.kind ≠ .deleteClient) (e : Error) :
    Phase.Expects key (.call c) (.error e) ∧ Carried key (phase.after (.call c) (.error e)) realm realm := by
  cases c with
  | deleteClient id => exact absurd rfl hc
  | _ => exact ⟨trivial, .refl orderly holds⟩

theorem carried_other {c : Call} (orderly : realm.Orderly) (holds : phase.Holds realm key)
    (hc : c.kind ∉ Phase.tracked) (value : c.Result) :
    Phase.Expects key (.call c) (.ok value) ∧ Carried key (phase.after (.call c) (.ok value)) realm realm := by
  cases c with
  | getSso | patchSsoStatus | patchSsoFinalizers | createClient | deleteClient =>
    exact absurd (by simp [Phase.tracked]) hc
  | _ => exact ⟨trivial, .refl orderly holds⟩

/-- **What custody allows is carried through**, and is answered as custody expects. -/
theorem Answers.carried {event : Sso} {c : Call} {reply : Outcome c.Result} (own : SsoKey.ofSso event = .ok key)
    (answered : Answers IsNew realm event c reply realm') (orderly : realm.Orderly) (holds : phase.Holds realm key)
    (allowed : (custody key).allows phase (.call c)) :
    (custody key).expects phase (.call c) reply ∧
      Carried key ((custody key).next phase (.call c) reply) realm realm' := by
  cases answered with
  | read ns name =>
    obtain ⟨rfl, rfl⟩ := allowed
    cases stored : realm.store ⟨ns, name⟩ with
    | none => exact ⟨trivial, .refl orderly holds⟩
    | some sso =>
      have tidy := orderly.tidy stored
      exact ⟨⟨orderly.own stored, tidy⟩, .refl orderly (holds.read tidy stored)⟩
  | status stored =>
    obtain ⟨rfl, id, rfl, rfl⟩ := allowed
    exact ⟨trivial, carried_status orderly holds stored⟩
  | finalizers stored =>
    obtain ⟨rfl, allowed⟩ := allowed
    exact ⟨trivial, carried_finalizers orderly holds stored allowed⟩
  | created own' new =>
    cases own.symm.trans own'
    cases allowed
    exact ⟨trivial, carried_created orderly holds new⟩
  | deleted id => exact ⟨trivial, carried_deleted orderly holds allowed⟩
  | other hc value => exact carried_other orderly holds hc value
  | failed hc e => exact carried_failed orderly holds hc e

end Calls

section Drifts

variable {sso sso' : Sso} {phase : Phase}

theorem holds_added (holds : phase.Holds realm key) (free : realm.store key = none) (unnamed : sso.clientId? = none) :
    phase.Holds (realm.put key (some sso)) key := by
  have empty : ∀ {sso'}, (realm.put key (some sso)).store key = some sso' → sso'.clientId? = none := by
    intro sso' stored
    rw [put_store_self] at stored
    cases stored
    exact unnamed
  cases phase with
  | settled =>
    refine ⟨fun id h => ?_, fun sso' id stored _ named => ?_⟩
    · obtain ⟨sso', stored, -⟩ := holds.1 id h
      cases free.symm.trans stored
    · cases (empty stored).symm.trans named
  | unsecured => exact ⟨holds.1, fun sso' stored => empty stored⟩
  | cleared => exact ⟨holds.1, fun sso' stored _ => empty stored⟩
  | secured | registered _ | condemned _ =>
    obtain ⟨-, sso', stored, -⟩ := holds
    cases free.symm.trans stored

theorem holds_edited (holds : phase.Holds realm key) (stored : realm.store key = some sso)
    (named : sso'.clientId? = sso.clientId?) (held : Finalizer.isHeld sso' = Finalizer.isHeld sso)
    (deletion : sso.metadata.isDeleted = true → sso'.metadata.isDeleted = true) :
    phase.Holds (realm.put key (some sso')) key := by
  have live : sso'.metadata.isDeleted = false → sso.metadata.isDeleted = false := by
    intro live
    refine Bool.eq_false_iff.2 fun deleted => ?_
    cases live.symm.trans (deletion deleted)
  have before : ∀ {sso''}, (realm.put key (some sso')).store key = some sso'' → sso'' = sso' := by
    intro sso'' stored'
    rw [put_store_self] at stored'
    exact (Option.some.inj stored').symm
  cases phase with
  | settled =>
    refine ⟨fun id h => ?_, fun sso'' id stored' live' named' => ?_⟩
    · obtain ⟨_, stored', held', named'⟩ := holds.1 id h
      cases stored.symm.trans stored'
      exact ⟨sso', put_store_self, held.trans held', named.trans named'⟩
    · obtain rfl := before stored'
      exact holds.2 sso id stored (live live') (named.symm.trans named')
  | unsecured =>
    refine ⟨holds.1, fun sso'' stored' => ?_⟩
    obtain rfl := before stored'
    exact named.trans (holds.2 sso stored)
  | cleared =>
    refine ⟨holds.1, fun sso'' stored' live' => ?_⟩
    obtain rfl := before stored'
    exact named.trans (holds.2 sso stored (live live'))
  | secured | registered _ =>
    obtain ⟨clients, _, stored', held', unnamed⟩ := holds
    cases stored.symm.trans stored'
    exact ⟨clients, sso', put_store_self, held.trans held', named.trans unnamed⟩
  | condemned id =>
    obtain ⟨clients, _, stored', deleted, held', named'⟩ := holds
    cases stored.symm.trans stored'
    exact ⟨clients, sso', put_store_self, deletion deleted, held.trans held', named.trans named'⟩

theorem holds_removed (holds : phase.Holds realm key) (stored : realm.store key = some sso)
    (loose : Finalizer.isHeld sso = false) : phase.Holds (realm.put key none) key := by
  have empty : ∀ sso', (realm.put key none).store key ≠ some sso' := by
    intro sso'
    rw [put_store_self]
    exact nofun
  cases phase with
  | settled =>
    refine ⟨fun id h => ?_, fun sso' id stored' => absurd stored' (empty sso')⟩
    obtain ⟨_, stored', held, -⟩ := holds.1 id h
    cases stored.symm.trans stored'
    cases loose.symm.trans held
  | unsecured => exact ⟨holds.1, fun sso' stored' => absurd stored' (empty sso')⟩
  | cleared => exact ⟨holds.1, fun sso' stored' => absurd stored' (empty sso')⟩
  | secured | registered _ =>
    obtain ⟨-, _, stored', held, -⟩ := holds
    cases stored.symm.trans stored'
    cases loose.symm.trans held
  | condemned _ =>
    obtain ⟨-, _, stored', -, held, -⟩ := holds
    cases stored.symm.trans stored'
    cases loose.symm.trans held

/-- **A change from outside concerns one SSO**, and what held of it holds on. -/
theorem Drift.carried (drift : Drift realm realm') (orderly : realm.Orderly) {phases : SsoKey → Phase}
    (holds : ∀ key, (phases key).Holds realm key) : ∃ key, Carried key (phases key) realm realm' := by
  cases drift with
  | @added key sso free own unknown loose =>
    have unnamed : sso.clientId? = none := by simp [Sso.clientId?, unknown]
    refine ⟨key, .put (orderly.put own (.inl unknown) fun id named => ?_) (holds_added (holds key) free unnamed)⟩
    cases unnamed.symm.trans named
  | @edited key sso sso' stored own status finalizers deletion =>
    have named : sso'.clientId? = sso.clientId? := by simp [Sso.clientId?, status]
    have held : Finalizer.isHeld sso' = Finalizer.isHeld sso := by
      simp [Finalizer.isHeld, Kubernetes.ObjectMeta.finalizerList, finalizers]
    have tidy : sso'.IsTidy := by
      unfold Sso.IsTidy
      rw [status]
      exact orderly.tidy stored
    refine ⟨key, .put (orderly.put own tidy fun id hid => ?_) (holds_edited (holds key) stored named held deletion)⟩
    exact orderly.named stored (named.symm.trans hid)
  | @removed key sso stored deleted loose =>
    have free : Finalizer.isHeld sso = false := by simp [Finalizer.isHeld, loose]
    exact ⟨key, .put orderly.put_none (holds_removed (holds key) stored free)⟩

end Drifts

end Realm
end SignOnOperator
