import Mathlib.Data.List.Nodup
import SignOnOperator.Cluster.Binding
import SignOnOperator.Proofs.Interleaving
/-!
# The subjects of a binding

Any number of calls add the accounts of their namespaces to one binding, each by reading it, creating the account and
writing the binding back.  The server takes a binding only with the version that it has; since no version is issued
twice, what is taken is what was read with one account more (`Registry.evolves_of_replaced`).  So the binding only
grows, and the argument of `Interleaving` does the rest.
-/
namespace SignOnOperator.Binding

open Kubernetes
open Kubernetes.ClusterRoleBinding (isAccountOf)
open Interleaving (Setting Discipline Secures Pool Alone Secured result?)

/-! ## Bindings that grow -/

/-- The account that is added for a namespace. -/
def subject (ns : String) : Subject := { kind := "ServiceAccount", name := accountName, namespaceName := some ns }

theorem isAccountOf_subject {ns ns' : String} : isAccountOf ns (subject ns') = true ↔ ns' = ns := by
  simp [isAccountOf, subject]

theorem accountIn?_eq_none_iff {b : ClusterRoleBinding} {ns : String} :
    b.accountIn? ns = none ↔ ∀ x ∈ b.subjects.getD [], isAccountOf ns x = false := by
  unfold ClusterRoleBinding.accountIn?
  rw [Option.map_eq_none_iff, List.find?_eq_none]
  exact forall₂_congr fun _ _ => iff_of_eq (Bool.not_eq_true _)

theorem accountIn?_addAccount {b : ClusterRoleBinding} {ns : String} (absent : b.accountIn? ns = none) (name : String) :
    (b.addAccount name ns).accountIn? ns = some name := by
  unfold ClusterRoleBinding.accountIn? at absent ⊢
  rw [Option.map_eq_none_iff] at absent
  simp [ClusterRoleBinding.addAccount, List.find?_append, absent, isAccountOf]

/-- What is stored is the binding that was handed in; of its metadata all but the name may be made anew. -/
structure StoredAs (b stored : ClusterRoleBinding) : Prop where
  name : stored.metadata.nameAny = b.metadata.nameAny
  role : stored.roleRef = b.roleRef
  subjects : stored.subjects = b.subjects

/-- After all its subjects a binding has been given the accounts of some namespaces that had none, one for each. -/
structure Grown (b b' : ClusterRoleBinding) : Prop where
  name : b'.metadata.nameAny = b.metadata.nameAny
  role : b'.roleRef = b.roleRef
  subjects : ∃ namespaces : List String, namespaces.Nodup ∧ (∀ ns ∈ namespaces, b.accountIn? ns = none) ∧
    b'.subjects.getD [] = b.subjects.getD [] ++ namespaces.map subject

namespace Grown

variable {b b' b'' : ClusterRoleBinding} {ns name role : String}

protected theorem refl (b : ClusterRoleBinding) : Grown b b :=
  ⟨rfl, rfl, [], List.nodup_nil, List.forall_mem_nil _, (List.append_nil _).symm⟩

theorem accountIn? (grown : Grown b b') (h : b.accountIn? ns = some name) : b'.accountIn? ns = some name := by
  obtain ⟨namespaces, -, -, same⟩ := grown.subjects
  unfold ClusterRoleBinding.accountIn? at h ⊢
  obtain ⟨x, found, named⟩ := Option.map_eq_some_iff.1 h
  rw [same, List.find?_append, found]
  exact congrArg some named

theorem accountIn?_eq_none (grown : Grown b b') (h : b'.accountIn? ns = none) : b.accountIn? ns = none := by
  cases before : b.accountIn? ns with
  | none => rfl
  | some name =>
    rw [grown.accountIn? before] at h
    cases h

theorem binds (grown : Grown b b') : b'.binds role = b.binds role := by
  unfold ClusterRoleBinding.binds
  rw [grown.role]

protected theorem trans (grown : Grown b b') (grown' : Grown b' b'') : Grown b b'' := by
  obtain ⟨namespaces, distinct, absent, same⟩ := grown.subjects
  obtain ⟨namespaces', distinct', absent', same'⟩ := grown'.subjects
  refine ⟨grown'.name.trans grown.name, grown'.role.trans grown.role, namespaces ++ namespaces', ?_, ?_, ?_⟩
  · -- A namespace that was given an account the first time has one, so it is not among the later ones.
    refine List.nodup_append.2 ⟨distinct, distinct', fun ns hns ns' hns' same_ns => ?_⟩
    subst same_ns
    have there : subject ns ∈ b'.subjects.getD [] := by
      rw [same]
      exact List.mem_append_right _ (List.mem_map_of_mem hns)
    have none_there := accountIn?_eq_none_iff.1 (absent' ns hns') _ there
    rw [isAccountOf_subject.2 rfl] at none_there
    cases none_there
  · exact List.forall_mem_append.2 ⟨absent, fun ns hns => grown.accountIn?_eq_none (absent' ns hns)⟩
  · rw [same', same, List.map_append, List.append_assoc]

theorem of_addAccount (absent : b.accountIn? ns = none) (stored : StoredAs (b.addAccount accountName ns) b') :
    Grown b b' := by
  refine ⟨stored.name, stored.role, [ns], List.nodup_singleton ns, List.forall_mem_singleton.2 absent, ?_⟩
  rw [stored.subjects]
  rfl

end Grown

/-- What stands first with a property stands first in one way only. -/
theorem first_unique {α : Type} {p : α → Bool} {l l' r r' : List α} {a a' : α} (same : l ++ a :: r = l' ++ a' :: r')
    (first : ∀ c ∈ l, p c = false) (first' : ∀ c ∈ l', p c = false) (ha : p a = true) (ha' : p a' = true) :
    l = l' ∧ a = a' ∧ r = r' := by
  induction l generalizing l' with
  | nil =>
    cases l' with
    | nil =>
      obtain ⟨rfl, rfl⟩ := List.cons.inj same
      exact ⟨rfl, rfl, rfl⟩
    | cons c l' =>
      obtain ⟨rfl, -⟩ := List.cons.inj same
      rw [first' a List.mem_cons_self] at ha
      cases ha
  | cons c l ih =>
    cases l' with
    | nil =>
      obtain ⟨rfl, -⟩ := List.cons.inj same
      rw [first c List.mem_cons_self] at ha'
      cases ha'
    | cons c' l' =>
      obtain ⟨rfl, rest⟩ := List.cons.inj same
      obtain ⟨rfl, rfl, rfl⟩ := ih rest (List.forall_mem_cons.1 first).2 (List.forall_mem_cons.1 first').2
      exact ⟨rfl, rfl, rfl⟩

/-- Of the bindings the first one of the role has grown, and nothing else has changed. -/
structure Growth (role : String) (l l' : List ClusterRoleBinding) (b b' : ClusterRoleBinding) : Prop where
  binds : b.binds role = true
  grown : Grown b b'
  place : ∃ before after, l = before ++ b :: after ∧ l' = before ++ b' :: after ∧ ∀ c ∈ before, c.binds role = false

namespace Growth

variable {role : String} {l l' l'' : List ClusterRoleBinding} {b b' c c' : ClusterRoleBinding}

theorem find?_old (growth : Growth role l l' b b') : l.find? (·.binds role) = some b := by
  obtain ⟨before, after, was, -, first⟩ := growth.place
  refine List.find?_eq_some_iff_append.2 ⟨growth.binds, before, after, was, fun c hc => ?_⟩
  rw [first c hc]
  rfl

theorem find?_new (growth : Growth role l l' b b') : l'.find? (·.binds role) = some b' := by
  obtain ⟨before, after, -, is, first⟩ := growth.place
  refine List.find?_eq_some_iff_append.2 ⟨growth.grown.binds.trans growth.binds, before, after, is, fun c hc => ?_⟩
  rw [first c hc]
  rfl

protected theorem trans (growth : Growth role l l' b b') (growth' : Growth role l' l'' c c') :
    Growth role l l'' b c' := by
  have binds' : b'.binds role = true := growth.grown.binds.trans growth.binds
  obtain ⟨before, after, was, is, first⟩ := growth.place
  obtain ⟨before', after', was', is', first'⟩ := growth'.place
  obtain ⟨rfl, rfl, rfl⟩ := first_unique (is.symm.trans was') first first' binds' growth'.binds
  exact ⟨growth.binds, growth.grown.trans growth'.grown, before, after, was, is', first⟩

end Growth

/-! ## Calls side by side -/

/-- What a call asks the cluster for. -/
inductive Demand where
  | list
  | create (account : ServiceAccount)
  | replace (binding : ClusterRoleBinding)

def Demand.Reply : Demand → Type
  | list => Outcome (List ClusterRoleBinding)
  | create _ | replace _ => Outcome Unit

def Api : Interface := ⟨Demand, Demand.Reply⟩

instance : BindingAccess Api where
  bindings := Program.ask (I := Api) .list .done
  createAccount account := Program.ask (I := Api) (.create account) .done
  replaceBinding binding := Program.ask (I := Api) (.replace binding) .done

/-- The bindings in the order in which they are listed, the versions that have been issued, and the accounts by
namespace and name.  No two bindings have the same name, and each has a version that was issued. -/
structure Registry where
  bindings : List ClusterRoleBinding
  issued : String → Prop
  accounts : String → String → Prop
  named : (bindings.map (·.metadata.nameAny)).Nodup
  versioned : ∀ b ∈ bindings, ∃ v, b.metadata.resourceVersion = some v ∧ issued v

/-- What is stored is the binding that a name and a version stand for. -/
structure Matches (stored b : ClusterRoleBinding) : Prop where
  name : stored.metadata.nameAny = b.metadata.nameAny
  version : stored.metadata.resourceVersion = b.metadata.resourceVersion

namespace Registry

/-- The binding has a version that has not been issued. -/
def IsNew (s : Registry) (b : ClusterRoleBinding) : Prop :=
  ∃ v, b.metadata.resourceVersion = some v ∧ ¬ s.issued v

/-- A binding has been written over the one of its name, which has the version that was handed in; it is given a
version that was not issued before. -/
structure Replaced (s : Registry) (b : ClusterRoleBinding) (s' : Registry) : Prop where
  place : ∃ before old new after, s.bindings = before ++ old :: after ∧ s'.bindings = before ++ new :: after ∧
    Matches old b ∧ StoredAs b new ∧ s.IsNew new
  issued : ∀ v, s.issued v → s'.issued v
  accounts : s'.accounts = s.accounts

/-- An account has been created that was not there. -/
structure Created (s : Registry) (account : ServiceAccount) (s' : Registry) : Prop where
  bindings : s'.bindings = s.bindings
  issued : ∀ v, s.issued v → s'.issued v
  account : ∃ ns name, account.metadata.namespaceName = some ns ∧ account.metadata.name = some name ∧
    ¬ s.accounts ns name ∧ ∀ ns' name', s'.accounts ns' name' ↔ s.accounts ns' name' ∨ (ns' = ns ∧ name' = name)

/-- How the registry answers, and what becomes of it.  Any request may also fail, with a conflict or otherwise, and then
changes nothing. -/
def Answers (s : Registry) : (r : Demand) → r.Reply → Registry → Prop
  | .list, reply, s' => s' = s ∧ (reply = .ok s.bindings ∨ ∃ e, reply = .error e)
  | .create account, reply, s' => (reply = .ok () ∧ s.Created account s') ∨ ((∃ e, reply = .error e) ∧ s' = s)
  | .replace b, reply, s' => (reply = .ok () ∧ s.Replaced b s') ∨ ((∃ e, reply = .error e) ∧ s' = s)

/-- The first binding that gives the role. -/
def first? (s : Registry) (role : String) : Option ClusterRoleBinding := s.bindings.find? (·.binds role)

/-- What may become of the bindings: nothing, or the first one of the role grows and is given a new version. -/
structure Evolves (role : String) (s s' : Registry) : Prop where
  issued : ∀ v, s.issued v → s'.issued v
  bindings : s'.bindings = s.bindings ∨ ∃ b b', Growth role s.bindings s'.bindings b b' ∧ s.IsNew b'

variable {role ns name : String} {s s' s'' : Registry} {b c : ClusterRoleBinding}

theorem eq_of_nameAny (hb : b ∈ s.bindings) (hc : c ∈ s.bindings) (same : b.metadata.nameAny = c.metadata.nameAny) :
    b = c :=
  List.inj_on_of_nodup_map s.named hb hc same

namespace Evolves

theorem of_bindings_eq (same : s'.bindings = s.bindings) (issued : ∀ v, s.issued v → s'.issued v) : Evolves role s s' :=
  ⟨issued, .inl same⟩

protected theorem trans (h : Evolves role s s') (h' : Evolves role s' s'') : Evolves role s s'' := by
  have issued : ∀ v, s.issued v → s''.issued v := fun v hv => h'.issued v (h.issued v hv)
  have new {b : ClusterRoleBinding} : s'.IsNew b → s.IsNew b := fun ⟨v, version, fresh⟩ =>
    ⟨v, version, fun hv => fresh (h.issued v hv)⟩
  refine ⟨issued, ?_⟩
  rcases h.bindings with same | ⟨b, b', growth, fresh⟩
  · rcases h'.bindings with same' | ⟨b, b', growth, fresh⟩
    · exact .inl (same'.trans same)
    · exact .inr ⟨b, b', same ▸ growth, new fresh⟩
  · rcases h'.bindings with same' | ⟨c, c', growth', fresh'⟩
    · exact .inr ⟨b, b', same' ▸ growth, fresh⟩
    · exact .inr ⟨b, c', growth.trans growth', new fresh'⟩

theorem first?_eq_none (h : Evolves role s s') : s'.first? role = none ↔ s.first? role = none := by
  unfold first?
  rcases h.bindings with same | ⟨b, b', growth, -⟩
  · rw [same]
  · rw [growth.find?_old, growth.find?_new]
    exact ⟨nofun, nofun⟩

/-- The first binding of the role stays the first, with all that is in it. -/
theorem first? (h : Evolves role s s') (hb : s.first? role = some b) :
    ∃ b', s'.first? role = some b' ∧ Grown b b' := by
  rcases h.bindings with same | ⟨c, c', growth, -⟩
  · refine ⟨b, ?_, .refl b⟩
    unfold Registry.first?
    rw [same]
    exact hb
  · obtain rfl := Option.some.inj (growth.find?_old.symm.trans hb)
    exact ⟨c', growth.find?_new, growth.grown⟩

end Evolves

/-- As long as the first binding of the role has a version that it had, nothing has changed. -/
theorem Evolves.bindings_eq (h : Evolves role s s') (hb : s.first? role = some b) (hc : c ∈ s'.bindings)
    (matched : Matches c b) : s'.bindings = s.bindings := by
  rcases h.bindings with same | ⟨d, d', growth, v, new, fresh⟩
  · exact same
  · obtain rfl := Option.some.inj (growth.find?_old.symm.trans hb)
    have there : d' ∈ s'.bindings := List.mem_of_find?_eq_some growth.find?_new
    obtain rfl := s'.eq_of_nameAny hc there (matched.name.trans growth.grown.name.symm)
    -- Had it grown since, its version would be one that was not issued then.
    obtain ⟨w, old, issued⟩ := s.versioned d (List.mem_of_find?_eq_some hb)
    obtain rfl : v = w := Option.some.inj ((new.symm.trans matched.version).trans old)
    exact absurd issued fresh

/-- **What is taken is what was read.**  A binding that was read and is written back with one account more is taken only
if nothing has changed since. -/
theorem evolves_of_replaced (h : Evolves role s s') (hb : s.first? role = some b) (absent : b.accountIn? ns = none)
    (replaced : s'.Replaced (b.addAccount accountName ns) s'') :
    Evolves role s' s'' ∧ ∃ b', s''.first? role = some b' ∧ b'.accountIn? ns = some accountName := by
  obtain ⟨before, old, new, after, was, is, ⟨name, version⟩, stored, fresh⟩ := replaced.place
  have there : old ∈ s'.bindings := by
    rw [was]
    exact List.mem_append_right _ List.mem_cons_self
  have same : s'.bindings = s.bindings := h.bindings_eq hb there ⟨name, version⟩
  obtain rfl : old = b := s.eq_of_nameAny (same ▸ there) (List.mem_of_find?_eq_some hb) name
  have growth : Growth role s'.bindings s''.bindings old new := by
    -- Since names are distinct, the place that was written is the place of the first binding of the role.
    obtain ⟨binds, front, back, split, first⟩ := List.find?_eq_some_iff_append.1 hb
    have once : (before ++ old :: after).Nodup := was ▸ .of_map _ s'.named
    have alone : old ∉ before ++ after := (List.nodup_cons.1 (List.nodup_middle.1 once)).1
    rw [List.mem_append, not_or] at alone
    obtain ⟨rfl, -, rfl⟩ := (List.append_cons_inj_of_notMem alone.1 alone.2).1 (was.symm.trans (same.trans split))
    refine ⟨binds, .of_addAccount absent stored, before, after, was, is, fun c hc => ?_⟩
    exact Bool.not_inj (first c hc)
  have given : new.accountIn? ns = some accountName := by
    unfold ClusterRoleBinding.accountIn?
    rw [stored.subjects]
    exact accountIn?_addAccount absent accountName
  exact ⟨⟨replaced.issued, .inr ⟨old, new, growth, fresh⟩⟩, new, growth.find?_new, given⟩

end Registry

/-! ## One call -/

/-- Calls that give a role to accounts, each to one of its namespace.  Meanwhile accounts may come and go and versions
may be issued, but nobody else changes the bindings. -/
def callers (role : String) : Setting Api String (Outcome String) Registry where
  program ns := ensure role ns
  answers _ s r reply s' := s.Answers r reply s'
  drifts s s' := s'.bindings = s.bindings ∧ ∀ v, s.issued v → s'.issued v

def discipline (role : String) : Discipline (callers role) where
  inv _ := True
  evolves := Registry.Evolves role
  refl _ := .of_bindings_eq rfl fun _ => id
  trans := .trans
  drifts _ drift := ⟨trivial, .of_bindings_eq drift.1 drift.2⟩

/-- All that has been done is a look at the bindings; the result, if there is one, is this or the failure to look. -/
def OnlyLooked (h : History Api) (result : Option (Outcome String)) (expected : Outcome String) : Prop :=
  (∀ turn ∈ h, turn.request = .list) ∧
    ∀ o, result = some o → o = expected ∨ ∃ e, h = [⟨.list, .error e⟩] ∧ o = .error e

theorem onlyLooked_none (expected : Outcome String) : OnlyLooked [] none expected :=
  ⟨List.forall_mem_nil _, nofun⟩

theorem onlyLooked_some (reply : Demand.Reply .list) (o : Outcome String) : OnlyLooked [⟨.list, reply⟩] (some o) o :=
  ⟨List.forall_mem_singleton.2 rfl, fun _ same => .inl (Option.some.inj same).symm⟩

theorem onlyLooked_error (e : Error) (expected : Outcome String) :
    OnlyLooked [⟨.list, .error e⟩] (some (.error e)) expected :=
  ⟨List.forall_mem_singleton.2 rfl, fun _ same => .inr ⟨e, rfl, (Option.some.inj same).symm⟩⟩

/-- All that has been asked to be written is the first binding of the role. -/
def WritesFirst (role : String) (h : History Api) (s : Registry) : Prop :=
  ∀ turn ∈ h, ∀ w, turn.request = .replace w → ∃ b, s.first? role = some b ∧ w.metadata.nameAny = b.metadata.nameAny

/-- The first binding of the role has an account of the namespace, of this name. -/
def Bound (role ns : String) (s : Registry) (name : String) : Prop :=
  ∃ b, s.first? role = some b ∧ ∃ x ∈ b.subjects.getD [], isAccountOf ns x = true ∧ x.name = name

/-- The first binding of the role has no account of the namespace. -/
def Lacks (role ns : String) (s : Registry) : Prop := ∃ b, s.first? role = some b ∧ b.accountIn? ns = none

/-- What holds of a call at any time, by the bindings as they were when it began and as they are. -/
structure Faithful (role ns : String) (began : Registry) (h : History Api) (s : Registry)
    (result : Option (Outcome String)) : Prop where
  writes : WritesFirst role h s
  bound : ∀ name, result = some (.ok name) → Bound role ns s name
  served : ∀ b name, began.first? role = some b → b.accountIn? ns = some name → OnlyLooked h result (.ok name)
  unbound : began.first? role = none → OnlyLooked h result (.error (.clusterRoleBindingNotFound role))

variable {role ns : String} {began s s' : Registry} {h : History Api} {b : ClusterRoleBinding}

namespace WritesFirst

theorem nil (role : String) (s : Registry) : WritesFirst role [] s := List.forall_mem_nil _

theorem evolve (writes : WritesFirst role h s) (evolves : s.Evolves role s') : WritesFirst role h s' := by
  intro turn ht w asked
  obtain ⟨b, hb, name⟩ := writes turn ht w asked
  obtain ⟨b', hb', grown⟩ := evolves.first? hb
  exact ⟨b', hb', name.trans grown.name.symm⟩

theorem concat {turn : Turn Api} (writes : WritesFirst role h s)
    (last : ∀ w, turn.request = .replace w → ∃ b, s.first? role = some b ∧ w.metadata.nameAny = b.metadata.nameAny) :
    WritesFirst role (h ++ [turn]) s :=
  List.forall_mem_append.2 ⟨writes, List.forall_mem_singleton.2 last⟩

end WritesFirst

theorem Bound.of_evolves {name : String} (evolves : s.Evolves role s') (hb : s.first? role = some b)
    (found : b.accountIn? ns = some name) : Bound role ns s' name := by
  obtain ⟨c, hc, grown⟩ := evolves.first? hb
  obtain ⟨x, there, named⟩ := Option.map_eq_some_iff.1 (grown.accountIn? found)
  exact ⟨c, hc, x, List.mem_of_find?_eq_some there, List.find?_some there, named⟩

theorem Lacks.of_evolves (evolves : s.Evolves role s') (lacks : Lacks role ns s') : Lacks role ns s := by
  obtain ⟨b', hb', absent⟩ := lacks
  cases hb : s.first? role with
  | none =>
    rw [evolves.first?_eq_none.2 hb] at hb'
    cases hb'
  | some b =>
    obtain ⟨c, hc, grown⟩ := evolves.first? hb
    obtain rfl := Option.some.inj (hc.symm.trans hb')
    exact ⟨b, hb, grown.accountIn?_eq_none absent⟩

theorem Lacks.faithful {result : Option (Outcome String)} (lacks : Lacks role ns began) (writes : WritesFirst role h s)
    (bound : ∀ name, result = some (.ok name) → Bound role ns s name) : Faithful role ns began h s result := by
  obtain ⟨b, hb, absent⟩ := lacks
  refine ⟨writes, bound, fun c name hc found => ?_, fun none => ?_⟩
  · obtain rfl := Option.some.inj (hb.symm.trans hc)
    rw [absent] at found
    cases found
  · rw [hb] at none
    cases none

/-- Writes the binding that was read with one account more. -/
def install (b : ClusterRoleBinding) (ns : String) : Action Api String := do
  BindingAccess.replaceBinding (b.addAccount accountName ns)
  return accountName

/-- Goes on with the binding that was found. -/
def attend (b : ClusterRoleBinding) (ns : String) : Action Api String :=
  match b.accountIn? ns with
  | some name => pure name
  | none => ensureAccount ns >>= fun _ => install b ns

theorem ensure_eq (role ns : String) :
    (ensure role ns : Action Api String) =
      BindingAccess.bindings >>= fun (bindings : List ClusterRoleBinding) =>
        match bindings.find? (·.binds role) with
        | some b => attend b ns
        | none => Action.fail (.clusterRoleBindingNotFound role) := by
  unfold ensure
  refine congrArg (Action.bind _) (funext fun (bindings : List ClusterRoleBinding) => ?_)
  cases bindings.find? (·.binds role) with
  | some b => rfl
  | none => rfl

theorem secures_failed (lacks : Lacks role ns began) (writes : WritesFirst role h s) (e : Error) :
    Secures (discipline role) ns (Faithful role ns began) (.done (.error e)) h s :=
  fun _ evolves _ => lacks.faithful (writes.evolve evolves) nofun

theorem secures_install (lacks : Lacks role ns began) (writes : WritesFirst role h s) (hb : s.first? role = some b)
    (absent : b.accountIn? ns = none) :
    Secures (discipline role) ns (Faithful role ns began) (install b ns) h s := by
  intro s₁ evolves _
  refine ⟨lacks.faithful (writes.evolve evolves) nofun, fun reply s₂ answered => ?_⟩
  have asked : WritesFirst role (h ++ [⟨.replace (b.addAccount accountName ns), reply⟩]) s := by
    refine writes.concat fun w same => ⟨b, hb, ?_⟩
    cases same
    rfl
  rcases answered with ⟨rfl, replaced⟩ | ⟨⟨e, rfl⟩, rfl⟩
  · obtain ⟨evolves', b', hb', given⟩ := Registry.evolves_of_replaced evolves hb absent replaced
    refine ⟨trivial, evolves', fun s₃ later _ => ?_⟩
    refine lacks.faithful (asked.evolve ((evolves.trans evolves').trans later)) fun name same => ?_
    cases same
    exact .of_evolves later hb' given
  · exact ⟨trivial, (discipline role).refl _, secures_failed lacks (asked.evolve evolves) e⟩

theorem secures_attend (lacks : Lacks role ns began) (writes : WritesFirst role h s) (hb : s.first? role = some b)
    (absent : b.accountIn? ns = none) :
    Secures (discipline role) ns (Faithful role ns began) (attend b ns) h s := by
  have missing : attend b ns = Action.bind (ensureAccount ns) fun _ => install b ns := by
    unfold attend
    rw [absent]
    rfl
  rw [missing]
  intro s₁ evolves _
  refine ⟨lacks.faithful (writes.evolve evolves) nofun, fun reply s₂ answered => ?_⟩
  have asked : WritesFirst role (h ++ [⟨.create (account ns), reply⟩]) s := writes.concat fun w same => by cases same
  rcases answered with ⟨rfl, created⟩ | ⟨⟨e, rfl⟩, rfl⟩
  · have evolves' : Registry.Evolves role s₁ s₂ := .of_bindings_eq created.bindings created.issued
    exact ⟨trivial, evolves', (secures_install lacks asked hb absent).evolve (evolves.trans evolves')⟩
  · -- A conflict says that the account is there, and the call goes on.
    refine ⟨trivial, (discipline role).refl _, ?_⟩
    change Secures _ _ _ (Action.bind (if e.isConflict then pure () else Action.fail e) fun _ => install b ns) _ _
    by_cases conflict : e.isConflict = true
    · rw [if_pos conflict]
      exact (secures_install lacks asked hb absent).evolve evolves
    · rw [if_neg conflict]
      exact secures_failed lacks (asked.evolve evolves) e

theorem secures_ensure : Secures (discipline role) ns (Faithful role ns s) (ensure role ns) [] s := by
  rw [ensure_eq]
  intro s₁ evolves _
  have nothing : Faithful role ns s [] s₁ none :=
    ⟨.nil role s₁, nofun, fun _ _ _ _ => onlyLooked_none _, fun _ => onlyLooked_none _⟩
  refine ⟨nothing, fun reply s₂ answered => ?_⟩
  have asked (s : Registry) : WritesFirst role [⟨.list, reply⟩] s :=
    (WritesFirst.nil role s).concat fun w same => by cases same
  obtain ⟨rfl, rfl | ⟨e, rfl⟩⟩ := answered
  · refine ⟨trivial, (discipline role).refl _, ?_⟩
    change Secures _ _ _ (match s₂.first? role with
      | some b => attend b ns
      | none => Action.fail (.clusterRoleBindingNotFound role)) _ _
    cases hb : s₂.first? role with
    | none =>
      refine fun _ _ _ => ⟨asked _, nofun, fun b name before _ => ?_, fun _ => onlyLooked_some _ _⟩
      rw [evolves.first?_eq_none.1 hb] at before
      cases before
    | some b =>
      cases found : b.accountIn? ns with
      | none => exact secures_attend (Lacks.of_evolves evolves ⟨b, hb, found⟩) (asked _) hb found
      | some name =>
        have served : attend b ns = .done (.ok name) := by
          unfold attend
          rw [found]
          rfl
        change Secures _ _ _ (attend b ns) _ _
        rw [served]
        refine fun s₃ later _ => ⟨asked _, fun _ same => ?_, fun c name' before found' => ?_, fun before => ?_⟩
        · cases same
          exact .of_evolves later hb found
        · obtain ⟨c', after, grown⟩ := evolves.first? before
          obtain rfl := Option.some.inj (hb.symm.trans after)
          obtain rfl := Option.some.inj (found.symm.trans (grown.accountIn? found'))
          exact onlyLooked_some _ _
        · rw [evolves.first?_eq_none.2 before] at hb
          cases hb
  · exact ⟨trivial, (discipline role).refl _, fun _ _ _ =>
      ⟨asked _, nofun, fun _ _ _ _ => onlyLooked_error e _, fun _ => onlyLooked_error e _⟩⟩

/-! ## All calls -/

/-- **No update is lost.**  However the calls interleave and whichever of them fail: between any two moments only the
first binding of the role changes, and only by accounts added after all its subjects, one for each of some namespaces
that had none; no call asks for another one to be written.  The name that a call gives is that of an account of its
namespace in that binding.  A call for a namespace that has an account when the call begins only looks at the bindings
and gives the first such name; and if no binding gives the role, every call only looks and fails. -/
theorem no_update_lost {start during finish : Pool Api String (Outcome String) Registry} (idle : start.threads = [])
    (first : Interleaving.Run (callers role) start during) (later : Interleaving.Run (callers role) during finish) :
    (finish.state.bindings = during.state.bindings ∨
      ∃ b b', Growth role during.state.bindings finish.state.bindings b b') ∧
    (∀ t ∈ finish.threads, WritesFirst role t.history finish.state) ∧
    (∀ t ∈ finish.threads, ∀ name, result? t.rest = some (.ok name) →
      ∃ b, finish.state.first? role = some b ∧
        ∃ x ∈ b.subjects.getD [], isAccountOf t.purpose x = true ∧ x.name = name) ∧
    (∀ t ∈ finish.threads, ∀ b name, t.began.first? role = some b → b.accountIn? t.purpose = some name →
      OnlyLooked t.history (result? t.rest) (.ok name)) ∧
    ∀ t ∈ finish.threads, t.began.first? role = none →
      OnlyLooked t.history (result? t.rest) (.error (.clusterRoleBindingNotFound role)) := by
  have opening : Secured (discipline role) (fun ns began => Faithful role ns began) start := by
    refine ⟨trivial, ?_⟩
    rw [idle]
    exact List.forall_mem_nil _
  have fresh : ∀ ns s, (discipline role).inv s →
      Secures (discipline role) ns (Faithful role ns s) (ensure role ns) [] s := fun _ _ _ => secures_ensure
  obtain ⟨secured, evolves⟩ := later.secured fresh (first.secured fresh opening).1
  have growth : finish.state.bindings = during.state.bindings ∨
      ∃ b b', Growth role during.state.bindings finish.state.bindings b b' :=
    evolves.bindings.imp_right fun ⟨b, b', growth, _⟩ => ⟨b, b', growth⟩
  have faithful := fun t ht => secured.now (t := t) ht
  exact ⟨growth, fun t ht => (faithful t ht).writes, fun t ht => (faithful t ht).bound,
    fun t ht => (faithful t ht).served, fun t ht => (faithful t ht).unbound⟩

/-- The role's binding behind one of another role. -/
def operatorBinding (version : String) (namespaces : List String) : ClusterRoleBinding where
  metadata := { name := some "sso-operator", resourceVersion := some version }
  roleRef := { kind := "ClusterRole", name := "sso" }
  subjects := some (namespaces.map subject)

def viewBinding : ClusterRoleBinding where
  metadata := { name := some "view", resourceVersion := some "0" }
  roleRef := { kind := "ClusterRole", name := "view" }

/-- A registry whose versions are these, the current one first; the role is given in the one list of namespaces, and in
the other there are accounts. -/
def roster (version : String) (past namespaces housed : List String) : Registry where
  bindings := [viewBinding, operatorBinding version namespaces]
  issued v := v ∈ version :: (past ++ ["0"])
  accounts ns name := ns ∈ housed ∧ name = accountName
  named := by simp [viewBinding, operatorBinding, ObjectMeta.nameAny]
  versioned := by
    refine List.forall_mem_cons.2 ⟨⟨"0", rfl, by simp⟩, List.forall_mem_singleton.2 ⟨version, rfl, by simp⟩⟩

def conflicting : Error := .cluster (.refused ⟨"Failure", "the object has been modified", "Conflict", 409⟩)

/-- Two calls have read the binding; the second comes too late to write it and is made once more, and a last call finds
the account of the first. -/
def settled : Pool Api String (Outcome String) Registry where
  state := roster "3" ["2", "1"] ["a", "b"] ["b", "a"]
  threads :=
    [⟨"a", roster "1" [] [] [],
        [⟨.list, .ok [viewBinding, operatorBinding "1" []]⟩, ⟨.create (account "a"), .ok ()⟩,
          ⟨.replace (operatorBinding "1" ["a"]), .ok ()⟩], .done (.ok accountName)⟩,
      ⟨"b", roster "1" [] [] [],
        [⟨.list, .ok [viewBinding, operatorBinding "1" []]⟩, ⟨.create (account "b"), .ok ()⟩,
          ⟨.replace (operatorBinding "1" ["b"]), .error conflicting⟩], .done (.error conflicting)⟩,
      ⟨"b", roster "2" ["1"] ["a"] ["b", "a"],
        [⟨.list, .ok [viewBinding, operatorBinding "2" ["a"]]⟩, ⟨.create (account "b"), .error conflicting⟩,
          ⟨.replace (operatorBinding "2" ["a", "b"]), .ok ()⟩], .done (.ok accountName)⟩,
      ⟨"a", roster "3" ["2", "1"] ["a", "b"] ["b", "a"],
        [⟨.list, .ok [viewBinding, operatorBinding "3" ["a", "b"]]⟩], .done (.ok accountName)⟩]

theorem roster_created {version ns : String} {past namespaces housed : List String} (absent : ns ∉ housed) :
    (roster version past namespaces housed).Created (account ns) (roster version past namespaces (ns :: housed)) where
  bindings := rfl
  issued _ := id
  account := by
    refine ⟨ns, accountName, rfl, rfl, fun there => absent there.1, fun ns' name' => ?_⟩
    change ns' ∈ ns :: housed ∧ name' = accountName ↔ _
    rw [List.mem_cons, or_and_right, or_comm]
    rfl

theorem roster_replaced {version ns version' : String} {past namespaces housed : List String}
    (fresh : version' ∉ version :: (past ++ ["0"])) :
    (roster version past namespaces housed).Replaced (operatorBinding version (namespaces ++ [ns]))
      (roster version' (version :: past) (namespaces ++ [ns]) housed) where
  place := ⟨[viewBinding], operatorBinding version namespaces, operatorBinding version' (namespaces ++ [ns]), [],
    rfl, rfl, ⟨rfl, rfl⟩, ⟨rfl, rfl, rfl⟩, version', rfl, fresh⟩
  issued _ := List.mem_cons_of_mem _
  accounts := rfl

theorem settled_run : Interleaving.Run (callers "sso") ⟨roster "1" [] [] [], []⟩ settled := by
  have looks (ns : String) :
      Alone (callers "sso") ns (roster "1" [] [] []) (ensure "sso" ns)
        [⟨.list, .ok [viewBinding, operatorBinding "1" []]⟩] (roster "1" [] [] [])
        (attend (operatorBinding "1" []) ns) :=
    .turn _ ⟨rfl, .inl rfl⟩ <| .done _ _
  have writes : Alone (callers "sso") "a" (roster "1" [] [] []) (attend (operatorBinding "1" []) "a")
      [⟨.create (account "a"), .ok ()⟩, ⟨.replace (operatorBinding "1" ["a"]), .ok ()⟩]
      (roster "2" ["1"] ["a"] ["a"]) (.done (.ok accountName)) :=
    .turn _ (.inl ⟨rfl, roster_created (by simp)⟩) <| .turn _ (.inl ⟨rfl, roster_replaced (by simp)⟩) <| .done _ _
  have fails : Alone (callers "sso") "b" (roster "2" ["1"] ["a"] ["a"]) (attend (operatorBinding "1" []) "b")
      [⟨.create (account "b"), .ok ()⟩, ⟨.replace (operatorBinding "1" ["b"]), .error conflicting⟩]
      (roster "2" ["1"] ["a"] ["b", "a"]) (.done (.error conflicting)) :=
    .turn _ (.inl ⟨rfl, roster_created (by simp)⟩) <| .turn _ (.inr ⟨⟨_, rfl⟩, rfl⟩) <| .done _ _
  have retries : Alone (callers "sso") "b" (roster "2" ["1"] ["a"] ["b", "a"]) (ensure "sso" "b")
      [⟨.list, .ok [viewBinding, operatorBinding "2" ["a"]]⟩, ⟨.create (account "b"), .error conflicting⟩,
        ⟨.replace (operatorBinding "2" ["a", "b"]), .ok ()⟩]
      settled.state (.done (.ok accountName)) :=
    .turn _ ⟨rfl, .inl rfl⟩ <| .turn _ (.inr ⟨⟨_, rfl⟩, rfl⟩) <|
    .turn _ (.inl ⟨rfl, roster_replaced (by simp)⟩) <| .done _ _
  have finds : Alone (callers "sso") "a" settled.state (ensure "sso" "a")
      [⟨.list, .ok [viewBinding, operatorBinding "3" ["a", "b"]]⟩] settled.state (.done (.ok accountName)) :=
    .turn _ ⟨rfl, .inl rfl⟩ <| .done _ _
  exact .head (.begins _ "a") <| .head (.begins _ "b") <|
    ((looks "a").run _ [] [] [_]).trans <| ((looks "b").run _ [] [_] []).trans <|
    (writes.run _ _ [] [_]).trans <| (fails.run _ _ [_] []).trans <|
    .head (.begins _ "b") <| (retries.run _ [] [_, _] []).trans <|
    .head (.begins _ "a") <| finds.run _ [] [_, _, _] []

theorem settled_no_update_lost :
    Interleaving.Run (callers "sso") ⟨roster "1" [] [] [], []⟩ settled ∧
      (∃ b b', Growth "sso" (roster "1" [] [] []).bindings settled.state.bindings b b') ∧
      (∀ t ∈ settled.threads, WritesFirst "sso" t.history settled.state) ∧
      OnlyLooked [⟨.list, .ok [viewBinding, operatorBinding "3" ["a", "b"]]⟩] (some (.ok accountName))
        (.ok accountName) := by
  obtain ⟨growth, writes, -, served, -⟩ := no_update_lost rfl .refl settled_run
  have last : (⟨"a", settled.state, [⟨.list, .ok [viewBinding, operatorBinding "3" ["a", "b"]]⟩],
      .done (.ok accountName)⟩ : Interleaving.Thread Api String (Outcome String) Registry) ∈ settled.threads :=
    .tail _ (.tail _ (.tail _ (.head _)))
  refine ⟨settled_run, growth.resolve_left fun same => ?_, writes, served _ last _ accountName rfl rfl⟩
  simp [settled, roster, operatorBinding] at same

end SignOnOperator.Binding
