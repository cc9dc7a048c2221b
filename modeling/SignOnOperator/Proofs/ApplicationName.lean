import Mathlib.Data.List.Basic
import SignOnOperator.Proxy.Address
/-!
# The name of the application behind a service

A service without an `app` label goes by its name without its release, and the release is looked for anywhere in the
name: the first occurrence is taken out (`Text.removeFirst_eq`).  By the rule for such names only one at the beginning
counts (`nameAfterRelease`).  The two agree unless the release and a dash occur in the name, but not at its beginning
(`app_name_keeps_rule_iff`).
-/
namespace SignOnOperator

namespace Text

variable {part cs rest : List Char}

theorem strip?_eq_none_iff : strip? part cs = none ↔ ¬part <+: cs := by
  rw [Option.eq_none_iff_forall_ne_some]
  exact ⟨fun none ⟨rest, same⟩ => none rest (strip?_eq_some_iff.2 same.symm),
    fun not rest found => not ⟨rest, (strip?_eq_some_iff.1 found).symm⟩⟩

theorem removeFirst_of_initial (initial : part <+: cs) : removeFirst part cs = cs.drop part.length := by
  obtain ⟨rest, rfl⟩ := initial
  rw [List.drop_left]
  cases whole : part ++ rest with
  | nil =>
    obtain ⟨rfl, rfl⟩ := List.append_eq_nil_iff.1 whole
    rfl
  | cons c cs => rw [removeFirst, strip?_eq_some_iff.2 whole.symm]

/-- **The first occurrence of a part is taken out**, and where there is none nothing is. -/
theorem removeFirst_eq (part cs : List Char) :
    (¬part <:+: cs ∧ removeFirst part cs = cs) ∨
      ∃ before after, cs = before ++ (part ++ after) ∧ removeFirst part cs = before ++ after ∧
        ∀ other, other ++ part <+: cs → before.length ≤ other.length := by
  induction cs with
  | nil =>
    cases part with
    | nil => exact .inr ⟨[], [], rfl, rfl, by simp⟩
    | cons p ps => exact .inl ⟨by simp, rfl⟩
  | cons c cs ih =>
    by_cases initial : part <+: c :: cs
    · obtain ⟨rest, same⟩ := initial
      refine .inr ⟨[], rest, same.symm, ?_, by simp⟩
      rw [removeFirst_of_initial ⟨rest, same⟩, ← same, List.drop_left, List.nil_append]
    have later : removeFirst part (c :: cs) = c :: removeFirst part cs := by
      rw [removeFirst, strip?_eq_none_iff.2 initial]
    rw [later, List.infix_cons_iff]
    rcases ih with ⟨absent, same⟩ | ⟨before, after, split, same, first⟩
    · exact .inl ⟨not_or.2 ⟨initial, absent⟩, by rw [same]⟩
    · refine .inr ⟨c :: before, after, by rw [split, List.cons_append], by rw [same, List.cons_append], ?_⟩
      rintro (_ | ⟨d, other⟩) occurs
      · exact absurd occurs initial
      · exact Nat.succ_le_succ (first other (List.cons_prefix_cons.1 occurs).2)

end Text

namespace Proxy

open Kubernetes (Service)

/-- What the name of a service begins with that belongs to a release. -/
def releaseMark (release : String) : List Char := (release ++ "-").toList

/-- The name of the application by the rule: the `app` label, or else what follows the release and a dash at the
beginning of the service's name, or else that name. -/
def nameAfterRelease (service : Service) : String :=
  let name := service.metadata.nameAny
  match givenLabel? service Labels.app, givenLabel? service Labels.release with
  | some app, _ => app
  | none, some release => ((Text.strip? (releaseMark release) name.toList).map String.ofList).getD name
  | none, none => name

/-- The release of a service that has no `app` label. -/
def release? (service : Service) : Option String :=
  match givenLabel? service Labels.app with
  | some _ => none
  | none => givenLabel? service Labels.release

variable {service : Service} {release : String}

theorem appName_of_release? (given : release? service = some release) :
    appName service = String.ofList (Text.removeFirst (releaseMark release) service.metadata.nameAny.toList) := by
  unfold release? at given
  unfold appName
  cases label : givenLabel? service Labels.app with
  | some app => simp [label] at given
  | none =>
    rw [label] at given
    simp only [given, releaseMark]

theorem nameAfterRelease_of_release? (given : release? service = some release) :
    nameAfterRelease service =
      ((Text.strip? (releaseMark release) service.metadata.nameAny.toList).map String.ofList).getD
        service.metadata.nameAny := by
  unfold release? at given
  unfold nameAfterRelease
  cases label : givenLabel? service Labels.app with
  | some app => simp [label] at given
  | none =>
    rw [label] at given
    simp only [given]

theorem appName_of_release?_eq_none (none : release? service = none) : appName service = nameAfterRelease service := by
  unfold release? at none
  unfold appName nameAfterRelease
  split at none
  · rename_i label
    simp only [label]
  · rename_i label
    simp only [label, none]

theorem releaseMark_ne_nil (release : String) : releaseMark release ≠ [] := by
  simp [releaseMark]

/-- **The rule is kept unless the release is found further inside the name only.**  Then the first occurrence of it is
taken out of the name. -/
theorem app_name_keeps_rule_iff (service : Service) :
    (appName service = nameAfterRelease service ↔
      ∀ release, release? service = some release → releaseMark release <:+: service.metadata.nameAny.toList →
        releaseMark release <+: service.metadata.nameAny.toList) ∧
    ∀ release, release? service = some release → releaseMark release <:+: service.metadata.nameAny.toList →
      ∃ before after, service.metadata.nameAny.toList = before ++ (releaseMark release ++ after) ∧
        appName service = String.ofList (before ++ after) ∧
        ∀ other, other ++ releaseMark release <+: service.metadata.nameAny.toList → before.length ≤ other.length := by
  generalize named : service.metadata.nameAny.toList = name
  cases given : release? service with
  | none => exact ⟨iff_of_true (appName_of_release?_eq_none given) nofun, nofun⟩
  | some release =>
    have taken := appName_of_release? given
    have kept := nameAfterRelease_of_release? given
    rw [named] at taken kept
    simp only [Option.some.injEq, forall_eq']
    rcases Text.removeFirst_eq (releaseMark release) name with ⟨absent, same⟩ | ⟨before, after, split, same, first⟩
    · refine ⟨iff_of_true ?_ fun occurs => absurd occurs absent, fun occurs => absurd occurs absent⟩
      have none := Text.strip?_eq_none_iff.2 fun initial => absent initial.isInfix
      rw [taken, kept, same, none, ← named, String.ofList_toList]
      rfl
    · rw [same] at taken
      have occurs : releaseMark release <:+: name := ⟨before, after, by rw [split, List.append_assoc]⟩
      refine ⟨?_, fun _ => ⟨before, after, split, taken, first⟩⟩
      by_cases initial : releaseMark release <+: name
      · obtain ⟨rest, rfl⟩ := initial
        refine iff_of_true ?_ fun _ => ⟨rest, rfl⟩
        rw [taken, kept, ← same, Text.removeFirst_of_initial ⟨rest, rfl⟩, List.drop_left,
          Text.strip?_eq_some_iff.2 rfl]
        rfl
      · refine iff_of_false (fun agree => ?_) fun only => initial (only occurs)
        rw [taken, kept, Text.strip?_eq_none_iff.2 initial] at agree
        -- What is taken out makes the name shorter.
        have longer := congrArg (fun text => text.toList.length) agree
        simp only [Option.map_none, Option.getD_none, String.toList_ofList, named, split, List.length_append] at longer
        have := List.length_pos_iff.2 (releaseMark_ne_nil release)
        omega

/-- A service whose name holds its release further inside. -/
def innerRelease : Service where
  metadata := { name := some "my-jx-jenkins", labels := some (.ofList [(Labels.release, "jx")]) }

/-- By the rule such a name stays as it is; the release is taken out of it all the same. -/
theorem inner_release_taken_out :
    nameAfterRelease innerRelease = "my-jx-jenkins" ∧ appName innerRelease = "my-jenkins" := by
  decide

theorem inner_release_breaks_rule :
    release? innerRelease = some "jx" ∧ releaseMark "jx" <:+: innerRelease.metadata.nameAny.toList ∧
      appName innerRelease ≠ nameAfterRelease innerRelease := by
  have given : release? innerRelease = some "jx" := by decide
  have occurs : releaseMark "jx" <:+: innerRelease.metadata.nameAny.toList :=
    ⟨"my-".toList, "jenkins".toList, by decide⟩
  have inside : ¬releaseMark "jx" <+: innerRelease.metadata.nameAny.toList := by decide
  refine ⟨given, occurs, fun agree => inside ?_⟩
  exact (app_name_keeps_rule_iff innerRelease).1.1 agree "jx" given occurs

end Proxy
end SignOnOperator
