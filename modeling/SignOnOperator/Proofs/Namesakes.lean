import SignOnOperator.Exposure.Manifests
import SignOnOperator.Proofs.Joining
import SignOnOperator.Proxy.Bundle
/-!
# Namesakes

When the objects of two SSOs of one namespace have the same names.  Names that fit are told apart by their whole
length, and names that are cut by what is left of them.  With a namespace of more than half the room both parts of a
deployment's name may be cut, and a dash within one may stand where the two parts of the other one meet.
-/
namespace SignOnOperator

namespace Naming

variable {a b s front back front' back' : List Char}

/-! ## Where joined names coincide -/

/-- A part of at most half the room is kept whole beside any other. -/
theorem truncate_roomBeside_of_short (hs : IsLabel s) (short : s.length ≤ 31) (other : Nat) :
    truncate s (roomBeside other) = s := by
  refine truncate_of_length_le hs.last ?_
  unfold roomBeside maxLength
  omega

theorem joinFragments_eq_iff_of_short (ha : IsLabel a) (hb : IsLabel b) (hs : IsLabel s) (short : s.length ≤ 31) :
    joinFragments a s = joinFragments b s ↔ truncate a (62 - s.length) = truncate b (62 - s.length) := by
  have room : roomBeside s.length = 62 - s.length := by
    unfold roomBeside maxLength
    omega
  rw [joinFragments_eq ha hs, joinFragments_eq hb hs, truncate_roomBeside_of_short hs short,
    truncate_roomBeside_of_short hs short, room]
  exact List.append_left_inj _

/-- The second name is longer in front, and what is more there is what the first one has more at the back. -/
def Straddles (front back front' back' : List Char) : Prop :=
  ∃ between, front' = front ++ '-' :: between ∧ back = between ++ '-' :: back'

/-- Two texts with a dash in each are the same if they are cut there alike, or one of them at an earlier dash. -/
theorem append_dash_eq_iff :
    front ++ '-' :: back = front' ++ '-' :: back' ↔
      front = front' ∧ back = back' ∨ Straddles front back front' back' ∨ Straddles front' back' front back := by
  constructor
  · intro same
    rcases List.append_eq_append_iff.1 same with ⟨more, longer, rest⟩ | ⟨more, longer, rest⟩
    · cases more with
      | nil =>
        rw [List.append_nil] at longer
        exact .inl ⟨longer.symm, (List.cons.inj rest).2⟩
      | cons c between =>
        obtain ⟨rfl, beyond⟩ := List.cons.inj rest
        exact .inr (.inl ⟨between, longer, beyond⟩)
    · cases more with
      | nil =>
        rw [List.append_nil] at longer
        exact .inl ⟨longer, (List.cons.inj rest).2.symm⟩
      | cons c between =>
        obtain ⟨rfl, beyond⟩ := List.cons.inj rest
        exact .inr (.inr ⟨between, longer, beyond⟩)
  · rintro (⟨rfl, rfl⟩ | ⟨between, rfl, rfl⟩ | ⟨between, rfl, rfl⟩)
    · rfl
    · rw [List.append_assoc]
      rfl
    · rw [List.append_assoc]
      rfl

theorem joinFragments_eq_iff_of_long (ha : IsLabel a) (hb : IsLabel b) (hs : IsLabel s) (long : 31 < s.length) :
    joinFragments a s = joinFragments b s ↔
      let back (name : List Char) := truncate s (62 - min name.length 31)
      truncate a 31 = truncate b 31 ∧ back a = back b ∨ Straddles (truncate a 31) (back a) (truncate b 31) (back b) ∨
        Straddles (truncate b 31) (back b) (truncate a 31) (back a) := by
  have room : roomBeside s.length = 31 := by
    unfold roomBeside maxLength
    omega
  rw [joinFragments_eq ha hs, joinFragments_eq hb hs, room]
  exact append_dash_eq_iff

theorem joinFragments_of_fit (ha : IsLabel a) (hs : IsLabel s) (fits : a.length + s.length + 1 ≤ 63) :
    joinFragments a s = a ++ '-' :: s := by
  unfold joinFragments
  rw [ha.byteCount, hs.byteCount]
  exact if_pos fits

theorem buildName_eq_iff {base base' suffix : String} :
    buildName base suffix = buildName base' suffix ↔
      joinFragments base.toList suffix.toList = joinFragments base'.toList suffix.toList := by
  rw [← String.toList_inj, toList_buildName, toList_buildName]

theorem buildName_ne_of_fit {base base' suffix : String} (hb : IsLabel base.toList) (hb' : IsLabel base'.toList)
    (hs : IsLabel suffix.toList) (distinct : base ≠ base') (fits : base.length + suffix.length + 1 ≤ 63)
    (fits' : base'.length + suffix.length + 1 ≤ 63) : buildName base suffix ≠ buildName base' suffix := by
  intro same
  rw [buildName_eq_iff, joinFragments_of_fit hb hs fits, joinFragments_of_fit hb' hs fits'] at same
  exact distinct (String.toList_inj.1 (List.append_left_injective _ same))

end Naming

open Naming

variable {a b : Sso} {ns : String}

/-! ## The objects of two SSOs -/

theorem Exposure.Mode.isLabel_name (mode : Exposure.Mode) : IsLabel mode.name.toList ∧ mode.name.length ≤ 7 := by
  cases mode with
  | expose => decide +kernel
  | cleanup => decide +kernel

theorem isLabel_deploymentName (ha : IsLabel a.name.toList) (hns : IsLabel ns.toList) :
    IsLabel (Proxy.deploymentName a ns).toList := by
  unfold Proxy.deploymentName
  rw [toList_buildName]
  exact ha.joinFragments hns

theorem length_deploymentName (ha : IsLabel a.name.toList) (hns : IsLabel ns.toList)
    (fits : a.name.length + ns.length + 1 ≤ 63) :
    (Proxy.deploymentName a ns).length = a.name.length + ns.length + 1 := by
  unfold Proxy.deploymentName
  rw [← String.length_toList, toList_buildName, joinFragments_of_fit ha hns fits, List.length_append, List.length_cons,
    String.length_toList, String.length_toList, Nat.add_assoc]

/-- **When two SSOs of a namespace share an object.**  Secrets and configurations are shared by SSOs whose names agree
in as much as is left beside the suffix, deployments by those whose names agree in as much as the namespace leaves, and
jobs by those of whose deployments' names as much agrees as the mode leaves.  Beside a namespace of more than 31
characters a deployment's name has two parts that may both be cut, and two such names are the same also if one of them
is cut at an earlier dash. -/
theorem shared_names_iff (ha : IsLabel a.name.toList) (hb : IsLabel b.name.toList) (hns : IsLabel ns.toList) :
    (Proxy.secretName a = Proxy.secretName b ↔ truncate a.name.toList 50 = truncate b.name.toList 50) ∧
    (Exposure.configMapName a = Exposure.configMapName b ↔ truncate a.name.toList 49 = truncate b.name.toList 49) ∧
    (ns.length ≤ 31 →
      (Proxy.deploymentName a ns = Proxy.deploymentName b ns ↔
        truncate a.name.toList (62 - ns.length) = truncate b.name.toList (62 - ns.length))) ∧
    (31 < ns.length →
      (Proxy.deploymentName a ns = Proxy.deploymentName b ns ↔
        let front (sso : Sso) := truncate sso.name.toList 31
        let back (sso : Sso) := truncate ns.toList (62 - min sso.name.length 31)
        front a = front b ∧ back a = back b ∨ Straddles (front a) (back a) (front b) (back b) ∨
          Straddles (front b) (back b) (front a) (back a))) ∧
    ∀ mode, (Exposure.jobName a ns mode = Exposure.jobName b ns mode ↔
      truncate (Proxy.deploymentName a ns).toList (62 - mode.name.length) =
        truncate (Proxy.deploymentName b ns).toList (62 - mode.name.length)) := by
  refine ⟨?_, ?_, fun short => ?_, fun long => ?_, fun mode => ?_⟩
  · exact buildName_eq_iff.trans (joinFragments_eq_iff_of_short ha hb (by decide +kernel) (by decide +kernel))
  · exact buildName_eq_iff.trans (joinFragments_eq_iff_of_short ha hb (by decide +kernel) (by decide +kernel))
  · exact buildName_eq_iff.trans (joinFragments_eq_iff_of_short ha hb hns short)
  · exact buildName_eq_iff.trans (joinFragments_eq_iff_of_long ha hb hns long)
  · have ⟨label, short⟩ := mode.isLabel_name
    exact buildName_eq_iff.trans (joinFragments_eq_iff_of_short (isLabel_deploymentName ha hns)
      (isLabel_deploymentName hb hns) label (short.trans (by decide)))

/-- Names that nothing has to be cut off are told apart in all their objects. -/
theorem objects_distinct_of_fit (ha : IsLabel a.name.toList) (hb : IsLabel b.name.toList) (hns : IsLabel ns.toList)
    (distinct : a.name ≠ b.name) (shortA : a.name.length ≤ 49) (shortB : b.name.length ≤ 49)
    (fitsA : a.name.length + ns.length ≤ 54) (fitsB : b.name.length + ns.length ≤ 54) :
    Proxy.secretName a ≠ Proxy.secretName b ∧ Exposure.configMapName a ≠ Exposure.configMapName b ∧
      Proxy.deploymentName a ns ≠ Proxy.deploymentName b ns ∧
        ∀ mode, Exposure.jobName a ns mode ≠ Exposure.jobName b ns mode := by
  have deployments : Proxy.deploymentName a ns ≠ Proxy.deploymentName b ns :=
    buildName_ne_of_fit ha hb hns distinct (by omega) (by omega)
  have secret : "proxy-config".length = 12 := by decide +kernel
  have config : "expose-config".length = 13 := by decide +kernel
  refine ⟨?_, ?_, deployments, fun mode => ?_⟩
  · exact buildName_ne_of_fit ha hb (by decide +kernel) distinct (by omega) (by omega)
  · exact buildName_ne_of_fit ha hb (by decide +kernel) distinct (by omega) (by omega)
  · have lengthA := length_deploymentName ha hns (by omega)
    have lengthB := length_deploymentName hb hns (by omega)
    have ⟨label, short⟩ := mode.isLabel_name
    show buildName (Proxy.deploymentName a ns) mode.name ≠ buildName (Proxy.deploymentName b ns) mode.name
    exact buildName_ne_of_fit (isLabel_deploymentName ha hns) (isLabel_deploymentName hb hns) label deployments
      (by omega) (by omega)

/-- An SSO of the namespace jx with this name. -/
def named (name : List Char) : Sso where
  metadata := { name := some (String.ofList name), namespaceName := some "jx" }
  spec := { oidcIssuerUrl := "https://dex", upstreamService := "web", proxyImage := "proxy", proxyImageTag := "1" }

theorem toList_named (name : List Char) : (named name).name.toList = name := String.toList_ofList

theorem named_of_greatest {name : List Char} (label : IsLabel name) (greatest : name.length = 63) :
    IsLabel (named name).name.toList ∧ (named name).name.length = 63 := by
  rw [← String.length_toList, toList_named]
  exact ⟨label, greatest⟩

/-- A name of the greatest length, of which the first character is given. -/
def headName (first : Char) : List Char := first :: List.replicate 62 'c'

def longNamespace : String := String.ofList (List.replicate 63 'n')

theorem toList_deploymentName_headName (first : Char) :
    (Proxy.deploymentName (named (headName first)) longNamespace).toList =
      joinFragments (headName first) (List.replicate 63 'n') := by
  unfold Proxy.deploymentName longNamespace
  rw [toList_buildName, toList_named, String.toList_ofList]

/-- All names are cut, those of the deployments in both of their parts, and differ in what is left. -/
theorem cut_names_apart :
    let a := named (headName 'a')
    let b := named (headName 'b')
    (IsLabel a.name.toList ∧ a.name.length = 63) ∧ (IsLabel b.name.toList ∧ b.name.length = 63) ∧
      (IsLabel longNamespace.toList ∧ 31 < longNamespace.length) ∧
      Proxy.secretName a ≠ Proxy.secretName b ∧ Exposure.configMapName a ≠ Exposure.configMapName b ∧
        Proxy.deploymentName a longNamespace ≠ Proxy.deploymentName b longNamespace ∧
          ∀ mode, Exposure.jobName a longNamespace mode ≠ Exposure.jobName b longNamespace mode := by
  have first := @named_of_greatest (headName 'a') (by decide +kernel) rfl
  have second := @named_of_greatest (headName 'b') (by decide +kernel) rfl
  have ns : IsLabel longNamespace.toList := String.toList_ofList ▸ by decide +kernel
  have long : 31 < longNamespace.length := by decide +kernel
  obtain ⟨secrets, configs, -, deployments, jobs⟩ := shared_names_iff first.1 second.1 ns
  refine ⟨first, second, ⟨ns, long⟩, fun same => ?_, fun same => ?_, fun same => ?_, fun mode same => ?_⟩
  · have left := secrets.1 same
    rw [toList_named, toList_named] at left
    exact absurd left (by decide +kernel)
  · have left := configs.1 same
    rw [toList_named, toList_named] at left
    exact absurd left (by decide +kernel)
  · have front : truncate (headName 'a') 31 = 'a' :: List.replicate 30 'c' := by decide +kernel
    have front' : truncate (headName 'b') 31 = 'b' :: List.replicate 30 'c' := by decide +kernel
    have left := (deployments long).1 same
    dsimp only at left
    rw [toList_named, toList_named, front, front'] at left
    rcases left with ⟨alike, -⟩ | ⟨_, longer, -⟩ | ⟨_, longer, -⟩
    · exact absurd (List.cons.inj alike).1 (by decide)
    · exact absurd (List.cons.inj longer).1 (by decide)
    · exact absurd (List.cons.inj longer).1 (by decide)
  · have left := (jobs mode).1 same
    rw [toList_deploymentName_headName, toList_deploymentName_headName] at left
    cases mode with
    | expose => exact absurd left (by decide +kernel)
    | cleanup => exact absurd left (by decide +kernel)

/-! ## A pair that shares everything -/

/-- A name of the greatest length, of which the last character is given. -/
def longName (last : Char) : List Char := List.replicate 62 'a' ++ [last]

theorem buildName_longName {suffix : String}
    (cut : joinFragments (longName 'a') suffix.toList = joinFragments (longName 'b') suffix.toList) :
    buildName (named (longName 'a')).name suffix = buildName (named (longName 'b')).name suffix := by
  rw [buildName_eq_iff, toList_named, toList_named]
  exact cut

theorem long_names_share_objects :
    let a := named (longName 'a')
    let b := named (longName 'b')
    (IsLabel a.name.toList ∧ a.name.length = 63) ∧ (IsLabel b.name.toList ∧ b.name.length = 63) ∧ a.name ≠ b.name ∧
      Proxy.secretName a = Proxy.secretName b ∧ Exposure.configMapName a = Exposure.configMapName b ∧
        Proxy.deploymentName a "jx" = Proxy.deploymentName b "jx" ∧
          ∀ mode, Exposure.jobName a "jx" mode = Exposure.jobName b "jx" mode := by
  have deployments :
      Proxy.deploymentName (named (longName 'a')) "jx" = Proxy.deploymentName (named (longName 'b')) "jx" :=
    buildName_longName (by decide +kernel)
  refine ⟨named_of_greatest (by decide +kernel) rfl, named_of_greatest (by decide +kernel) rfl, fun same => ?_,
    buildName_longName (by decide +kernel), buildName_longName (by decide +kernel), deployments,
    fun mode => congrArg (buildName · mode.name) deployments⟩
  have lists := String.toList_inj.2 same
  rw [toList_named, toList_named] at lists
  exact absurd lists (by decide +kernel)

end SignOnOperator
