import SignOnOperator.Kubernetes.Metadata
import SignOnOperator.Proofs.Moments
import SignOnOperator.Proofs.NormalForms
/-!
# Metadata written and read

Metadata that were read are written as their normal form.
-/
namespace SignOnOperator

variable {α : Type} {name : String} {j n v : Json}

/-! ## Members written as they were read -/

namespace Json

theorem textMembers_textMap (m : KeyMap String) : (textMap m).textMembers = m := by
  have texts : ((m.map Json.str).entries.filterMap fun e => e.2.str?.map fun s => (e.1, s)) = m.entries := by
    simp [KeyMap.map, List.filterMap_map, str?]
  rw [textMembers, textMap, members, obj?, Option.getD_some, texts, KeyMap.ofList_entries]

end Json

namespace Shape

theorem textMap_textMembers (settled : (map text).Settled v) : Json.textMap v.textMembers = v := by
  obtain ⟨m, rfl, each⟩ : text.IsMap v := isMap_of_read (P := fun _ => True) .text (fun _ _ => trivial) settled
  have texts : (m.map Json.text).map .str = m := by
    refine KeyMap.ext ((List.map_map ..).trans ((List.map_congr_left fun (name, v) mem => ?_).trans (List.map_id _)))
    obtain ⟨s, same⟩ := settled_text.1 (each _ mem)
    cases same
    rfl
  rw [← texts]
  exact congrArg Json.textMap (Json.textMembers_textMap _)

theorem map_filterMap_str? : ∀ {items : List Json}, (∀ i ∈ items, text.Settled i) →
    (items.filterMap Json.str?).map .str = items
  | [], _ => rfl
  | i :: rest, each => by
    obtain ⟨first, later⟩ := List.forall_mem_cons.1 each
    obtain ⟨s, rfl⟩ := settled_text.1 first
    exact congrArg (.str s :: ·) (map_filterMap_str? later)

theorem strings_texts (settled : (list text).Settled v) : Json.strings v.texts = v := by
  obtain ⟨items, rfl, each⟩ := settled_list.1 settled
  exact congrArg Json.arr (map_filterMap_str? each)

theorem arr_items {item : Shape} (settled : (list item).Settled v) : .arr v.items = v := by
  obtain ⟨items, rfl, -⟩ := settled_list.1 settled
  rfl

theorem arr_map_items {item : Shape} {read : Json → α} {write : α → Json} (settled : (list item).Settled v)
    (same : ∀ i, item.Settled i → write (read i) = i) : .arr ((v.items.map read).map write) = v := by
  obtain ⟨items, rfl, each⟩ := settled_list.1 settled
  refine congrArg Json.arr ((List.map_map ..).trans ?_)
  exact (List.map_congr_left fun i mem => same i (each i mem)).trans (List.map_id _)

end Shape

/-! ## Points in time -/

/-- The point in time that a text stands for, if there is one, lies in the years 0 to 9999. -/
def Timestamp.InYears (text : String) : Prop := ∀ t, Timestamp.parse text = .ok t → 0 ≤ t.year ∧ t.year ≤ 9999

theorem Timestamp.inYears_of_parse {text : String} {t : Timestamp.Moment} (read : Timestamp.parse text = .ok t)
    (within : 0 ≤ t.year ∧ t.year ≤ 9999) : Timestamp.InYears text := fun _ read' => by
  cases read.symm.trans read'
  exact within

namespace Kubernetes

open Shapes (optional required timestamp managedFieldsEntry ownerReference objectMeta)

theorem timestamp_settles : timestamp.Settles fun j => ∀ text, j = .str text → Timestamp.InYears text :=
  .formatted fun s given _ known => Timestamp.normal_of_normal known (given s rfl)

/-! ## Records -/

theorem managedFieldsEntry_settles : managedFieldsEntry.Settles fun j =>
    ∀ m ∈ j.members, m.1 = "time" → ∀ text, m.2 = .str text → Timestamp.InYears text := by
  refine .lenient (P := fun name v => name = "time" → ∀ text, v = .str text → Timestamp.InYears text) (by decide) ?_
  simp only [List.forall_mem_cons]
  exact ⟨.optional .text, .optional .text, .optional .anything, .optional .text, .optional .text, .optional .text,
    .optional (timestamp_settles.mono fun _ given => given rfl), nofun⟩

/-- An owner that was read is written as it was read, and read again as it was written. -/
theorem OwnerReference.toJson_ofJson_of_read (read : ownerReference.read (.ofJson j) = .ok n) :
    ownerReference.Settled n ∧ (OwnerReference.ofJson n).toJson = n := by
  have isRecord : Shape.IsRecord _ n := Shape.isRecord_of_read (P := fun _ _ => True) read (by decide)
    (by
      simp only [List.forall_mem_cons]
      exact ⟨.requiredText, .optional .boolean, .optional .boolean, .requiredText, .requiredText, .requiredText, nofun⟩)
    fun _ _ => trivial
  refine ⟨isRecord.settled_lenient (by decide), Eq.symm (isRecord.eq_of_restores (by decide) ?_)⟩
  have isBoolean : ∀ v, Shape.boolean.Settled v → ∃ b, v = .bool b := fun _ => Shape.settled_boolean.1
  exact .cons .requiredText <| .cons (.someBoolean isBoolean) <| .cons (.someBoolean isBoolean) <|
    .cons .requiredText <| .cons .requiredText <| .cons .requiredText .nil

namespace ObjectMeta

/-- A text that metadata give as a point in time. -/
inductive GivesTime (text : String) : Json → Prop
  | creation {members : List (String × Json)} (mem : ("creationTimestamp", .str text) ∈ members) :
    GivesTime text (.obj members)
  | deletion {members : List (String × Json)} (mem : ("deletionTimestamp", .str text) ∈ members) :
    GivesTime text (.obj members)
  | management {members fields : List (String × Json)} {entries : List Json}
    (mem : ("managedFields", .arr entries) ∈ members) (entry : .obj fields ∈ entries)
    (time : ("time", .str text) ∈ fields) : GivesTime text (.obj members)

variable {text : String} {m : String × Json} {entry : Json}

theorem GivesTime.of_mem (given : GivesTime text (.obj [m])) (mem : m ∈ j.members) : GivesTime text j := by
  cases j with
  | obj members =>
    cases given with
    | creation here => exact .creation (List.mem_singleton.1 here ▸ mem)
    | deletion here => exact .deletion (List.mem_singleton.1 here ▸ mem)
    | management here entry time => exact .management (List.mem_singleton.1 here ▸ mem) entry time
  | _ => cases mem

theorem GivesTime.of_entry (isEntry : entry ∈ j.items) (time : ("time", .str text) ∈ entry.members) :
    GivesTime text (.obj [("managedFields", j)]) := by
  cases j with
  | arr entries =>
    cases entry with
    | obj fields => exact .management List.mem_cons_self isEntry time
    | _ => cases time
  | _ => cases isEntry

/-- Metadata that were read are written as they were read, and read again as they were written. -/
theorem toJson_ofJson_of_read (read : objectMeta.read (.ofJson j) = .ok n)
    (inYears : ∀ text, GivesTime text j → Timestamp.InYears text) :
    objectMeta.Settled n ∧ (ObjectMeta.ofJson n).toJson = n := by
  have isRecord : Shape.IsRecord _ n := Shape.isRecord_of_read
    (P := fun name v => ∀ text, GivesTime text (.obj [(name, v)]) → Timestamp.InYears text) read (by decide)
    (by
      have texts {P : Json → Prop} : (Shape.map .text).Settles P :=
        (Shape.Settles.map (P := fun _ => True) .text).mono fun _ _ _ _ => trivial
      have finalizers {P : Json → Prop} : (Shape.list .text).Settles P :=
        (Shape.Settles.list (P := fun _ => True) .text).mono fun _ _ _ _ => trivial
      have owners {P : Json → Prop} : (Shape.list ownerReference).Settles P :=
        (Shape.Settles.list (P := fun _ => True) fun _ _ _ read =>
          (OwnerReference.toJson_ofJson_of_read read).1).mono fun _ _ _ _ => trivial
      simp only [List.forall_mem_cons]
      refine ⟨.optional texts, .optional (timestamp_settles.mono fun j given text same => ?_), .optional .integer,
        .optional (timestamp_settles.mono fun j given text same => ?_), .optional finalizers, .optional .text,
        .optional .integer, .optional texts, .optional (managedFieldsEntry_settles.list.mono ?_), .optional .text,
        .optional .text, .optional owners, .optional .text, .optional .text, .optional .text, nofun⟩
      · exact given text (.creation (List.mem_singleton.2 (same ▸ rfl)))
      · exact given text (.deletion (List.mem_singleton.2 (same ▸ rfl)))
      · rintro j given entry isEntry ⟨name, v⟩ isMember rfl text rfl
        exact given text (.of_entry isEntry isMember))
    fun m mem text given => inYears text (given.of_mem mem)
  refine ⟨isRecord.settled_lenient (by decide), Eq.symm (isRecord.eq_of_restores (by decide) ?_)⟩
  have isText : ∀ v, Shape.text.Settled v → ∃ s, v = .str s := fun _ => Shape.settled_text.1
  exact .cons (.whole fun _ => Shape.textMap_textMembers) <| .cons (.someText fun _ => Shape.exists_str_of_settled) <|
    .cons (.someInteger fun _ => Shape.exists_int_of_settled) <|
    .cons (.someText fun _ => Shape.exists_str_of_settled) <| .cons (.whole fun _ => Shape.strings_texts) <|
    .cons (.someText isText) <|
    .cons (.someInteger fun _ => Shape.exists_int_of_settled) <| .cons (.whole fun _ => Shape.textMap_textMembers) <|
    .cons (.whole fun _ => Shape.arr_items) <| .cons (.someText isText) <| .cons (.someText isText) <|
    .cons (.whole fun _ settled => Shape.arr_map_items settled fun _ read =>
      (OwnerReference.toJson_ofJson_of_read read).2) <|
    .cons (.someText isText) <| .cons (.someText isText) <| .cons (.someText isText) .nil

/-- Reading what is written of the metadata gives them back. -/
def Survives (m : ObjectMeta) : Prop := (objectMeta.ofJson m.toJson).map ObjectMeta.ofJson = .ok m

/-- **Metadata that were read survive.** -/
theorem survives_of_read (read : objectMeta.read (.ofJson j) = .ok n)
    (inYears : ∀ text, GivesTime text j → Timestamp.InYears text) : (ObjectMeta.ofJson n).Survives := by
  obtain ⟨settled, same⟩ := toJson_ofJson_of_read read inYears
  rw [Survives, same, Shape.ofJson, settled]
  rfl

end ObjectMeta

end Kubernetes
end SignOnOperator
