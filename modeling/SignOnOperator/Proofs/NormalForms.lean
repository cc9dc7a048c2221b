import Mathlib.Data.List.Forall2
import SignOnOperator.Json.Shape
import SignOnOperator.Proofs.Members
import SignOnOperator.Proofs.Success
/-!
# Normal forms

What a shape reads it puts into a normal form.  A value is *settled* for a shape if it is its own normal form
(`Shape.Settled`), and a shape *settles* values if the normal forms of these are settled (`Shape.Settles`).  There is
one rule for each way of building a shape.  The normal form of a lenient record holds a settled value for each of its
fields that is there (`Shape.IsRecord`), and a type of records writes what it has read if it does so field by field
(`Shape.Field.Restores`).
-/
namespace SignOnOperator

variable {α : Type} {name : String} {a : α} {j n v : Json} {members : List (String × Json)}

namespace Shape

variable {shape item value : Shape} {P Q : Json → Prop} {found found' : KeyMap Json} {fields : List Field}

/-- The value is its own normal form. -/
def Settled (shape : Shape) (j : Json) : Prop := shape.read (.ofJson j) = .ok j

/-- The normal forms of such values are their own. -/
def Settles (shape : Shape) (P : Json → Prop) : Prop := ∀ j n, P j → shape.read (.ofJson j) = .ok n → shape.Settled n

theorem Settles.mono (settles : shape.Settles P) (weaker : ∀ j, Q j → P j) : shape.Settles Q :=
  fun j n given => settles j n (weaker j given)

/-! ## Texts, truth values and numbers -/

theorem settled_text : text.Settled j ↔ ∃ s, j = .str s := by
  refine ⟨fun settled => ?_, fun ⟨s, same⟩ => same ▸ rfl⟩
  cases j with
  | str s => exact ⟨s, rfl⟩
  | _ => cases settled

theorem settled_boolean : boolean.Settled j ↔ ∃ b, j = .bool b := by
  refine ⟨fun settled => ?_, fun ⟨b, same⟩ => same ▸ rfl⟩
  cases j with
  | bool b => exact ⟨b, rfl⟩
  | _ => cases settled

/-- A settled whole number, within bounds or not. -/
theorem exists_int_of_settled {record : String} {low high : Int} (settled : (integer record low high).Settled j) :
    ∃ i, j = .int i := by
  cases j with
  | int i => exact ⟨i, rfl⟩
  | _ => cases settled

theorem exists_str_of_settled {expected blank : String} {normal : String → Except String String}
    (settled : (formatted expected blank normal).Settled j) : ∃ s, j = .str s := by
  cases j with
  | str s => exact ⟨s, rfl⟩
  | _ => cases settled

namespace Settles

theorem text : text.Settles P := by
  intro j n _ read
  cases j with
  | str s =>
    cases read
    rfl
  | _ => cases read

theorem boolean : boolean.Settles P := by
  intro j n _ read
  cases j with
  | bool b =>
    cases read
    rfl
  | _ => cases read

theorem integer {record : String} {low high : Int} : (integer record low high).Settles P := by
  intro j n _ read
  cases j with
  | int i =>
    simp only [Shape.integer, Document.ofJson] at read
    split at read
    · rename_i within
      cases read
      exact if_pos within
    · cases read
  | _ => cases read

theorem formatted {expected blank : String} {normal : String → Except String String}
    (stable : ∀ s, P (.str s) → ∀ form, normal s = .ok form → normal form = .ok form) :
    (formatted expected blank normal).Settles P := by
  intro j n given read
  cases j with
  | str s =>
    simp only [Shape.formatted, Document.ofJson] at read
    split at read
    · rename_i form known
      cases read
      simp [Settled, Shape.formatted, Document.ofJson, stable s given form known]
    · cases read
  | _ => cases read

end Settles

/-! ## Any values -/

theorem toMembers_ofMembers_of_settled : ∀ {members : List (String × Json)},
    (∀ m ∈ members, (Document.ofJson m.2).toJson = .ok m.2) →
    Document.toMembers (Document.ofMembers members) = .ok members
  | [], _ => rfl
  | (name, j) :: rest, each => by
    obtain ⟨first, later⟩ := List.forall_mem_cons.1 each
    rw [Document.ofMembers, Document.toMembers, first, toMembers_ofMembers_of_settled later]
    rfl

theorem toJson_ofJson_object (each : ∀ m ∈ members, (Document.ofJson m.2).toJson = .ok m.2) :
    (Document.ofJson (.object members)).toJson = .ok (.object members) := by
  have inOrder : ∀ m ∈ (KeyMap.ofList members).entries, (Document.ofJson m.2).toJson = .ok m.2 := fun m mem =>
    each m (KeyMap.mem_of_mem_ofList mem)
  -- Members that are in order stay as they are when they are put in order again.
  simp only [Json.object, Document.ofJson, Document.toJson, toMembers_ofMembers_of_settled inOrder,
    KeyMap.ofList_entries, bind, Except.bind]

mutual

/-- What is read from any value is read as itself.  By induction on the value, its items and its members. -/
theorem toJson_of_toJson_ofJson : ∀ {j n : Json}, (Document.ofJson j).toJson = .ok n →
    (Document.ofJson n).toJson = .ok n
  | .null, _, read | .bool _, _, read | .int _, _, read | .float _, _, read | .str _, _, read => by
    cases read
    rfl
  | .arr items, n, read => by
    obtain ⟨ns, each, rfl⟩ := Except.map_eq_ok_iff.1 read
    exact Except.map_eq_ok_iff.2 ⟨ns, toItems_of_toItems_ofItems each, rfl⟩
  | .obj members, n, read => by
    simp only [Document.ofJson, Document.toJson, Except.bind_eq_ok_iff] at read
    obtain ⟨ns, each, same⟩ := read
    cases same
    exact toJson_ofJson_object (settled_of_toMembers_ofMembers each)

theorem toItems_of_toItems_ofItems : ∀ {items ns : List Json}, Document.toItems (Document.ofItems items) = .ok ns →
    Document.toItems (Document.ofItems ns) = .ok ns
  | [], _, read => by
    cases read
    rfl
  | j :: rest, ns, read => by
    simp only [Document.ofItems, Document.toItems, Except.bind_eq_ok_iff] at read
    obtain ⟨n, first, ns, later, same⟩ := read
    cases same
    rw [Document.ofItems, Document.toItems, toJson_of_toJson_ofJson first, toItems_of_toItems_ofItems later]
    rfl

theorem settled_of_toMembers_ofMembers : ∀ {members ns : List (String × Json)},
    Document.toMembers (Document.ofMembers members) = .ok ns → ∀ m ∈ ns, (Document.ofJson m.2).toJson = .ok m.2
  | [], _, read => by
    cases read
    exact nofun
  | (name, j) :: rest, ns, read => by
    simp only [Document.ofMembers, Document.toMembers, Except.bind_eq_ok_iff] at read
    obtain ⟨n, first, ns, later, same⟩ := read
    cases same
    exact List.forall_mem_cons.2 ⟨toJson_of_toJson_ofJson first, settled_of_toMembers_ofMembers later⟩

end

theorem Settles.anything : anything.Settles P := fun _ _ _ read => toJson_of_toJson_ofJson read

/-! ## Lists -/

theorem readItems_ofItems_iff {read : Document → Except Fault Json} : ∀ {items ns : List Json},
    readItems read (Document.ofItems items) = .ok ns ↔ List.Forall₂ (fun j n => read (.ofJson j) = .ok n) items ns
  | [], ns => by
    rw [List.forall₂_nil_left_iff, Document.ofItems, readItems, Except.ok.injEq, eq_comm]
  | j :: rest, ns => by
    simp only [Document.ofItems, readItems, Except.bind_eq_ok_iff, readItems_ofItems_iff]
    constructor
    · rintro ⟨n, first, ns, later, same⟩
      cases same
      exact .cons first later
    · rintro (_ | ⟨first, later⟩)
      exact ⟨_, first, _, later, rfl⟩

theorem exists_of_forall₂_right {β : Type} {R : α → β → Prop} {l : List α} {l' : List β} (all : List.Forall₂ R l l') :
    ∀ b ∈ l', ∃ a ∈ l, R a b := by
  induction all with
  | nil => exact nofun
  | @cons a b l l' first later ih =>
    refine List.forall_mem_cons.2 ⟨⟨a, List.mem_cons_self, first⟩, fun b mem => ?_⟩
    obtain ⟨a, mem, related⟩ := ih b mem
    exact ⟨a, List.mem_cons_of_mem _ mem, related⟩

theorem settled_list : (list item).Settled j ↔ ∃ items, j = .arr items ∧ ∀ i ∈ items, item.Settled i := by
  constructor
  · intro settled
    cases j with
    | arr items =>
      obtain ⟨ns, each, same⟩ := Except.map_eq_ok_iff.1 settled
      cases same
      exact ⟨items, rfl, fun i mem => List.forall₂_same.1 (readItems_ofItems_iff.1 each) i mem⟩
    | _ => cases settled
  · rintro ⟨items, rfl, each⟩
    exact Except.map_eq_ok_iff.2 ⟨items, readItems_ofItems_iff.2 (List.forall₂_same.2 each), rfl⟩

theorem Settles.list (settles : item.Settles P) : (list item).Settles fun j => ∀ i ∈ j.items, P i := by
  intro j n given read
  cases j with
  | arr items =>
    obtain ⟨ns, each, rfl⟩ := Except.map_eq_ok_iff.1 read
    refine settled_list.2 ⟨ns, rfl, fun n mem => ?_⟩
    obtain ⟨j, mem, read⟩ := exists_of_forall₂_right (readItems_ofItems_iff.1 each) n mem
    exact settles j n (given j mem) read
  | _ => cases read

/-! ## Maps -/

theorem readValues_of_settled {read : Document → Except Fault Json} : ∀ {members : List (String × Json)}
    {found : KeyMap Json}, (∀ m ∈ members, read (.ofJson m.2) = .ok m.2) →
    readValues read (Document.ofMembers members) found = .ok (members.foldl (fun m e => m.insert e.1 e.2) found)
  | [], _, _ => rfl
  | (name, j) :: rest, found, each => by
    obtain ⟨first, later⟩ := List.forall_mem_cons.1 each
    rw [Document.ofMembers, readValues, first]
    exact readValues_of_settled later

/-- What is found was read from a member. -/
theorem exists_of_readValues {read : Document → Except Fault Json} : ∀ {members : List (String × Json)}
    {found found' : KeyMap Json}, readValues read (Document.ofMembers members) found = .ok found' →
    found'.get? name = some v → found.get? name = some v ∨ ∃ j, (name, j) ∈ members ∧ read (.ofJson j) = .ok v
  | [], _, _, all, here => by
    cases all
    exact .inl here
  | (name', j) :: rest, found, found', all, here => by
    simp only [Document.ofMembers, readValues, Except.bind_eq_ok_iff] at all
    obtain ⟨n, first, later⟩ := all
    rcases exists_of_readValues later here with before | ⟨j, mem, read⟩
    · rcases KeyMap.of_get?_insert before with ⟨rfl, rfl⟩ | before
      · exact .inr ⟨j, List.mem_cons_self, first⟩
      · exact .inl before
    · exact .inr ⟨j, List.mem_cons_of_mem _ mem, read⟩

/-- An object with settled values. -/
def IsMap (value : Shape) (n : Json) : Prop :=
  ∃ m : KeyMap Json, n = .obj m.entries ∧ ∀ e ∈ m.entries, value.Settled e.2

theorem IsMap.settled (isMap : value.IsMap n) : (map value).Settled n := by
  obtain ⟨m, rfl, each⟩ := isMap
  have all : readValues value.read (Document.ofMembers m.entries) .empty = .ok (KeyMap.ofList m.entries) :=
    readValues_of_settled each
  rw [KeyMap.ofList_entries] at all
  simp [Settled, map, Document.ofJson, all, bind, Except.bind, pure, Except.pure]

theorem isMap_of_read (settles : value.Settles P) (given : ∀ m ∈ j.members, P m.2)
    (read : (map value).read (.ofJson j) = .ok n) : value.IsMap n := by
  cases j with
  | obj members =>
    simp only [map, Document.ofJson, Except.bind_eq_ok_iff] at read
    obtain ⟨found, all, same⟩ := read
    cases same
    refine ⟨found, rfl, ?_⟩
    rintro ⟨name, v⟩ mem
    rcases exists_of_readValues all (KeyMap.get?_eq_some_iff.2 mem) with none | ⟨j, mem, read⟩
    · cases none
    · exact settles j v (given _ mem) read
  | _ => cases read

theorem Settles.map (settles : value.Settles P) : (map value).Settles fun j => ∀ m ∈ j.members, P m.2 :=
  fun _ _ given read => (isMap_of_read settles given read).settled

/-! ## Lenient records -/

/-- The normal form of a lenient record: it has settled members under the names of fields, and all required ones. -/
structure IsRecord (fields : List Field) (n : Json) : Prop where
  isMap : ∃ m : KeyMap Json, n = .obj m.entries
  known : ∀ name v, n.get? name = some v → ∃ field ∈ fields, field.name = name
  settled : ∀ field ∈ fields, ∀ v, n.get? field.name = some v → field.shape.Settled v ∧ v ≠ .null
  complete : ∀ field ∈ fields, field.required = true → ∃ v, n.get? field.name = some v

theorem read_optional (something : j ≠ .null) : shape.optional.read (.ofJson j) = shape.read (.ofJson j) := by
  cases j with
  | null => exact absurd rfl something
  | _ => rfl

/-- What is not `null` was not read from `null`. -/
theorem read_of_read_optional (read : shape.optional.read (.ofJson j) = .ok v) (something : v ≠ .null) :
    shape.read (.ofJson j) = .ok v := by
  rwa [read_optional] at read
  rintro rfl
  cases read
  exact something rfl

theorem readLenient_of_settled (names : (fields.map (·.name)).Nodup) : ∀ {members : List (String × Json)}
    {found : KeyMap Json},
    (∀ m ∈ members, ∃ field ∈ fields, field.name = m.1 ∧ field.shape.Settled m.2 ∧ m.2 ≠ .null) →
    readLenient [] fields (Document.ofMembers members) found =
      .ok (members.foldl (fun m e => m.insert e.1 e.2) found)
  | [], _, _ => rfl
  | (name, j) :: rest, found, each => by
    obtain ⟨⟨field, mem, rfl, first, something⟩, later⟩ := List.forall_mem_cons.1 each
    have known : (fields.find? fun f => f.name = field.name) = some field := (find?_eq_some_iff_mem names).2 ⟨mem, rfl⟩
    have read : field.shape.optional.read (.ofJson j) = .ok j := (read_optional something).trans first
    have isNull : j.isNull = false := by
      cases j with
      | null => exact absurd rfl something
      | _ => rfl
    rw [Document.ofMembers, readLenient, List.find?_nil]
    simp only [known, read, isNull, bind, Except.bind, Bool.false_eq_true, if_false]
    exact readLenient_of_settled names later

/-- What is found was read from a member, and is not `null`. -/
theorem exists_of_readLenient : ∀ {members : List (String × Json)} {found found' : KeyMap Json},
    readLenient [] fields (Document.ofMembers members) found = .ok found' → found'.get? name = some v →
    found.get? name = some v ∨ ∃ j, (name, j) ∈ members ∧
      ∃ field ∈ fields, field.name = name ∧ field.shape.read (.ofJson j) = .ok v ∧ v ≠ .null
  | [], _, _, all, here => by
    cases all
    exact .inl here
  | (name', j) :: rest, found, found', all, here => by
    rw [Document.ofMembers, readLenient, List.find?_nil] at all
    dsimp only at all
    split at all
    · rename_i field known
      obtain ⟨n, first, all⟩ := Except.bind_eq_ok all
      rcases exists_of_readLenient all here with before | ⟨j, mem, read⟩
      · split at before
        · exact .inl (KeyMap.get?_of_get?_erase before)
        · rename_i something
          rcases KeyMap.of_get?_insert before with ⟨rfl, rfl⟩ | before
          · have something : n ≠ .null := fun same => something (same ▸ rfl)
            exact .inr ⟨j, List.mem_cons_self, field, List.mem_of_find?_eq_some known,
              by simpa using List.find?_some known, read_of_read_optional first something, something⟩
          · exact .inl before
      · exact .inr ⟨j, List.mem_cons_of_mem _ mem, read⟩
    · exact (exists_of_readLenient all here).imp_right fun ⟨j, mem, read⟩ => ⟨j, List.mem_cons_of_mem _ mem, read⟩

/-- A record is the object of what it has under the names of its fields. -/
theorem IsRecord.eq_objectOf {given : List (String × Option Json)} (isRecord : IsRecord fields n)
    (names : (given.map (·.1)).Nodup) (all : ∀ field ∈ fields, field.name ∈ given.map (·.1))
    (same : ∀ e ∈ given, n.get? e.1 = e.2) : n = .objectOf given := by
  obtain ⟨⟨m, rfl⟩, known, -, -⟩ := isRecord
  have equal : m = .ofList (given.filterMap fun e => e.2.map fun v => (e.1, v)) := by
    -- It is enough that the same is found under every name, which is one of a field or of none.
    refine KeyMap.ext_get? fun name => Option.ext fun v => ?_
    rw [KeyMap.get?_ofList_eq_some_iff ((Json.names_present_sublist given).nodup names), Json.mem_present]
    constructor
    · intro found
      obtain ⟨field, mem, rfl⟩ := known name v found
      obtain ⟨⟨name, o⟩, mem, rfl⟩ := List.mem_map.1 (all field mem)
      rwa [show o = some v from (same _ mem).symm.trans found] at mem
    · intro mem
      exact same _ mem
  rw [Json.objectOf, Json.object, ← equal]

theorem get?_fillLenient (names : (fields.map (·.name)).Nodup) :
    (fillLenient [] fields found).get? name = some v ↔ ∃ field ∈ fields, field.name = name ∧
      (found.get? name = some v ∨ found.get? name = none ∧ field.required = true ∧ field.shape.blank = v) := by
  rw [fillLenient, Json.get?_objectOf_eq_some_iff (by simpa [Function.comp_def] using names)]
  simp only [List.map_nil, List.nil_append, List.mem_map, Prod.mk.injEq]
  refine exists_congr fun field => and_congr_right fun _ => and_congr_right fun same => ?_
  subst name
  cases found.get? field.name with
  | some j => simp
  | none => simp

theorem IsRecord.settled_lenient {record : String} (isRecord : IsRecord fields n)
    (names : (fields.map (·.name)).Nodup) : (lenient record fields).Settled n := by
  obtain ⟨⟨m, rfl⟩, known, settled, complete⟩ := id isRecord
  have all : readLenient [] fields (Document.ofMembers m.entries) .empty = .ok (KeyMap.ofList m.entries) := by
    refine readLenient_of_settled names fun (name, v) mem => ?_
    have found := KeyMap.get?_eq_some_iff.2 mem
    obtain ⟨field, isField, rfl⟩ := known name v found
    exact ⟨field, isField, rfl, settled field isField v found⟩
  have filled : fillLenient [] fields m = .obj m.entries := by
    have there : ∀ field ∈ fields, ∃ field' ∈ fields, field'.name = field.name := fun field mem => ⟨field, mem, rfl⟩
    refine (isRecord.eq_objectOf (by simpa [Function.comp_def] using names) (by simpa using there) ?_).symm
    simp only [List.map_nil, List.nil_append, List.forall_mem_map]
    intro field mem
    change m.get? field.name = _
    cases found : m.get? field.name with
    | some v => rfl
    | none =>
      refine (if_neg fun required => ?_).symm
      obtain ⟨v, here⟩ := complete field mem required
      cases here.symm.trans found
  rw [KeyMap.ofList_entries] at all
  simp [Settled, lenient, marked, Document.ofJson, all, filled, bind, Except.bind, pure, Except.pure]

/-- A field settles what it is given under its name, and what stands in for it is settled. -/
structure Field.Settles (P : String → Json → Prop) (field : Field) : Prop where
  settles : field.shape.Settles (P field.name)
  blank : field.required = true → field.shape.Settled field.shape.blank ∧ field.shape.blank ≠ .null

theorem Field.Settles.optional {P : String → Json → Prop} (settles : shape.Settles (P name)) :
    Field.Settles P { name, shape } :=
  ⟨settles, nofun⟩

theorem Field.Settles.requiredText {P : String → Json → Prop} :
    Field.Settles P { name, shape := .text, required := true } :=
  ⟨.text, fun _ => ⟨rfl, nofun⟩⟩

/-- What a lenient record reads is a record, if its fields settle what they are given. -/
theorem isRecord_of_read {record : String} {P : String → Json → Prop}
    (read : (lenient record fields).read (.ofJson j) = .ok n) (names : (fields.map (·.name)).Nodup)
    (each : ∀ field ∈ fields, field.Settles P) (given : ∀ m ∈ j.members, P m.1 m.2) : IsRecord fields n := by
  cases j with
  | obj members =>
    simp only [lenient, marked, Document.ofJson, Except.bind_eq_ok_iff] at read
    obtain ⟨found, all, same⟩ := read
    cases same
    refine ⟨⟨_, rfl⟩, fun name v here => ?_, fun field mem v here => ?_, fun field mem required => ?_⟩
    · obtain ⟨field, mem, same, -⟩ := (get?_fillLenient names).1 here
      exact ⟨field, mem, same⟩
    · obtain ⟨field', mem', same, here | ⟨-, required, rfl⟩⟩ := (get?_fillLenient names).1 here
      -- What was found was read from a member by its own field, what was not is blank.
      · rcases exists_of_readLenient all here with none | ⟨j, isMember, field'', mem'', same', read, something⟩
        · cases none
        · obtain rfl := List.inj_on_of_nodup_map names mem'' mem same'
          exact ⟨(each field'' mem).settles j v (given _ isMember) read, something⟩
      · obtain rfl := List.inj_on_of_nodup_map names mem' mem same
        exact (each field' mem).blank required
    · cases here : found.get? field.name with
      | some v => exact ⟨v, (get?_fillLenient names).2 ⟨field, mem, rfl, .inl here⟩⟩
      | none => exact ⟨_, (get?_fillLenient names).2 ⟨field, mem, rfl, .inr ⟨here, required, rfl⟩⟩⟩
  | arr items => cases read
  | _ => cases read

theorem Settles.lenient {record : String} {P : String → Json → Prop} (names : (fields.map (·.name)).Nodup)
    (each : ∀ field ∈ fields, field.Settles P) :
    (Shape.lenient record fields).Settles fun j => ∀ m ∈ j.members, P m.1 m.2 :=
  fun _ _ given read => (isRecord_of_read read names each given).settled_lenient names

/-- Under the name of the field stands what was found there, if that is as a record has it. -/
structure Field.Restores (n : Json) (field : Field) (e : String × Option Json) : Prop where
  name : field.name = e.1
  same : (∀ v, n.get? field.name = some v → field.shape.Settled v) →
    (field.required = true → ∃ v, n.get? field.name = some v) → n.get? field.name = e.2

/-- A record is written as it was read if each field is. -/
theorem IsRecord.eq_of_restores {given : List (String × Option Json)} (isRecord : IsRecord fields n)
    (names : (fields.map (·.name)).Nodup) (each : List.Forall₂ (Field.Restores n) fields given) :
    n = .objectOf given := by
  have sameNames : fields.map (·.name) = given.map (·.1) := by
    rw [← List.forall₂_eq_eq_eq, List.forall₂_map_left_iff, List.forall₂_map_right_iff]
    exact each.imp fun _ _ restores => restores.name
  refine isRecord.eq_objectOf (sameNames ▸ names) (fun field mem => sameNames ▸ List.mem_map.2 ⟨field, mem, rfl⟩) ?_
  intro e mem
  obtain ⟨field, mem, restores⟩ := exists_of_forall₂_right each e mem
  rw [← restores.name]
  exact restores.same (fun v found => (isRecord.settled field mem v found).1) (isRecord.complete field mem)

namespace Field.Restores

/-- A member with a meaning of its own is there, or is not. -/
theorem optional {read : Json → Option α} {write : α → Json} (blank : read .null = none)
    (meaning : ∀ a, read (write a) = some a) (written : ∀ v, shape.Settled v → ∃ a, v = write a) :
    Restores n { name, shape } (name, (read (n.get name)).map write) := by
  refine ⟨rfl, fun settled _ => ?_⟩
  dsimp only at settled ⊢
  cases found : n.get? name with
  | none => simp [Json.get, found, blank]
  | some v =>
    obtain ⟨a, rfl⟩ := written v (settled v found)
    simp [Json.get, found, meaning]

theorem someText (isText : ∀ v, shape.Settled v → ∃ s, v = .str s) :
    Restores n { name, shape } (name, (n.get name).str?.map .str) :=
  optional rfl (fun _ => rfl) isText

theorem someBoolean (isBoolean : ∀ v, shape.Settled v → ∃ b, v = .bool b) :
    Restores n { name, shape } (name, (n.get name).bool?.map .bool) :=
  optional rfl (fun _ => rfl) isBoolean

theorem someInteger (isInteger : ∀ v, shape.Settled v → ∃ i, v = .int i) :
    Restores n { name, shape } (name, (n.get name).int?.map .int) :=
  optional rfl (fun _ => rfl) isInteger

theorem whole {read : Json → α} {write : α → Json} (same : ∀ v, shape.Settled v → write (read v) = v) :
    Restores n { name, shape } (name, ((n.get? name).map read).map write) := by
  refine ⟨rfl, fun settled _ => ?_⟩
  dsimp only at settled ⊢
  cases found : n.get? name with
  | none => rfl
  | some v => exact congrArg some (same v (settled v found)).symm

theorem requiredText : Restores n { name, shape := .text, required := true } (name, some (.str (n.get name).text)) := by
  refine ⟨rfl, fun settled complete => ?_⟩
  obtain ⟨v, found⟩ := complete rfl
  obtain ⟨s, rfl⟩ := settled_text.1 (settled v found)
  dsimp only at found ⊢
  simp [Json.get, found, Json.text, Json.str?]

end Field.Restores

end Shape
end SignOnOperator
