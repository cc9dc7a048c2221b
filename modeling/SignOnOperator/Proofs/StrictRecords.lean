import SignOnOperator.Proofs.Admission
import SignOnOperator.Proofs.NormalForms
import SignOnOperator.Sso.Form
/-!
# Strict records written and read

A strict record is written as an object, of all its fields or without some that are nothing.  A slot *keeps* a value if
what is written of it, or its absence, is read as that value (`Slot.Keeps`).  Where all slots do so the record is read
from what was written (`KeepsAll.exists_read`).  What was read under the name of the first field is traced back to what
was given for it, by name in an object or by place in a list (`exists_first_of_read`).
-/
namespace SignOnOperator

variable {α : Type} {name : String} {a : α} {j n v : Json}

namespace Shape

variable {shape : Shape} {slot : Slot} {slots : List Slot} {found : KeyMap Json} {place : Place} {record : String}

/-! ## Reading by slots -/

@[simp] theorem Slot.required_name : (Slot.required name shape).name = name := rfl

@[simp] theorem Slot.optional_name : (Slot.optional name shape).name = name := rfl

@[simp] theorem Slot.defaulted_name : (Slot.defaulted name shape v).name = name := rfl

/-- What a slot reads where its member is given, or is not. -/
def Slot.Reads (slot : Slot) (given : Option Json) (v : Json) : Prop :=
  match given with
  | some j => slot.shape.read (.ofJson j) = .ok v
  | none => slot.whenMissing = some v

theorem Slot.Reads.unique {given : Option Json} {v' : Json} (reads : slot.Reads given v)
    (reads' : slot.Reads given v') : v = v' := by
  cases given with
  | some j => exact Except.ok.inj (reads.symm.trans reads')
  | none => exact Option.some.inj (reads.symm.trans reads')

theorem fillStrict_of_each {value : Slot → Json} : ∀ {slots : List Slot},
    (∀ slot ∈ slots, (found.get? slot.name).or slot.whenMissing = some (value slot)) →
    fillStrict found place slots = .ok (slots.map fun slot => (slot.name, value slot))
  | [], _ => rfl
  | slot :: rest, each => by
    obtain ⟨first, later⟩ := List.forall_mem_cons.1 each
    rw [fillStrict, first, fillStrict_of_each later]
    rfl

/-- A slot finds what its member was read as.  Without a member nothing was found, and its default is taken. -/
theorem exists_found {m : KeyMap Json} (names : (slots.map (·.name)).Nodup)
    (each : ∀ slot ∈ slots, ∃ v, slot.Reads (m.get? slot.name) v) :
    ∃ found, readStrict slots (Document.ofMembers m.entries) .empty = .ok found ∧
      ∀ slot ∈ slots, ∀ v, slot.Reads (m.get? slot.name) v →
        (found.get? slot.name).or slot.whenMissing = some v := by
  have fresh : ∀ e ∈ m.entries, ¬(KeyMap.empty : KeyMap Json).contains e.1 = true := nofun
  obtain ⟨found, read, kept, new⟩ := readStrict_eq_ok m.nodup_keys fresh fun slot mem j here => by
    obtain ⟨v, reads⟩ := each slot mem
    rw [KeyMap.get?_eq_some_iff.2 here] at reads
    exact ⟨v, reads⟩
  refine ⟨found, read, fun slot mem v reads => ?_⟩
  cases here : m.get? slot.name with
  | some j =>
    rw [here] at reads
    have known : (slots.find? fun slot' => slot'.name = slot.name) = some slot :=
      (find?_eq_some_iff_mem names).2 ⟨mem, rfl⟩
    obtain ⟨n, read, found⟩ := new slot.name j slot (KeyMap.get?_eq_some_iff.1 here) known
    have same : v = n := Except.ok.inj (reads.symm.trans read)
    rw [found, same]
    rfl
  | none =>
    rw [here] at reads
    have absent : ∀ e ∈ m.entries, e.1 ≠ slot.name := by
      rintro ⟨name, j⟩ mem rfl
      cases here.symm.trans (KeyMap.get?_eq_some_iff.2 mem)
    rw [kept slot.name absent]
    exact reads

/-- An object is read if each slot reads what there is under its name, and this is what is found there. -/
theorem exists_read_strict (names : (slots.map (·.name)).Nodup) (isObject : ∃ m : KeyMap Json, j = .obj m.entries)
    (each : ∀ slot ∈ slots, ∃ v, slot.Reads (j.get? slot.name) v) :
    ∃ n, (strict record slots).read (.ofJson j) = .ok n ∧
      ∀ slot ∈ slots, slot.Reads (j.get? slot.name) (n.get slot.name) := by
  obtain ⟨m, rfl⟩ := isObject
  change ∀ slot ∈ slots, ∃ v, slot.Reads (m.get? slot.name) v at each
  obtain ⟨found, read, filled⟩ := exists_found names each
  let value (slot : Slot) : Json := ((found.get? slot.name).or slot.whenMissing).getD .null
  have isValue : ∀ slot ∈ slots, slot.Reads (m.get? slot.name) (value slot) ∧
      (found.get? slot.name).or slot.whenMissing = some (value slot) := by
    intro slot mem
    obtain ⟨v, reads⟩ := each slot mem
    have here := filled slot mem v reads
    have same : value slot = v := congrArg (·.getD .null) here
    exact same ▸ ⟨reads, here⟩
  refine ⟨.object (slots.map fun slot => (slot.name, value slot)), ?_, fun slot mem => ?_⟩
  · have fields : fillStrict found {} slots = .ok _ := fillStrict_of_each fun slot mem => (isValue slot mem).2
    simp [strict, Document.ofJson, read, fields, bind, Except.bind, pure, Except.pure]
  · have here : (Json.object (slots.map fun slot => (slot.name, value slot))).get slot.name = value slot :=
      Json.get_object_of_mem (by simpa [Function.comp_def] using names) (List.mem_map.2 ⟨slot, mem, rfl⟩)
    rw [here]
    exact (isValue slot mem).1

/-! ## What is written and read -/

/-- What is written as `j` is read as `a`. -/
def Keeps (shape : Shape) (j : Json) (read : Json → α) (a : α) : Prop :=
  ∃ n, shape.read (.ofJson j) = .ok n ∧ read n = a

/-- What is written as `given`, or left out, is read as `a`. -/
def Slot.Keeps (slot : Slot) (given : Option Json) (read : Json → α) (a : α) : Prop :=
  ∃ v, slot.Reads given v ∧ read v = a

theorem map_ofJson_eq_ok_iff {read : Json → α} : (shape.ofJson j).map read = .ok a ↔ shape.Keeps j read a := by
  rw [Except.map_eq_ok_iff, Keeps]
  unfold ofJson
  cases shape.read (.ofJson j) <;> simp

theorem Keeps.text (s : String) : text.Keeps (.str s) Json.text s := ⟨.str s, rfl, rfl⟩

theorem Keeps.someText (s : String) : Shape.text.Keeps (.str s) Json.str? (some s) := ⟨.str s, rfl, rfl⟩

theorem Keeps.boolean (b : Bool) : boolean.Keeps (.bool b) (fun j => j.bool?.getD false) b := ⟨.bool b, rfl, rfl⟩

namespace Slot.Keeps

variable {given : Option Json} {read : Json → α}

theorem eq_of_reads (keeps : slot.Keeps given read a) (reads : slot.Reads given v) : read v = a := by
  obtain ⟨v', reads', same⟩ := keeps
  rwa [reads.unique reads']

theorem exists_reads (keeps : slot.Keeps given read a) : ∃ v, slot.Reads given v := keeps.imp fun _ => And.left

theorem of_given (keeps : slot.shape.Keeps j read a) : slot.Keeps (some j) read a := keeps

variable {write : α → Json} {read : Json → Option α}

theorem nullable (keeps : ∀ a, shape.Keeps (write a) read (some a)) (something : ∀ a, write a ≠ .null)
    (isOptional : slot.shape = shape.optional) (blank : read .null = none) (o : Option α) :
    slot.Keeps (some (.nullable write o)) read o := by
  cases o with
  | none => exact ⟨.null, by rw [Reads, isOptional]; rfl, blank⟩
  | some a =>
    obtain ⟨n, known, same⟩ := keeps a
    exact ⟨n, by rw [Reads, isOptional, Json.nullable, read_optional (something a), known], same⟩

theorem present (keeps : ∀ a, shape.Keeps (write a) read (some a)) (something : ∀ a, write a ≠ .null)
    (isOptional : slot.shape = shape.optional) (blank : read .null = none) (missing : slot.whenMissing = some .null)
    (o : Option α) : slot.Keeps (o.map write) read o := by
  cases o with
  | none => exact ⟨.null, missing, blank⟩
  | some a => exact nullable keeps something isOptional blank (some a)

end Slot.Keeps

/-- Each slot keeps what is given under its name.  What is read is then what holds for it. -/
inductive KeepsAll (given : List (String × Option Json)) : List Slot → (Json → Prop) → Prop
  | nil : KeepsAll given [] fun _ => True
  | cons {slot : Slot} {slots : List Slot} {o : Option Json} {α : Type} {read : Json → α} {a : α} {P : Json → Prop}
    (keeps : slot.Keeps o read a) (isGiven : (slot.name, o) ∈ given) (later : KeepsAll given slots P) :
    KeepsAll given (slot :: slots) fun n => read (n.get slot.name) = a ∧ P n

variable {given : List (String × Option Json)} {P : Json → Prop}

theorem KeepsAll.exists_reads (names : (given.map (·.1)).Nodup) (all : KeepsAll given slots P) :
    (∀ slot ∈ slots, ∃ v, slot.Reads ((Json.objectOf given).get? slot.name) v) ∧
      ∀ n, (∀ slot ∈ slots, slot.Reads ((Json.objectOf given).get? slot.name) (n.get slot.name)) → P n := by
  induction all with
  | nil => exact ⟨nofun, fun _ _ => trivial⟩
  | cons keeps isGiven _ ih =>
    rw [← Json.get?_objectOf_of_mem names isGiven] at keeps
    refine ⟨List.forall_mem_cons.2 ⟨keeps.exists_reads, ih.1⟩, fun n reads => ?_⟩
    obtain ⟨first, later⟩ := List.forall_mem_cons.1 reads
    exact ⟨keeps.eq_of_reads first, ih.2 n later⟩

/-- A written record is read if each of its slots keeps what is given. -/
theorem KeepsAll.exists_read (given : List (String × Option Json)) (names : (given.map (·.1)).Nodup)
    (slotNames : (slots.map (·.name)).Nodup) (all : KeepsAll given slots P) :
    ∃ n, (strict record slots).read (.ofJson (.objectOf given)) = .ok n ∧ P n := by
  obtain ⟨each, holds⟩ := all.exists_reads names
  obtain ⟨n, read, reads⟩ := exists_read_strict slotNames ⟨_, rfl⟩ each
  exact ⟨n, read, holds n reads⟩

/-- An object and a list are read into an object, by name and in order. -/
theorem read_strict_cases (known : (strict record slots).read (.ofJson j) = .ok n) :
    (∃ members found fields, j = .obj members ∧ readStrict slots (Document.ofMembers members) .empty = .ok found ∧
        fillStrict found {} slots = .ok fields ∧ n = .object fields) ∨
      ∃ items fields expected, j = .arr items ∧
        readInOrder expected {} 0 slots (Document.ofItems items) = .ok (fields, []) ∧ n = .object fields := by
  cases j with
  | obj members =>
    obtain ⟨found, all, rest⟩ := Except.bind_eq_ok known
    obtain ⟨fields, filled, same⟩ := Except.bind_eq_ok rest
    cases same
    exact .inl ⟨members, found, fields, rfl, all, filled, rfl⟩
  | arr items =>
    obtain ⟨⟨fields, rest⟩, all, ended⟩ := Except.bind_eq_ok known
    simp only at ended
    split at ended
    · cases ended
      exact .inr ⟨items, fields, _, rfl, all, rfl⟩
    · cases ended
    · cases ended
  | _ => cases known

/-- Where an object leaves the field out and where a list ends before it, nothing stands in for it. -/
def Slot.IsRequired (slot : Slot) : Prop := slot.whenMissing = none ∧ slot.whenCutOff = none

/-- What a record is given for its first field: a member of that name, or the first item. -/
inductive GivesFirst (name : String) (first : Json) : Json → Prop
  | member {members : List (String × Json)} (mem : (name, first) ∈ members) : GivesFirst name first (.obj members)
  | item {rest : List Json} : GivesFirst name first (.arr (first :: rest))

/-- What is found was read from a member by the slot of its name. -/
theorem exists_of_readStrict : ∀ {members : List (String × Json)} {found found' : KeyMap Json},
    readStrict slots (Document.ofMembers members) found = .ok found' → found'.get? name = some v →
    found.get? name = some v ∨ ∃ j, (name, j) ∈ members ∧
      ∃ slot, (slots.find? fun slot => slot.name = name) = some slot ∧ slot.shape.read (.ofJson j) = .ok v
  | [], _, _, all, here => by
    cases all
    exact .inl here
  | (name', j) :: rest, found, found', all, here => by
    rw [Document.ofMembers, readStrict] at all
    dsimp only at all
    split at all
    · rename_i slot known
      split at all
      · cases all
      · obtain ⟨n, first, all⟩ := Except.bind_eq_ok all
        rcases exists_of_readStrict all here with before | ⟨j, mem, read⟩
        · rcases KeyMap.of_get?_insert before with ⟨rfl, rfl⟩ | before
          · exact .inr ⟨j, List.mem_cons_self, slot, known, first⟩
          · exact .inl before
        · exact .inr ⟨j, List.mem_cons_of_mem _ mem, read⟩
    · rcases exists_of_readStrict all here with before | ⟨j, mem, read⟩
      · exact .inl before
      · exact .inr ⟨j, List.mem_cons_of_mem _ mem, read⟩

theorem exists_of_fillStrict {fields : List (String × Json)}
    (filled : fillStrict found place (slot :: slots) = .ok fields) :
    ∃ v rest, fields = (slot.name, v) :: rest ∧ (found.get? slot.name).or slot.whenMissing = some v := by
  rw [fillStrict] at filled
  split at filled
  · rename_i v here
    obtain ⟨rest, -, rfl⟩ := Except.map_eq_ok_iff.1 filled
    exact ⟨v, rest, rfl, here⟩
  · cases filled

theorem names_of_fillStrict : ∀ {slots : List Slot} {fields : List (String × Json)},
    fillStrict found place slots = .ok fields → fields.map (·.1) = slots.map (·.name)
  | [], _, filled => by
    cases filled
    rfl
  | slot :: rest, _, filled => by
    rw [fillStrict] at filled
    split at filled
    · obtain ⟨rest, later, rfl⟩ := Except.map_eq_ok_iff.1 filled
      rw [List.map_cons, List.map_cons, names_of_fillStrict later]
    · cases filled

theorem names_of_readInOrder {expected : String} : ∀ {slots : List Slot} {items rest : List Document} {i : Nat}
    {fields : List (String × Json)}, readInOrder expected place i slots items = .ok (fields, rest) →
    fields.map (·.1) = slots.map (·.name)
  | [], _, _, _, _, read => by
    cases read
    rfl
  | slot :: slots, [], _, _, _, read => by
    rw [readInOrder] at read
    split at read
    · obtain ⟨⟨fields, rest⟩, later, same⟩ := Except.bind_eq_ok read
      cases same
      rw [List.map_cons, List.map_cons, names_of_readInOrder later]
    · cases read
  | slot :: slots, d :: items, _, _, _, read => by
    rw [readInOrder] at read
    obtain ⟨j, -, rest⟩ := Except.bind_eq_ok read
    obtain ⟨⟨fields, rest⟩, later, same⟩ := Except.bind_eq_ok rest
    cases same
    rw [List.map_cons, List.map_cons, names_of_readInOrder later]

/-- What is found under the name of the first field was read from what is given for it. -/
theorem exists_first_of_read (names : ((slot :: slots).map (·.name)).Nodup) (isRequired : slot.IsRequired)
    (known : (strict record (slot :: slots)).read (.ofJson j) = .ok n) :
    ∃ first, GivesFirst slot.name first j ∧ slot.shape.read (.ofJson first) = .ok (n.get slot.name) := by
  obtain ⟨members, found, fields, rfl, all, filled, rfl⟩ | ⟨items, fields, expected, rfl, all, rfl⟩ :=
    read_strict_cases known
  · rw [← names_of_fillStrict filled] at names
    obtain ⟨v, rest, rfl, here⟩ := exists_of_fillStrict filled
    rw [isRequired.1, Option.or_none] at here
    obtain none | ⟨j, mem, slot', first, read⟩ := exists_of_readStrict all here
    · cases none
    · obtain rfl : slot = slot' := by simpa using first
      rw [Json.get_object_of_mem names List.mem_cons_self]
      exact ⟨j, .member mem, read⟩
  · rw [← names_of_readInOrder all] at names
    cases items with
    | nil =>
      rw [Document.ofItems, readInOrder, isRequired.2] at all
      cases all
    | cons j items =>
      rw [Document.ofItems, readInOrder] at all
      obtain ⟨v, read, later⟩ := Except.bind_eq_ok all
      obtain ⟨⟨rest, _⟩, -, same⟩ := Except.bind_eq_ok later
      cases same
      rw [Json.get_object_of_mem names List.mem_cons_self]
      exact ⟨j, .item, read⟩

theorem Keeps.present {read : Json → α} (keeps : (strict record slots).Keeps j read a) :
    (strict record slots).Keeps j (Json.present? read) (some a) := by
  obtain ⟨n, known, same⟩ := keeps
  refine ⟨n, known, ?_⟩
  obtain ⟨_, _, _, -, -, -, rfl⟩ | ⟨_, _, _, -, -, rfl⟩ := read_strict_cases known
  · exact congrArg some same
  · exact congrArg some same

end Shape

end SignOnOperator
