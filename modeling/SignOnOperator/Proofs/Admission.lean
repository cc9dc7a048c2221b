import SignOnOperator.Proofs.Members
import SignOnOperator.Sso.Schema
/-!
# What a schema admits is read

A schema says which values are stored, a shape says which ones can be read, and a record has one of each, written down
apart.  A shape *takes* a schema if it reads every value that the schema admits (`Shape.Takes`).  There is one rule for
each way of building a schema, so that a record's shape and its schema are compared slot by slot.
-/
namespace SignOnOperator

variable {α : Type} {name : String} {j : Json} {members : List (String × Json)}

/-! ## What a schema admits -/

namespace Schema

variable {schema : Schema} {properties : List (String × Schema)}

theorem admitsMembers_iff : ∀ {properties : List (String × Schema)},
    admitsMembers properties members = true ↔
      ∀ p ∈ properties, ∀ j, (p.1, j) ∈ members → p.2.admits j = true
  | [] => by simp [admitsMembers]
  | (name, schema) :: rest => by
    rw [admitsMembers, Bool.and_eq_true, admitsMembers_iff, List.forall_mem_cons]
    refine and_congr_left' ?_
    simp only [List.all_eq_true, List.mem_filter, decide_eq_true_eq, Prod.forall]
    exact ⟨fun all j mem => all _ j ⟨mem, rfl⟩, fun all name' j ⟨mem, same⟩ => all j (same ▸ mem)⟩

/-- What a schema admits, by the kind of the value. -/
theorem admits_eq (schema : Schema) : ∀ j : Json, schema.admits j =
    match j with
    | .null => schema.isNullable
    | .bool _ => decide (schema.type = .boolean)
    | .str text =>
      decide (schema.type = .string) && schema.beginning.all fun start => start.toList.isPrefixOf text.toList
    | .obj members =>
      decide (schema.type = .object) && ((schema.required.all fun name => members.any fun m => m.1 = name) &&
        admitsMembers schema.properties members)
    | _ => false := by
  obtain ⟨type, _⟩ := schema
  intro j
  cases type <;> cases j <;> rfl

@[simp] theorem admits_null : schema.admits .null = schema.isNullable := admits_eq schema _

@[simp] theorem admits_bool {b : Bool} : schema.admits (.bool b) = true ↔ schema.type = .boolean := by
  simp only [admits_eq, decide_eq_true_eq]

@[simp] theorem admits_int {n : Int} : schema.admits (.int n) = false := admits_eq schema _

@[simp] theorem admits_float {x : Double} : schema.admits (.float x) = false := admits_eq schema _

@[simp] theorem admits_str {text : String} :
    schema.admits (.str text) = true ↔
      schema.type = .string ∧ ∀ start ∈ schema.beginning, start.toList <+: text.toList := by
  simp only [admits_eq, Bool.and_eq_true, decide_eq_true_eq, Option.all_eq_true, List.isPrefixOf_iff_prefix,
    Option.mem_def]

@[simp] theorem admits_arr {items : List Json} : schema.admits (.arr items) = false := admits_eq schema _

/-- An object is admitted if it has the required members and every member that the schema knows is admitted. -/
@[simp] theorem admits_obj :
    schema.admits (.obj members) = true ↔
      schema.type = .object ∧ (∀ name ∈ schema.required, ∃ j, (name, j) ∈ members) ∧
        ∀ p ∈ schema.properties, ∀ j, (p.1, j) ∈ members → p.2.admits j = true := by
  have there (name : String) : (members.any fun m => m.1 = name) = true ↔ ∃ j, (name, j) ∈ members := by
    simp only [List.any_eq_true, decide_eq_true_eq, Prod.exists]
    exact ⟨fun ⟨_, j, mem, same⟩ => ⟨j, same ▸ mem⟩, fun ⟨j, mem⟩ => ⟨name, j, mem, rfl⟩⟩
  simp only [admits_eq schema, Bool.and_eq_true, decide_eq_true_eq, List.all_eq_true, there, admitsMembers_iff]

@[simp] theorem type_text : text.type = .string := rfl

@[simp] theorem beginning_text : text.beginning = none := rfl

@[simp] theorem type_boolean : boolean.type = .boolean := rfl

@[simp] theorem isNullable_boolean : boolean.isNullable = false := rfl

@[simp] theorem type_object {names : List String} : (object properties names).type = .object := rfl

@[simp] theorem isNullable_object {names : List String} : (object properties names).isNullable = false := rfl

@[simp] theorem type_beginningWith (start : String) : (schema.beginningWith start).type = schema.type := by
  cases schema
  rfl

@[simp] theorem beginning_beginningWith (start : String) : (schema.beginningWith start).beginning = some start := by
  cases schema
  rfl

@[simp] theorem admits_withDefault (value : Json) : (schema.withDefault value).admits j = schema.admits j := by
  rw [admits_eq, admits_eq]
  cases schema
  rfl

@[simp] theorem admits_described (description : String) :
    (schema.described description).admits j = schema.admits j := by
  rw [admits_eq, admits_eq]
  cases schema
  rfl

@[simp] theorem admits_titled (title : String) : (schema.titled title).admits j = schema.admits j := by
  rw [admits_eq, admits_eq]
  cases schema
  rfl

theorem admits_orNull : schema.orNull.admits j = true ↔ j = .null ∨ schema.admits j = true := by
  rw [admits_eq, admits_eq]
  cases schema
  cases j with
  | null => exact iff_of_true rfl (.inl rfl)
  | _ => exact (or_iff_right nofun).symm

end Schema

/-! ## Which shapes take what a schema admits -/

namespace Shape

variable {shape : Shape} {schema : Schema} {slots : List Slot}

/-- Reading the value does not fail. -/
def Accepts (shape : Shape) (j : Json) : Prop := ∃ normal, shape.read (.ofJson j) = .ok normal

theorem accepts_iff : shape.Accepts j ↔ ∃ normal, shape.ofJson j = .ok normal := by
  unfold Accepts ofJson
  cases shape.read (.ofJson j) <;> simp

/-- Reading fails for no value that the schema admits. -/
def Takes (shape : Shape) (schema : Schema) : Prop := ∀ j, j.Distinct → schema.admits j = true → shape.Accepts j

/-! ### Strict records -/

/-- Members with distinct names are read if each that the record knows is accepted, and what was read is found.  By
induction on the members: none of those to come was found before. -/
theorem readStrict_eq_ok : ∀ {members : List (String × Json)} {found : KeyMap Json}, (members.map (·.1)).Nodup →
    (∀ m ∈ members, ¬found.contains m.1 = true) →
    (∀ slot ∈ slots, ∀ j, (slot.name, j) ∈ members → slot.shape.Accepts j) →
    ∃ found', readStrict slots (Document.ofMembers members) found = .ok found' ∧
      (∀ name, (∀ m ∈ members, m.1 ≠ name) → found'.get? name = found.get? name) ∧
        ∀ name j slot, (name, j) ∈ members → (slots.find? fun slot => slot.name = name) = some slot →
          ∃ n, slot.shape.read (.ofJson j) = .ok n ∧ found'.get? name = some n
  | [], found, _, _, _ => ⟨found, rfl, fun _ _ => rfl, by simp⟩
  | (name, j) :: rest, found, names, fresh, accepts => by
    obtain ⟨once, distinct⟩ := List.nodup_cons.1 names
    obtain ⟨unread, unseen⟩ := List.forall_mem_cons.1 fresh
    have once : ∀ m ∈ rest, m.1 ≠ name := fun m here same => once (List.mem_map.2 ⟨m, here, same⟩)
    have later := fun slot mem j here => accepts slot mem j (List.mem_cons_of_mem _ here)
    rw [Document.ofMembers, readStrict]
    cases known : slots.find? fun slot => slot.name = name with
    | none =>
      obtain ⟨found', read, kept, new⟩ := readStrict_eq_ok distinct unseen later
      refine ⟨found', read, fun name others => kept name (List.forall_mem_cons.1 others).2,
        fun name j slot here is => ?_⟩
      rcases List.mem_cons.1 here with same | here
      · cases same
        cases is.symm.trans known
      · exact new name j slot here is
    | some slot =>
      have mem := List.mem_of_find?_eq_some known
      obtain rfl : slot.name = name := by simpa using List.find?_some known
      obtain ⟨normal, value⟩ := accepts slot mem j List.mem_cons_self
      have unseen' : ∀ m ∈ rest, ¬(found.insert slot.name normal).contains m.1 = true := by
        intro m here
        rw [KeyMap.contains_insert]
        exact not_or.2 ⟨Ne.symm (once m here), unseen m here⟩
      obtain ⟨found', read, kept, new⟩ := readStrict_eq_ok distinct unseen' later
      refine ⟨found', ?_, fun name others => ?_, fun name j' slot' here is => ?_⟩
      · simp only [unread, value, bind, Except.bind]
        exact read
      · obtain ⟨other, others⟩ := List.forall_mem_cons.1 others
        rw [kept name others, KeyMap.get?_insert, if_neg other]
      · rcases List.mem_cons.1 here with same | here
        · cases same
          cases is.symm.trans known
          exact ⟨normal, value, by rw [kept _ once, KeyMap.get?_insert, if_pos rfl]⟩
        · exact new name j' slot' here is

/-- A record can be filled in if the fields without a default were found. -/
theorem fillStrict_eq_ok {found : KeyMap Json} {place : Place} : ∀ {slots : List Slot},
    (∀ slot ∈ slots, slot.whenMissing = none → found.contains slot.name = true) →
    ∃ fields, fillStrict found place slots = .ok fields
  | [], _ => ⟨[], rfl⟩
  | slot :: rest, there => by
    obtain ⟨here, later⟩ := List.forall_mem_cons.1 there
    obtain ⟨fields, filled⟩ : ∃ fields, fillStrict found place rest = .ok fields := fillStrict_eq_ok later
    rw [fillStrict]
    cases value : (found.get? slot.name).or slot.whenMissing with
    | some j => exact ⟨_, by rw [filled]; rfl⟩
    | none =>
      obtain ⟨unread, undefined⟩ := Option.or_eq_none_iff.1 value
      exact absurd (here undefined) (by simp [KeyMap.contains, unread])

/-- A strict record accepts an object if it accepts the members that it knows and nothing is missing. -/
theorem accepts_strict {record : String} (names : (members.map (·.1)).Nodup)
    (accepts : ∀ slot ∈ slots, ∀ j, (slot.name, j) ∈ members → slot.shape.Accepts j)
    (there : ∀ slot ∈ slots, slot.whenMissing = none → ∃ j, (slot.name, j) ∈ members) :
    (strict record slots).Accepts (.obj members) := by
  have unseen : ∀ m ∈ members, ¬(KeyMap.empty : KeyMap Json).contains m.1 = true := by
    simp [KeyMap.contains, KeyMap.get?, KeyMap.empty]
  obtain ⟨found, read, -, new⟩ := readStrict_eq_ok names unseen accepts
  have complete : ∀ slot ∈ slots, slot.whenMissing = none → found.contains slot.name = true := by
    intro slot mem undefined
    obtain ⟨j, here⟩ := there slot mem undefined
    have some : (slots.find? fun slot' => slot'.name = slot.name).isSome = true :=
      List.find?_isSome.2 ⟨slot, mem, decide_eq_true rfl⟩
    obtain ⟨slot', known⟩ := Option.isSome_iff_exists.1 some
    obtain ⟨n, -, found⟩ := new slot.name j slot' here known
    rw [KeyMap.contains, found]
    rfl
  obtain ⟨fields, filled⟩ : ∃ fields, fillStrict found {} slots = .ok fields := fillStrict_eq_ok complete
  exact ⟨.object fields, by simp [strict, Document.ofJson, read, filled, bind, Except.bind, pure, Except.pure]⟩

/-- Each slot has a property with a schema that its shape takes, and is required unless it has a default. -/
def Fits (properties : List (String × Schema)) (required : List String) (slots : List Slot) : Prop :=
  ∀ slot ∈ slots, (∃ schema, (slot.name, schema) ∈ properties ∧ slot.shape.Takes schema) ∧
    (slot.whenMissing = none → slot.name ∈ required)

namespace Fits

variable {properties : List (String × Schema)} {names : List String}

theorem none : Fits properties names [] := by simp [Fits]

theorem required (known : (properties.find? fun p => p.1 = name) = some (name, schema)) (isRequired : name ∈ names)
    (takes : shape.Takes schema) (later : Fits properties names slots) :
    Fits properties names (.required name shape :: slots) :=
  List.forall_mem_cons.2 ⟨⟨⟨schema, List.mem_of_find?_eq_some known, takes⟩, fun _ => isRequired⟩, later⟩

theorem optional (known : (properties.find? fun p => p.1 = name) = some (name, schema))
    (takes : shape.optional.Takes schema) (later : Fits properties names slots) :
    Fits properties names (.optional name shape :: slots) :=
  List.forall_mem_cons.2 ⟨⟨⟨schema, List.mem_of_find?_eq_some known, takes⟩, nofun⟩, later⟩

theorem defaulted {value : Json} (known : (properties.find? fun p => p.1 = name) = some (name, schema))
    (takes : shape.Takes schema) (later : Fits properties names slots) :
    Fits properties names (.defaulted name shape value :: slots) :=
  List.forall_mem_cons.2 ⟨⟨⟨schema, List.mem_of_find?_eq_some known, takes⟩, nofun⟩, later⟩

end Fits

/-! ### The rules -/

namespace Takes

theorem ofString (type : schema.type = .string) (definite : schema.isNullable = false) :
    Shape.text.Takes schema := by
  intro j _ admits
  cases j with
  | str s => exact ⟨.str s, rfl⟩
  | _ => simp [type, definite] at admits

theorem text : Shape.text.Takes .text := ofString rfl rfl

theorem beginningWith (start : String) : Shape.text.Takes (.beginningWith start .text) := ofString rfl rfl

theorem boolean : Shape.boolean.Takes .boolean := by
  intro j _ admits
  cases j with
  | bool b => exact ⟨.bool b, rfl⟩
  | _ => simp at admits

theorem withDefault {value : Json} (takes : shape.Takes schema) : shape.Takes (schema.withDefault value) :=
  fun j distinct admits => takes j distinct (by simpa using admits)

theorem described {description : String} (takes : shape.Takes schema) : shape.Takes (schema.described description) :=
  fun j distinct admits => takes j distinct (by simpa using admits)

theorem orNull (takes : shape.Takes schema) : shape.optional.Takes schema.orNull := by
  intro j distinct admits
  rcases Schema.admits_orNull.1 admits with rfl | admits
  · exact ⟨.null, rfl⟩
  · obtain ⟨normal, read⟩ := takes j distinct admits
    cases j with
    | null => exact ⟨.null, rfl⟩
    | _ => exact ⟨normal, read⟩

/-- A strict record takes a schema of objects if its slots fit the properties. -/
theorem object {properties : List (String × Schema)} {required : List String} {record : String}
    (fits : Fits properties required slots) : (strict record slots).Takes (.object properties required) := by
  intro j distinct admits
  cases j with
  | obj members =>
    obtain ⟨-, there, known⟩ := Schema.admits_obj.1 admits
    refine accepts_strict distinct.names (fun slot mem j here => ?_) fun slot mem undefined => ?_
    · obtain ⟨⟨schema, property, takes⟩, -⟩ := fits slot mem
      exact takes j (distinct.of_mem here) (known _ property j here)
    · exact there _ ((fits slot mem).2 undefined)
  | _ => simp at admits

end Takes
end Shape

/-! ## What is written -/

namespace Schema

variable {schema : Schema} {properties : List (String × Schema)} {required : List String}

theorem admits_nullable {write : α → Json} (admits : ∀ a, schema.admits (write a) = true) (a : Option α) :
    schema.orNull.admits (.nullable write a) = true := by
  cases a with
  | none => exact admits_orNull.2 (.inl rfl)
  | some a => exact admits_orNull.2 (.inr (admits a))

/-- A member that is left out where there is nothing. -/
theorem admits_present {write : α → Json} (admits : ∀ a, schema.admits (write a) = true) {a : Option α}
    (isValue : some j = a.map write) : schema.orNull.admits j = true := by
  obtain ⟨a, -, rfl⟩ := Option.map_eq_some_iff.1 isValue.symm
  exact admits_orNull.2 (.inr (admits a))

/-- What is written is admitted if nothing required is missing and every member that the schema knows is admitted. -/
theorem admits_object (names : (members.map (·.1)).Nodup) :
    (Schema.object properties required).admits (.object members) = true ↔
      (∀ name ∈ required, ∃ j, (name, j) ∈ members) ∧
        ∀ p ∈ properties, ∀ j, (p.1, j) ∈ members → p.2.admits j = true := by
  have mem : ∀ name j, (name, j) ∈ (Json.object members).members ↔ (name, j) ∈ members :=
    fun _ _ => Json.mem_members_object names
  rw [Json.object] at mem ⊢
  simp only [admits_obj, ← mem, Json.members, Json.obj?, Option.getD_some]
  exact and_iff_right rfl

theorem admits_objectOf {given : List (String × Option Json)} (names : (given.map (·.1)).Nodup) :
    (Schema.object properties required).admits (.objectOf given) = true ↔
      (∀ name ∈ required, ∃ j, (name, some j) ∈ given) ∧
        ∀ p ∈ properties, ∀ j, (p.1, some j) ∈ given → p.2.admits j = true := by
  rw [Json.objectOf, admits_object ((Json.names_present_sublist given).nodup names)]
  simp only [Json.mem_present]

end Schema

/-! ## The records of an SSO -/

theorem ResourceSpec.shape_takes : shape.Takes schema :=
  .object <| .optional rfl (.orNull .text) <| .optional rfl (.orNull .text) .none

theorem ProxyResources.shape_takes : shape.Takes schema :=
  .withDefault <| .object <| .optional rfl (.orNull ResourceSpec.shape_takes) <|
    .optional rfl (.orNull ResourceSpec.shape_takes) .none

theorem CookieSpec.shape_takes : shape.Takes schema :=
  .withDefault <| .object <|
    .defaulted rfl (.withDefault .text) <| .defaulted rfl (.described (.withDefault .text)) <|
    .defaulted rfl (.described (.withDefault .text)) <| .defaulted rfl (.withDefault .boolean) <|
    .defaulted rfl (.withDefault .boolean) .none

theorem SsoSpec.shape_takes : shape.Takes schema :=
  .described <| .object <|
    .required rfl (by decide) (.described (.beginningWith "https://")) <|
    .required rfl (by decide) (.described .text) <|
    .defaulted rfl (.described (.withDefault .text)) <| .defaulted rfl (.described (.withDefault .text)) <|
    .required rfl (by decide) .text <| .required rfl (by decide) .text <|
    .defaulted rfl ProxyResources.shape_takes <| .defaulted rfl (.described (.withDefault .boolean)) <|
    .defaulted rfl CookieSpec.shape_takes <| .defaulted rfl (.described (.withDefault .boolean)) <|
    .defaulted rfl (.described (.orNull .text)) .none

theorem SsoStatus.shape_takes : shape.optional.Takes schema :=
  .orNull <| .object <| .defaulted rfl (.described (.orNull .text)) <| .defaulted rfl (.withDefault .boolean) .none

theorem ResourceSpec.schema_admits (r : ResourceSpec) : schema.admits r.toJson = true :=
  (Schema.admits_object (by simp)).2 ⟨nofun, by simp [Schema.admits_nullable]⟩

theorem ProxyResources.schema_admits (p : ProxyResources) : schema.admits p.toJson = true := by
  rw [schema, Schema.admits_withDefault]
  exact (Schema.admits_object (by simp)).2 ⟨nofun, by simp [Schema.admits_nullable, ResourceSpec.schema_admits]⟩

theorem CookieSpec.schema_admits (c : CookieSpec) : schema.admits c.toJson = true := by
  rw [schema, Schema.admits_withDefault]
  exact (Schema.admits_object (by simp)).2 ⟨nofun, by simp⟩

theorem SsoSpec.schema_admits {s : SsoSpec} (secure : "https://".toList <+: s.oidcIssuerUrl.toList) :
    schema.admits s.toJson = true := by
  rw [schema, Schema.admits_described]
  have template : ∀ j, some j = s.urlTemplate.map Json.str → Schema.text.orNull.admits j = true :=
    fun _ => Schema.admits_present (by simp)
  refine (Schema.admits_objectOf (by simp)).2 ⟨by simp, ?_⟩
  simpa [ProxyResources.schema_admits, CookieSpec.schema_admits] using And.intro secure template

theorem SsoStatus.schema_admits (s : SsoStatus) : schema.admits s.toJson = true := by
  have client : ∀ j, some j = s.clientId.map Json.str → Schema.text.orNull.admits j = true :=
    fun _ => Schema.admits_present (by simp)
  exact Schema.admits_orNull.2 (.inr ((Schema.admits_objectOf (by simp)).2 ⟨nofun, by simpa using client⟩))

end SignOnOperator
