import SignOnOperator.Proofs.Admission
/-!
# The published schema

What the cluster knows of SSOs is a JSON value, the definition.  A value *conforms* to the schema in it (`Conforms`) by
the usual meaning of its keywords.  This is what the schema admits that was published (`conforms_toJson_iff`), so the
cluster stores only what the operator can read, and takes everything that the operator writes.
-/
namespace SignOnOperator

open Kubernetes.Shapes (objectMeta)

/-! ## The meaning of a published schema -/

/-- A text of characters that stand for themselves in a pattern. -/
def IsLiteral (text : String) : Prop := ∀ c ∈ text.toList, c.isAlphanum = true ∨ c = ':' ∨ c = '/'

/-- A text matches a pattern of the form `^start`, in which all characters of `start` stand for themselves. -/
def Matches (pattern text : String) : Prop :=
  ∃ start : String, pattern = "^" ++ start ∧ IsLiteral start ∧ start.toList <+: text.toList

/-- A value conforms to a published schema: it is `null` if that is allowed, or it has the type of the schema, a text
also matching the pattern if there is one.  An object has the required members, and every member that has a schema
among the properties conforms to it.  Other members may have any value. -/
inductive Conforms : Json → Json → Prop
  | null {schema : Json} (nullable : schema.get? "nullable" = some (.bool true)) : Conforms schema .null
  | bool {schema : Json} (b : Bool) (type : schema.get? "type" = some (.str "boolean")) : Conforms schema (.bool b)
  | str {schema : Json} {text : String} (type : schema.get? "type" = some (.str "string"))
    (pattern : ∀ pattern, schema.get? "pattern" = some (.str pattern) → Matches pattern text) :
    Conforms schema (.str text)
  | obj {schema : Json} {members : List (String × Json)} (type : schema.get? "type" = some (.str "object"))
    (required : ∀ names, schema.get? "required" = some names → ∀ name ∈ names.texts, ∃ j, (name, j) ∈ members)
    (properties : ∀ properties, schema.get? "properties" = some properties →
      ∀ name member, properties.get? name = some member → ∀ j, (name, j) ∈ members → Conforms member j) :
    Conforms schema (.obj members)

/-- The schema of the first version in a definition. -/
def publishedSchema (definition : Json) : Json :=
  ((((definition.get "spec").get "versions").items.headD .null).get "schema").get "openAPIV3Schema"

theorem matches_iff {start text : String} (literal : IsLiteral start) :
    Matches ("^" ++ start) text ↔ start.toList <+: text.toList := by
  refine ⟨fun ⟨start', same, _, begins⟩ => ?_, fun begins => ⟨start, rfl, literal, begins⟩⟩
  obtain rfl : start = start' := String.append_right_inj _ |>.1 same
  exact begins

theorem SchemaType.name_injective : ∀ {t t' : SchemaType}, t.name = t'.name → t = t'
  | .object, .object, _ | .string, .string, _ | .boolean, .boolean, _ => rfl

namespace Schema

/-- No property has two schemas, and beginnings are literal, here and in all properties. -/
inductive Plain : Schema → Prop
  | intro {schema : Schema} (names : (schema.properties.map (·.1)).Nodup) (each : ∀ p ∈ schema.properties, Plain p.2)
    (literal : ∀ start ∈ schema.beginning, IsLiteral start) : Plain schema

variable {schema : Schema} {name : String} {j : Json}

theorem propertiesToJson_eq_map : ∀ properties : List (String × Schema),
    propertiesToJson properties = properties.map fun p => (p.1, p.2.toJson)
  | [] => rfl
  | (_, _) :: rest => by rw [propertiesToJson, propertiesToJson_eq_map rest, List.map_cons]

/-! ### The keywords -/

theorem exists_keywords (schema : Schema) : ∃ default description title : Option Json,
    schema.toJson = .objectOf
      [("default", default), ("description", description),
        ("nullable", if schema.isNullable then some (.bool true) else none),
        ("pattern", schema.beginning.map fun start => .str ("^" ++ start)),
        ("properties",
          if schema.properties.isEmpty then none else some (.object (propertiesToJson schema.properties))),
        ("required", if schema.required.isEmpty then none else some (.strings schema.required)), ("title", title),
        ("type", some (.str schema.type.name))] := by
  cases schema
  exact ⟨_, _, _, rfl⟩

theorem get?_type : schema.toJson.get? "type" = some j ↔ j = .str schema.type.name := by
  obtain ⟨_, _, _, keywords⟩ := exists_keywords schema
  rw [keywords, Json.get?_objectOf_eq_some_iff (by simp)]
  simp

theorem get?_nullable : schema.toJson.get? "nullable" = some j ↔ schema.isNullable = true ∧ j = .bool true := by
  obtain ⟨_, _, _, keywords⟩ := exists_keywords schema
  rw [keywords, Json.get?_objectOf_eq_some_iff (by simp)]
  simp

theorem get?_pattern :
    schema.toJson.get? "pattern" = some j ↔ ∃ start ∈ schema.beginning, j = .str ("^" ++ start) := by
  obtain ⟨_, _, _, keywords⟩ := exists_keywords schema
  rw [keywords, Json.get?_objectOf_eq_some_iff (by simp)]
  cases schema.beginning <;> simp

theorem get?_required :
    schema.toJson.get? "required" = some j ↔ schema.required ≠ [] ∧ j = .strings schema.required := by
  obtain ⟨_, _, _, keywords⟩ := exists_keywords schema
  rw [keywords, Json.get?_objectOf_eq_some_iff (by simp)]
  simp

theorem get?_properties :
    schema.toJson.get? "properties" = some j ↔
      schema.properties ≠ [] ∧ j = .object (propertiesToJson schema.properties) := by
  obtain ⟨_, _, _, keywords⟩ := exists_keywords schema
  rw [keywords, Json.get?_objectOf_eq_some_iff (by simp)]
  simp

theorem texts_strings (texts : List String) : (Json.strings texts).texts = texts := by
  simp [Json.strings, Json.texts, Json.items, Json.arr?, List.filterMap_map, Function.comp_def, Json.str?]

theorem get?_propertiesToJson {properties : List (String × Schema)} (names : (properties.map (·.1)).Nodup) :
    (Json.object (propertiesToJson properties)).get? name = some j ↔
      ∃ schema, (name, schema) ∈ properties ∧ j = schema.toJson := by
  rw [propertiesToJson_eq_map, Json.get?_object_eq_some_iff (by simpa [List.map_map, Function.comp_def] using names)]
  simp only [List.mem_map, Prod.mk.injEq, Prod.exists]
  exact ⟨fun ⟨_, schema, mem, same, value⟩ => ⟨schema, same ▸ mem, value.symm⟩,
    fun ⟨schema, mem, value⟩ => ⟨name, schema, mem, rfl, value.symm⟩⟩

/-- **A value conforms to what is published of a schema if and only if the schema admits it.** -/
theorem conforms_toJson_iff (plain : schema.Plain) : Conforms schema.toJson j ↔ schema.admits j = true := by
  induction plain generalizing j with
  | @intro schema names each literal ih =>
    have type (type : SchemaType) : schema.toJson.get? "type" = some (.str type.name) ↔ schema.type = type := by
      rw [get?_type, Json.str.injEq]
      exact ⟨fun same => (SchemaType.name_injective same).symm, fun same => by rw [same]⟩
    constructor
    · intro conforms
      cases conforms with
      | null nullable => exact admits_null ▸ (get?_nullable.1 nullable).1
      | bool b isBoolean => exact admits_bool.2 ((type .boolean).1 isBoolean)
      | str isString pattern =>
        exact admits_str.2 ⟨(type .string).1 isString, fun start mem =>
          (matches_iff (literal start mem)).1 (pattern _ (get?_pattern.2 ⟨start, mem, rfl⟩))⟩
      | obj isObject required properties =>
        refine admits_obj.2 ⟨(type .object).1 isObject, fun name mem => ?_, fun p mem j here => ?_⟩
        · exact required _ (get?_required.2 ⟨List.ne_nil_of_mem mem, rfl⟩) name (by rwa [texts_strings])
        · have known := get?_properties.2 ⟨List.ne_nil_of_mem mem, rfl⟩
          exact (ih p mem).1 (properties _ known _ _ ((get?_propertiesToJson names).2 ⟨_, mem, rfl⟩) j here)
    · intro admits
      cases j with
      | null => exact .null (get?_nullable.2 ⟨admits_null ▸ admits, rfl⟩)
      | bool b => exact .bool b ((type .boolean).2 (admits_bool.1 admits))
      | str text =>
        obtain ⟨isString, begins⟩ := admits_str.1 admits
        refine .str ((type .string).2 isString) fun pattern published => ?_
        obtain ⟨start, mem, same⟩ := get?_pattern.1 published
        rw [Json.str.inj same]
        exact (matches_iff (literal start mem)).2 (begins start mem)
      | obj members =>
        obtain ⟨isObject, there, admitted⟩ := admits_obj.1 admits
        refine .obj ((type .object).2 isObject) (fun names published name mem => ?_)
          fun properties published name member known j here => ?_
        · rw [(get?_required.1 published).2, texts_strings] at mem
          exact there name mem
        · rw [(get?_properties.1 published).2] at known
          obtain ⟨property, mem, rfl⟩ := (get?_propertiesToJson names).1 known
          exact (ih _ mem).2 (admitted _ mem j here)
      | _ => simp at admits

/-- A schema without properties. -/
theorem Plain.leaf {type : SchemaType} {names : List String} {isNullable : Bool} {beginning : Option String}
    {default : Option Json} {description title : Option String} (literal : ∀ start ∈ beginning, IsLiteral start) :
    (mk type [] names isNullable beginning default description title).Plain :=
  .intro .nil nofun literal

/-- All properties have plain schemas. -/
def PlainAll (properties : List (String × Schema)) : Prop := ∀ p ∈ properties, p.2.Plain

theorem PlainAll.none : PlainAll [] := nofun

theorem PlainAll.and {rest : List (String × Schema)} (plain : schema.Plain) (later : PlainAll rest) :
    PlainAll ((name, schema) :: rest) :=
  List.forall_mem_cons.2 ⟨plain, later⟩

end Schema

/-! ## The schema of SSOs -/

open Schema (Plain PlainAll)

theorem ResourceSpec.schema_orNull_plain : schema.orNull.Plain :=
  .intro (by decide) (PlainAll.and (.leaf nofun) <| .and (.leaf nofun) .none) nofun

theorem ProxyResources.schema_plain : schema.Plain :=
  .intro (by decide)
    (PlainAll.and ResourceSpec.schema_orNull_plain <| .and ResourceSpec.schema_orNull_plain .none) nofun

theorem CookieSpec.schema_plain : schema.Plain :=
  .intro (by decide)
    (PlainAll.and (.leaf nofun) <| .and (.leaf nofun) <| .and (.leaf nofun) <| .and (.leaf nofun) <|
      .and (.leaf nofun) .none) nofun

theorem SsoSpec.schema_plain : schema.Plain :=
  .intro (by decide)
    (PlainAll.and (.leaf nofun) <| .and CookieSpec.schema_plain <| .and (.leaf nofun) <| .and (.leaf nofun) <|
      .and (.leaf (by simp [IsLiteral])) <| .and (.leaf nofun) <| .and (.leaf nofun) <|
      .and ProxyResources.schema_plain <| .and (.leaf nofun) <| .and (.leaf nofun) <| .and (.leaf nofun) .none) nofun

theorem SsoStatus.schema_plain : schema.Plain :=
  .intro (by decide) (PlainAll.and (.leaf nofun) <| .and (.leaf nofun) .none) nofun

namespace Sso

theorem schema_plain : schema.Plain :=
  .intro (by decide) (PlainAll.and SsoSpec.schema_plain <| .and SsoStatus.schema_plain .none) nofun

theorem publishedSchema_definition : publishedSchema definition = schema.toJson := rfl

theorem conforms_iff {j : Json} : Conforms (publishedSchema definition) j ↔ schema.admits j = true := by
  rw [publishedSchema_definition, Schema.conforms_toJson_iff schema_plain]

/-- A stored resource with readable metadata is read. -/
theorem shape_accepts {j m : Json} (distinct : j.Distinct) (admits : schema.admits j = true)
    (found : j.get? "metadata" = some m) (readable : objectMeta.Accepts m) : shape.Accepts j := by
  rw [schema, Schema.admits_titled, Schema.admits_described] at admits
  cases j with
  | obj members =>
    obtain ⟨-, there, known⟩ := Schema.admits_obj.1 admits
    have metadata := (Json.get?_eq_some_iff distinct.names).1 found
    have spec : ∃ j, ("spec", j) ∈ members := there _ (.head _)
    have specs : ∀ j, ("spec", j) ∈ members → SsoSpec.shape.Accepts j := fun j mem =>
      SsoSpec.shape_takes j (distinct.of_mem mem) (known _ (.head _) j mem)
    have statuses : ∀ j, ("status", j) ∈ members → SsoStatus.shape.optional.Accepts j := fun j mem =>
      SsoStatus.shape_takes j (distinct.of_mem mem) (known _ (.tail _ (.head _)) j mem)
    have only : ∀ j, ("metadata", j) ∈ members → objectMeta.Accepts j := fun j mem => by
      rw [← Json.get?_eq_some_iff distinct.names, found] at mem
      exact Option.some.inj mem ▸ readable
    refine Shape.accepts_strict distinct.names ?_ ?_
    · exact List.forall_mem_cons.2 ⟨only, List.forall_mem_cons.2 ⟨specs, List.forall_mem_singleton.2 statuses⟩⟩
    · exact List.forall_mem_cons.2 ⟨fun _ => ⟨m, metadata⟩,
        List.forall_mem_cons.2 ⟨fun _ => spec, List.forall_mem_singleton.2 nofun⟩⟩
  | _ => cases found

/-- What is written of an SSO is admitted. -/
theorem schema_admits {sso : Sso} (secure : "https://".toList <+: sso.spec.oidcIssuerUrl.toList) :
    schema.admits sso.toJson = true := by
  have status : ∀ j, some j = sso.status.map SsoStatus.toJson → SsoStatus.schema.admits j = true := fun j isStatus => by
    obtain ⟨status, -, rfl⟩ := Option.map_eq_some_iff.1 isStatus.symm
    exact status.schema_admits
  rw [schema, Schema.admits_titled, Schema.admits_described]
  refine (Schema.admits_objectOf (by simp)).2 ⟨by simp, ?_⟩
  simpa [SsoSpec.schema_admits secure] using status

/-- **The published schema and the reader agree.**  Whatever conforms to the schema in the definition is read, if its
metadata can be, and whatever is written of an SSO with a secure issuer conforms to it. -/
theorem published_schema_agrees :
    (∀ j m : Json, j.Distinct → Conforms (publishedSchema definition) j → j.get? "metadata" = some m →
      (∃ normal, objectMeta.ofJson m = .ok normal) → ∃ sso, ofJson j = .ok sso) ∧
    ∀ sso : Sso, "https://".toList <+: sso.spec.oidcIssuerUrl.toList →
      Conforms (publishedSchema definition) sso.toJson := by
  refine ⟨fun j m distinct conforms found readable => ?_, fun sso secure => conforms_iff.2 (schema_admits secure)⟩
  have accepted := shape_accepts distinct (conforms_iff.1 conforms) found (Shape.accepts_iff.2 readable)
  obtain ⟨normal, read⟩ := Shape.accepts_iff.1 accepted
  exact ⟨ofNormal normal, by rw [ofJson, read]; rfl⟩

/-- A resource with an unknown member and with nothing as its limits and as its status, and one that is written. -/
theorem sparse_resource_agrees :
    let stored : Json := .obj
      [("metadata", .obj [("name", .str "app")]),
        ("spec", .obj
          [("note", .int 1), ("oidcIssuerUrl", .str "https://dex"), ("proxyImage", .str "proxy"),
            ("proxyImageTag", .str "v7"), ("proxyResources", .obj [("limits", .null)]),
            ("upstreamService", .str "jenkins")]),
        ("status", .null)]
    let written : Sso :=
      { metadata := {}
        spec :=
          { oidcIssuerUrl := "https://dex", upstreamService := "jenkins", proxyImage := "proxy"
            proxyImageTag := "v7" } }
    (∃ sso, ofJson stored = .ok sso) ∧ Conforms (publishedSchema definition) written.toJson := by
  intro stored written
  have distinct : stored.Distinct := by
    simp [stored, Json.distinct_obj_iff, Json.Distinct.null, Json.Distinct.int, Json.Distinct.str]
  refine ⟨published_schema_agrees.1 stored _ distinct (conforms_iff.2 (by decide)) rfl ⟨_, rfl⟩, ?_⟩
  exact published_schema_agrees.2 written (by decide)

end Sso
end SignOnOperator
