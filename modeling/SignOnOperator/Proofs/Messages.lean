import SignOnOperator.Dex.Client
import SignOnOperator.Proofs.CookieLoading
import SignOnOperator.Proofs.Fields
/-!
# Messages over the wire

Reading a message is taking one field after another (`Record.Takes`, `Record.TakesAll`).  A field that the record does
not know leaves what was read as it is, and the fields that a structure is written in restore it component by
component, one rule for each kind of slot (`Carries.text`, `Carries.texts`, `Carries.flag`, `Carries.record`).  So
every message of the identity provider survives the wire, also among fields of newer versions.
-/
namespace SignOnOperator.Wire

theorem located_ok {α : Type} (a : α) : located (.ok a) = .ok a := rfl

/-! ## Reading field by field -/

namespace Record

variable {α β : Type} {r : Record α} {depth : Nat} {a b c : α} {f : Field} {fields fields' : List Field}

/-- Whether the record has a slot for the field. -/
def knows (r : Record α) (f : Field) : Bool := r.slots.any fun slot => slot.number = f.number

/-- Reading the field in front of anything takes the structure from one state to the other. -/
def Takes (r : Record α) (depth : Nat) (f : Field) (a b : α) : Prop :=
  ∀ rest, r.readField depth a (f.bytes ++ rest) = .ok (b, rest)

/-- Reading the fields one after another takes the structure from one state to the other. -/
inductive TakesAll (r : Record α) (depth : Nat) : List Field → α → α → Prop where
  | none (a : α) : TakesAll r depth [] a a
  | field {f : Field} {fields : List Field} {a b c : α} (first : r.Takes depth f a b)
      (later : TakesAll r depth fields b c) : TakesAll r depth (f :: fields) a c

theorem takes_of_unknown (deep : 0 < depth) (unknown : r.knows f = false) (a : α) : r.Takes depth f a a := by
  intro rest
  have absent : (r.slots.find? fun slot => slot.number = f.number) = none := by
    rw [List.find?_eq_none]
    intro slot hslot same
    exact absurd (List.any_eq_true.2 ⟨slot, hslot, same⟩) (Bool.eq_false_iff.1 unknown)
  simp only [readField, f.readKey_append, f.skipField_append deep, located_ok, bind, Except.bind, absent, pure,
    Except.pure]

theorem takes_of_slot {slot : Slot α} (found : (r.slots.find? fun slot => slot.number = f.number) = some slot)
    (type : f.type = slot.type) (read : ∀ rest, slot.read depth a (f.content ++ rest) = .ok (b, rest)) :
    r.Takes depth f a b := by
  intro rest
  simp only [readField, f.readKey_append, located_ok, bind, Except.bind, found, if_pos type, read]
  rfl

theorem knows_of_slot {slot : Slot α} (found : (r.slots.find? fun slot => slot.number = f.number) = some slot) :
    r.knows f = true :=
  List.any_eq_true.2 ⟨slot, List.mem_of_find?_eq_some found, by simpa using List.find?_some found⟩

namespace TakesAll

theorem append (first : r.TakesAll depth fields a b) (later : r.TakesAll depth fields' b c) :
    r.TakesAll depth (fields ++ fields') a c := by
  induction first with
  | none _ => exact later
  | field first _ ih => exact .field first (ih later)

/-- Fields that the record does not know may stand anywhere among the others. -/
theorem of_filter (deep : 0 < depth) (known : r.TakesAll depth (fields.filter r.knows) a b) :
    r.TakesAll depth fields a b := by
  induction fields generalizing a with
  | nil => exact known
  | cons f fields ih =>
    cases h : r.knows f with
    | false =>
      rw [List.filter_cons_of_neg (by simp [h])] at known
      exact .field (takes_of_unknown deep h a) (ih known)
    | true =>
      rw [List.filter_cons_of_pos h] at known
      cases known with
      | field first later => exact .field first (ih later)

/-- By induction on the fields, of which there are no more than the count. -/
theorem readFields_eq (taken : r.TakesAll depth fields a b) {count : Nat} (rest : Bytes)
    (enough : (fields.flatMap Field.bytes).length ≤ count) :
    r.readFields depth rest.length count a (fields.flatMap Field.bytes ++ rest) = .ok (b, rest) := by
  induction taken generalizing count with
  | none a =>
    cases count with
    | zero => rfl
    | succ count => simp [readFields]
  | @field f fields a b c first _ ih =>
    have some := List.length_pos_iff.2 f.bytes_ne_nil
    rw [List.flatMap_cons, List.length_append] at enough
    obtain ⟨count, rfl⟩ : ∃ n, count = n + 1 := ⟨count - 1, by omega⟩
    have more : ¬(f.bytes ++ (fields.flatMap Field.bytes ++ rest)).length ≤ rest.length := by
      simp only [List.length_append]
      omega
    rw [List.flatMap_cons, List.append_assoc, readFields, if_neg more, first]
    exact ih (by omega)

theorem decode_eq (taken : r.TakesAll maxDepth fields r.initial b) :
    r.decode (fields.flatMap Field.bytes) = .ok b := by
  have read := taken.readFields_eq [] (Nat.le_refl _)
  rw [List.append_nil] at read
  rw [decode, show 0 = ([] : Bytes).length from rfl, read]
  rfl

end TakesAll

/-! ## Writing slot by slot -/

/-- What the slots write of a structure, which must fit into 64 bits, are fields that the record knows, and reading
them takes one state to the other. -/
def Carries (r : Record α) (depth : Nat) (slots : List (Slot α)) (a b c : α) : Prop :=
  (slots.flatMap fun slot => slot.write a).length < 2 ^ 64 →
    ∃ fields : List Field, (∀ f ∈ fields, r.knows f = true) ∧
      fields.flatMap Field.bytes = slots.flatMap (fun slot => slot.write a) ∧ r.TakesAll depth fields b c

/-- Every structure is restored from what is written of it. -/
def Faithful (r : Record α) (depth : Nat) : Prop := ∀ a, r.Carries depth r.slots a r.initial a

/-- **Messages of the form survive the wire.**  What is written of a structure, as far as lengths of 64 bits go, is
read back as that structure.  It consists of fields that the record knows, and every sequence of well-formed fields in
which those that the record knows are just these is read as the same structure. -/
def Survives (r : Record α) : Prop :=
  ∀ a, (r.encode a).length < 2 ^ 64 →
    r.decode (r.encode a) = .ok a ∧
      (∃ own : List Field, (∀ f ∈ own, r.knows f = true) ∧ own.flatMap Field.bytes = r.encode a) ∧
      ∀ fields : List Field, (fields.filter r.knows).flatMap Field.bytes = r.encode a →
        r.decode (fields.flatMap Field.bytes) = .ok a

theorem Faithful.survives (faithful : r.Faithful maxDepth) : r.Survives := by
  intro a small
  obtain ⟨own, known, written, taken⟩ := faithful a small
  refine ⟨?_, ⟨own, known, written⟩, fun fields same => ?_⟩
  · rw [encode, ← written]
    exact taken.decode_eq
  · have kept : fields.filter r.knows = own := Field.eq_of_flatMap_bytes_eq (same.trans written.symm)
    exact (TakesAll.of_filter (by decide) (kept ▸ taken)).decode_eq

end Record

/-! ## Slots -/

/-- A component of a structure: what is set is found, and nothing else changes. -/
structure IsComponent {α β : Type} (get : α → β) (set : β → α → α) : Prop where
  get_set : ∀ v a, get (set v a) = v := by intros; rfl
  set_get : ∀ a, set (get a) a = a := by intros; rfl
  set_set : ∀ v w a, set v (set w a) = set v a := by intros; rfl

namespace Slot

variable {α β : Type} {number : Nat}

theorem length_lt_of_writeBlock {payload : Bytes} (small : (writeBlock number payload).length < 2 ^ 64) :
    payload.length < 2 ^ 64 := by
  simp only [writeBlock, encodeBlock, List.length_append] at small
  omega

theorem readText_append (text : String) (small : (Bytes.ofString text).length < 2 ^ 64) (rest : Bytes) :
    readText (encodeBlock (.ofString text) ++ rest) = .ok (text, rest) := by
  have back : (Bytes.ofString text).toString? = some text := Bytes.toString?_eq_some_iff.2 rfl
  simp only [readText, readBlock, encodeBlock, List.append_assoc, readVarint_append (isVarint_encodeVarint small),
    readExactly_append, located_ok, bind, Except.bind, back, pure, Except.pure]

end Slot

namespace Record.Carries

variable {α β : Type} {r : Record α} {depth number : Nat} {name : String} {slots : List (Slot α)} {a b c : α}

theorem none : r.Carries depth [] a b b := fun _ => ⟨[], nofun, rfl, .none b⟩

/-- The fields of one slot, and then those of the others. -/
theorem slot {slot : Slot α} {b' : α}
    (first : (slot.write a).length < 2 ^ 64 → ∃ fields : List Field, (∀ f ∈ fields, r.knows f = true) ∧
      fields.flatMap Field.bytes = slot.write a ∧ r.TakesAll depth fields b b')
    (later : r.Carries depth slots a b' c) : r.Carries depth (slot :: slots) a b c := by
  intro small
  rw [List.flatMap_cons, List.length_append] at small
  obtain ⟨fields, known, written, taken⟩ := first (by omega)
  obtain ⟨fields', known', written', taken'⟩ := later (by omega)
  refine ⟨fields ++ fields', List.forall_mem_append.2 ⟨known, known'⟩, ?_, taken.append taken'⟩
  rw [List.flatMap_append, List.flatMap_cons, written, written']

/-- A slot that writes a single field. -/
theorem single {slot : Slot α} {b' : α} (f : Field)
    (found : (r.slots.find? fun slot => slot.number = f.number) = some slot) (type : f.type = slot.type)
    (written : f.bytes = slot.write a) (read : ∀ rest, slot.read depth b (f.content ++ rest) = .ok (b', rest)) :
    ∃ fields : List Field, (∀ f ∈ fields, r.knows f = true) ∧ fields.flatMap Field.bytes = slot.write a ∧
      r.TakesAll depth fields b b' :=
  ⟨[f], List.forall_mem_singleton.2 (knows_of_slot found), (List.flatMap_singleton _ _).trans written,
    .field (takes_of_slot found type read) (.none b')⟩

theorem text {get : α → String} {set : String → α → α} (component : IsComponent get set)
    (valid : 0 < number ∧ number < 2 ^ 29)
    (found : (r.slots.find? fun slot => slot.number = number) = some (.text number name get set))
    (initial : get b = "") (later : r.Carries depth slots a (set (get a) b) c) :
    r.Carries depth (.text number name get set :: slots) a b c := by
  refine slot (fun small => ?_) later
  change (if get a = "" then [] else Slot.writeBlock number (.ofString (get a))).length < 2 ^ 64 at small
  by_cases empty : get a = ""
  · refine ⟨[], nofun, (if_pos empty).symm, ?_⟩
    rw [empty, ← initial, component.set_get]
    exact .none b
  · rw [if_neg empty] at small
    have fits := Slot.length_lt_of_writeBlock small
    refine single (.ofBlock number (.ofString (get a)) valid fits) found rfl (if_neg empty).symm fun rest => ?_
    change (Slot.readText (encodeBlock (.ofString (get a)) ++ rest)).map _ = _
    rw [Slot.readText_append _ fits]
    rfl

/-- By induction on the texts: each is added at the end. -/
theorem takesAll_texts {get : α → List String} {set : List String → α → α} (component : IsComponent get set)
    (valid : 0 < number ∧ number < 2 ^ 29)
    (found : (r.slots.find? fun slot => slot.number = number) = some (.texts number name get set))
    (depth : Nat) (texts : List String)
    (small : (texts.flatMap fun text => Slot.writeBlock number (.ofString text)).length < 2 ^ 64) (b : α) :
    ∃ fields : List Field, (∀ f ∈ fields, r.knows f = true) ∧
      fields.flatMap Field.bytes = texts.flatMap (fun text => Slot.writeBlock number (.ofString text)) ∧
      r.TakesAll depth fields b (set (get b ++ texts) b) := by
  induction texts generalizing b with
  | nil =>
    refine ⟨[], nofun, rfl, ?_⟩
    rw [List.append_nil, component.set_get]
    exact .none b
  | cons text texts ih =>
    rw [List.flatMap_cons, List.length_append] at small
    have first : (Slot.writeBlock number (.ofString text)).length < 2 ^ 64 := by omega
    have fits := Slot.length_lt_of_writeBlock first
    let f : Field := .ofBlock number (.ofString text) valid fits
    have taken : r.Takes depth f b (set (get b ++ [text]) b) := by
      refine takes_of_slot found rfl fun rest => ?_
      change (Slot.readText (encodeBlock (.ofString text) ++ rest)).map _ = _
      rw [Slot.readText_append _ fits]
      rfl
    obtain ⟨fields, known, written, later⟩ := ih (by omega) (set (get b ++ [text]) b)
    rw [component.get_set, component.set_set, List.append_assoc, List.singleton_append] at later
    refine ⟨f :: fields, List.forall_mem_cons.2 ⟨knows_of_slot found, known⟩, ?_, .field taken later⟩
    rw [List.flatMap_cons, List.flatMap_cons, written]
    rfl

theorem texts {get : α → List String} {set : List String → α → α} (component : IsComponent get set)
    (valid : 0 < number ∧ number < 2 ^ 29)
    (found : (r.slots.find? fun slot => slot.number = number) = some (.texts number name get set))
    (initial : get b = []) (later : r.Carries depth slots a (set (get a) b) c) :
    r.Carries depth (.texts number name get set :: slots) a b c := by
  refine slot (fun small => ?_) later
  have taken := takesAll_texts component valid found depth (get a) small b
  rwa [initial, List.nil_append] at taken

theorem flag {get : α → Bool} {set : Bool → α → α} (component : IsComponent get set)
    (valid : 0 < number ∧ number < 2 ^ 29)
    (found : (r.slots.find? fun slot => slot.number = number) = some (.flag number name get set))
    (initial : get b = false) (later : r.Carries depth slots a (set (get a) b) c) :
    r.Carries depth (.flag number name get set :: slots) a b c := by
  refine slot (fun _ => ?_) later
  cases given : get a with
  | false =>
    refine ⟨[], nofun, ?_, ?_⟩
    · simp [Slot.flag, given]
    · rw [← initial, component.set_get]
      exact .none b
  | true =>
    refine single (.yes number valid) found rfl ?_ fun rest => ?_
    · simp [Slot.flag, given, Field.yes, Field.bytes]
    · change (located (readVarint (encodeVarint 1 ++ rest))).map _ = _
      rw [readVarint_append (isVarint_encodeVarint (by decide))]
      rfl

theorem record {get : α → Option β} {set : Option β → α → α} {inner : Record β} (component : IsComponent get set)
    (valid : 0 < number ∧ number < 2 ^ 29)
    (found : (r.slots.find? fun slot => slot.number = number) = some (.record number name inner get set))
    (faithful : inner.Faithful depth) (initial : get b = .none)
    (later : r.Carries (depth + 1) slots a (set (get a) b) c) :
    r.Carries (depth + 1) (.record number name inner get set :: slots) a b c := by
  refine slot (fun small => ?_) later
  cases given : get a with
  | none =>
    refine ⟨[], nofun, ?_, ?_⟩
    · simp [Slot.record, given]
    · rw [← initial, component.set_get]
      exact .none b
  | some inside =>
    have written : (Slot.record number name inner get set).write a = Slot.writeBlock number (inner.encode inside) := by
      simp [Slot.record, given]
    rw [written] at small
    have fits := Slot.length_lt_of_writeBlock small
    obtain ⟨fields, -, spelled, taken⟩ := faithful inside fits
    refine single (.ofBlock number (inner.encode inside) valid fits) found rfl written.symm fun rest => ?_
    have read : inner.readFields depth rest.length (inner.encode inside).length inner.initial
        (inner.encode inside ++ rest) = .ok (inside, rest) := by
      have read := taken.readFields_eq rest (Nat.le_refl _)
      rwa [spelled] at read
    change (Slot.record number name inner get set).read (depth + 1) b (encodeBlock (inner.encode inside) ++ rest) = _
    have room : ¬(inner.encode inside ++ rest).length < (inner.encode inside).length := by
      rw [List.length_append]
      omega
    have left : (inner.encode inside ++ rest).length - (inner.encode inside).length = rest.length := by
      rw [List.length_append]
      omega
    rw [encodeBlock, List.append_assoc]
    simp only [Slot.record, readVarint_append (isVarint_encodeVarint fits), initial, located_ok, bind, Except.bind,
      if_neg (Nat.succ_ne_zero depth), if_neg room, left, Option.getD_none, Nat.add_sub_cancel, read]
    simp [pure, Except.pure]

end Record.Carries
end SignOnOperator.Wire

namespace SignOnOperator.Dex

open Wire

/-! ## The messages of the identity provider -/

theorem client_faithful (depth : Nat) : client.Faithful depth := fun _ =>
  .text {} (by decide) rfl rfl <| .text {} (by decide) rfl rfl <| .texts {} (by decide) rfl rfl <|
    .texts {} (by decide) rfl rfl <| .flag {} (by decide) rfl rfl <| .text {} (by decide) rfl rfl <|
    .text {} (by decide) rfl rfl .none

theorem createRequest_faithful (depth : Nat) : createRequest.Faithful (depth + 1) := fun _ =>
  .record {} (by decide) rfl (client_faithful depth) rfl .none

theorem createResponse_faithful (depth : Nat) : createResponse.Faithful (depth + 1) := fun _ =>
  .flag {} (by decide) rfl rfl <| .record {} (by decide) rfl (client_faithful depth) rfl .none

theorem updateRequest_faithful (depth : Nat) : updateRequest.Faithful depth := fun _ =>
  .text {} (by decide) rfl rfl <| .texts {} (by decide) rfl rfl <| .texts {} (by decide) rfl rfl <|
    .text {} (by decide) rfl rfl <| .text {} (by decide) rfl rfl .none

theorem updateResponse_faithful (depth : Nat) : updateResponse.Faithful depth := fun _ =>
  .flag {} (by decide) rfl rfl .none

theorem deleteRequest_faithful (depth : Nat) : deleteRequest.Faithful depth := fun _ =>
  .text {} (by decide) rfl rfl .none

theorem deleteResponse_faithful (depth : Nat) : deleteResponse.Faithful depth := fun _ =>
  .flag {} (by decide) rfl rfl .none

/-- A new client is asked for with one message, and is the one in the response, all of its parts empty if there is
none. -/
theorem createClient_runs {redirectUris trustedPeers : List String} {isPublic : Bool} {name logoUrl : String}
    {wire : Bytes} {response : CreateResponse} (read : createResponse.decode wire = .ok response)
    (isNew : response.alreadyExists = false) :
    Program.Runs (createClient redirectUris trustedPeers isPublic name logoUrl)
      [⟨⟨"/api.Dex/CreateClient",
        createRequest.encode { client := some { redirectUris, trustedPeers, isPublic, name, logoUrl } }⟩,
        .message wire⟩] (.ok (response.client.getD {})) := by
  refine Action.runs_bind_ok_iff.2 ⟨response, [⟨⟨_, _⟩, .message wire⟩], [], rfl, ?_, ?_⟩
  · refine Action.runs_request_bind_iff.2 ⟨.message wire, [], rfl, ?_⟩
    rw [GrpcReply.read, read]
    exact .here _
  · rw [isNew]
    exact .here _

/-- **The messages of the identity provider survive the wire**, also among fields that are not known.  So the message
that asks for a new client says of it exactly what was given, and nothing of an identity or a secret, and the client
that is given back is the one of the response. -/
theorem messages_survive :
    (client.Survives ∧ createRequest.Survives ∧ createResponse.Survives ∧ updateRequest.Survives ∧
      updateResponse.Survives ∧ deleteRequest.Survives ∧ deleteResponse.Survives) ∧
    ∀ (redirectUris trustedPeers : List String) (isPublic : Bool) (name logoUrl : String),
      let sent := createRequest.encode { client := some { redirectUris, trustedPeers, isPublic, name, logoUrl } }
      (sent.length < 2 ^ 64 → createRequest.decode sent =
        .ok { client := some { id := "", secret := "", redirectUris, trustedPeers, isPublic, name, logoUrl } }) ∧
      ∀ wire response, createResponse.decode wire = .ok response → response.alreadyExists = false →
        Program.Runs (createClient redirectUris trustedPeers isPublic name logoUrl)
          [⟨⟨"/api.Dex/CreateClient", sent⟩, .message wire⟩] (.ok (response.client.getD {})) := by
  have requests : createRequest.Survives := (createRequest_faithful 99).survives
  refine ⟨⟨(client_faithful 100).survives, requests, (createResponse_faithful 99).survives,
    (updateRequest_faithful 100).survives, (updateResponse_faithful 100).survives,
    (deleteRequest_faithful 100).survives, (deleteResponse_faithful 100).survives⟩, ?_⟩
  intro redirectUris trustedPeers isPublic name logoUrl sent
  exact ⟨fun small => (requests _ small).1, fun wire response read isNew => createClient_runs read isNew⟩

/-- A response of a newer server, with a field of number 9 after the flag, and one of number 2 before it. -/
theorem newer_response_survives :
    (deleteResponse.encode { notFound := true }).length < 2 ^ 64 ∧
      deleteResponse.decode [18, 2, 104, 105, 8, 1, 77, 1, 2, 3, 4] = .ok { notFound := true } := by
  have small : (deleteResponse.encode { notFound := true }).length < 2 ^ 64 := by cbv
  refine ⟨small, ?_⟩
  let before : Field := .ofBlock 2 [104, 105] (by decide) (by decide)
  let after : Field :=
    { number := 9, type := .fixed32, key := [77], content := [1, 2, 3, 4], valid := by decide
      isKey := ⟨.last (by decide), by decide, by decide⟩, isContent := .fixed32 rfl }
  obtain ⟨-, -, -, -, -, -, deleted⟩ := messages_survive.1
  have read := (deleted { notFound := true } small).2.2 [before, .yes 1 (by decide), after] rfl
  have wire : [before, .yes 1 (by decide), after].flatMap Field.bytes =
      [18, 2, 104, 105, 8, 1, 77, 1, 2, 3, 4] := by cbv
  rwa [wire] at read

end SignOnOperator.Dex
