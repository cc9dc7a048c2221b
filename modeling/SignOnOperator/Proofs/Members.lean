import Mathlib.Data.List.Nodup
import SignOnOperator.Json.Basic
/-!
# Members by name

The entries of a map and the members of an object, as sets of pairs in which a name stands once.
-/
namespace SignOnOperator

open List (Perm)

variable {α : Type} {name : String} {a : α} {j : Json} {members : List (String × Json)}

/-! ## Maps -/

/-- Where keys are distinct, to be found under a key is to be a member with that key. -/
theorem find?_eq_some_iff_mem {key : α → String} {l : List α} (keys : (l.map key).Nodup) :
    (l.find? fun b => key b = name) = some a ↔ a ∈ l ∧ key a = name := by
  refine ⟨fun found => ⟨List.mem_of_find?_eq_some found, by simpa using List.find?_some found⟩, fun ⟨mem, same⟩ => ?_⟩
  cases found : l.find? fun b => key b = name with
  | none => simpa [same] using List.find?_eq_none.1 found a mem
  | some b =>
    have sameKey : key b = key a := Eq.trans (by simpa using List.find?_some found) same.symm
    rw [List.inj_on_of_nodup_map keys (List.mem_of_find?_eq_some found) mem sameKey]

theorem find?_insertEntry (key : String) (value : α) : ∀ entries : List (String × α),
    ((insertEntry key value entries).find? fun e => e.1 = name) =
      if key = name then some (key, value) else entries.find? fun e => e.1 = name
  | [] => by by_cases same : key = name <;> simp [insertEntry, same]
  | (k, v) :: rest => by
    have later := find?_insertEntry key value rest
    unfold insertEntry
    split
    · by_cases same : key = name <;> simp [same]
    · split
      · subst k
        by_cases same : key = name <;> simp [same]
      · by_cases found : k = name
        · subst name
          simp [‹¬key = k›]
        · simpa [found] using later

theorem KeyMap.get?_insert (m : KeyMap α) (key : String) (value : α) :
    (m.insert key value).get? name = if key = name then some value else m.get? name := by
  rw [KeyMap.get?, KeyMap.insert, find?_insertEntry]
  split <;> rfl

theorem KeyMap.of_get?_insert {m : KeyMap α} {key : String} {value : α}
    (found : (m.insert key value).get? name = some a) : key = name ∧ value = a ∨ m.get? name = some a := by
  rw [get?_insert] at found
  split at found
  · exact .inl ⟨‹_›, Option.some.inj found⟩
  · exact .inr found

theorem KeyMap.contains_insert (m : KeyMap α) (key : String) (value : α) :
    (m.insert key value).contains name = true ↔ key = name ∨ m.contains name = true := by
  rw [contains, get?_insert]
  split <;> simp_all [contains]

/-- An entry with a new key is one more. -/
theorem insertEntry_perm {key : String} {value : α} : ∀ {entries : List (String × α)}, (∀ e ∈ entries, e.1 ≠ key) →
    (insertEntry key value entries).Perm ((key, value) :: entries)
  | [], _ => .refl _
  | (k, v) :: rest, fresh => by
    obtain ⟨other, fresh⟩ := List.forall_mem_cons.1 fresh
    unfold insertEntry
    rw [if_neg (Ne.symm other)]
    split
    · exact .refl _
    · exact ((insertEntry_perm fresh).cons _).trans (.swap _ _ _)

namespace KeyMap

variable {m m' : KeyMap α}

theorem foldl_insert_perm : ∀ {entries : List (String × α)} {m : KeyMap α},
    ((entries ++ m.entries).map (·.1)).Nodup →
    (entries.foldl (fun m e => m.insert e.1 e.2) m).entries.Perm (entries ++ m.entries)
  | [], _, _ => .refl _
  | (key, value) :: rest, m, names => by
    rw [List.cons_append, List.map_cons, List.nodup_cons] at names
    have one : (m.insert key value).entries.Perm ((key, value) :: m.entries) :=
      insertEntry_perm fun e mem same => names.1 (List.mem_map.2 ⟨e, List.mem_append_right _ mem, same⟩)
    have all : (rest ++ (m.insert key value).entries).Perm ((key, value) :: (rest ++ m.entries)) :=
      (one.append_left rest).trans List.perm_middle
    have distinct := (all.map (·.1)).nodup_iff.2 (List.nodup_cons.2 names)
    rw [List.foldl_cons, List.cons_append]
    exact (foldl_insert_perm distinct).trans all

theorem ofList_perm {entries : List (String × α)} (names : (entries.map (·.1)).Nodup) :
    (ofList entries).entries.Perm entries := by
  have perm := foldl_insert_perm (m := empty) (by simpa [empty] using names)
  rwa [show (empty : KeyMap α).entries = [] from rfl, List.append_nil] at perm

theorem nodup_keys (m : KeyMap α) : (m.entries.map (·.1)).Nodup :=
  List.pairwise_map.2 (m.sorted.imp fun {_ e} less (same : _ = e.1) => String.lt_irrefl _ (same ▸ less))

theorem get?_eq_some_iff : m.get? name = some a ↔ (name, a) ∈ m.entries := by
  rw [get?, Option.map_eq_some_iff]
  simp only [find?_eq_some_iff_mem m.nodup_keys]
  exact ⟨fun ⟨(_, _), ⟨mem, same⟩, same'⟩ => by rwa [← same, ← same'], fun mem => ⟨(name, a), ⟨mem, rfl⟩, rfl⟩⟩

/-- Maps in which the same is found under every name are equal. -/
theorem ext_get? (same : ∀ name, m.get? name = m'.get? name) : m = m' := by
  have mem : ∀ e, e ∈ m.entries ↔ e ∈ m'.entries := fun (name, a) => by
    rw [← get?_eq_some_iff, ← get?_eq_some_iff, same]
  have perm := (List.perm_ext_iff_of_nodup m.nodup_keys.of_map m'.nodup_keys.of_map).2 mem
  exact ext (perm.eq_of_pairwise (fun _ _ _ _ less less' => absurd (String.lt_trans less less') (String.lt_irrefl _))
    m.sorted m'.sorted)

theorem get?_ofList_eq_some_iff {entries : List (String × α)} (names : (entries.map (·.1)).Nodup) :
    (ofList entries).get? name = some a ↔ (name, a) ∈ entries :=
  get?_eq_some_iff.trans (ofList_perm names).mem_iff

theorem mem_of_mem_foldl_insert {e : String × α} : ∀ {entries : List (String × α)} {m : KeyMap α},
    e ∈ (entries.foldl (fun m e => m.insert e.1 e.2) m).entries → e ∈ entries ∨ e ∈ m.entries
  | [], _, mem => .inr mem
  | (_, _) :: rest, _, mem => by
    rw [List.foldl_cons] at mem
    rcases mem_of_mem_foldl_insert mem with mem | mem
    · exact .inl (List.mem_cons_of_mem _ mem)
    · rcases mem_insertEntry mem with rfl | mem
      · exact .inl List.mem_cons_self
      · exact .inr mem

theorem mem_of_mem_ofList {e : String × α} {entries : List (String × α)} (mem : e ∈ (ofList entries).entries) :
    e ∈ entries :=
  (mem_of_mem_foldl_insert mem).resolve_right List.not_mem_nil

theorem ofList_entries (m : KeyMap α) : ofList m.entries = m :=
  ext_get? fun _ => Option.ext fun _ => (get?_ofList_eq_some_iff m.nodup_keys).trans get?_eq_some_iff.symm

theorem get?_of_get?_erase {key : String} (found : (m.erase key).get? name = some a) : m.get? name = some a :=
  get?_eq_some_iff.2 (List.mem_filter.1 (get?_eq_some_iff.1 found)).1

end KeyMap

/-! ## Objects -/

namespace Json

/-- A value in which no object has two members of one name, as where all members are in ascending order. -/
inductive Distinct : Json → Prop
  | null : Distinct .null
  | bool (b : Bool) : Distinct (.bool b)
  | int (n : Int) : Distinct (.int n)
  | float (x : Double) : Distinct (.float x)
  | str (s : String) : Distinct (.str s)
  | arr {items : List Json} (each : ∀ j ∈ items, Distinct j) : Distinct (.arr items)
  | obj {members : List (String × Json)} (names : (members.map (·.1)).Nodup) (each : ∀ m ∈ members, Distinct m.2) :
    Distinct (.obj members)

theorem distinct_obj_iff :
    (Json.obj members).Distinct ↔ (members.map (·.1)).Nodup ∧ ∀ m ∈ members, m.2.Distinct := by
  refine ⟨fun distinct => ?_, fun ⟨names, each⟩ => .obj names each⟩
  cases distinct with
  | obj names each => exact ⟨names, each⟩

theorem Distinct.names (distinct : (Json.obj members).Distinct) : (members.map (·.1)).Nodup :=
  (distinct_obj_iff.1 distinct).1

theorem Distinct.of_mem (distinct : (Json.obj members).Distinct) (mem : (name, j) ∈ members) : j.Distinct :=
  (distinct_obj_iff.1 distinct).2 _ mem

theorem mem_of_get?_eq_some (found : (Json.obj members).get? name = some j) : (name, j) ∈ members := by
  simp only [get?, Option.map_eq_some_iff] at found
  obtain ⟨⟨name', j⟩, found, rfl⟩ := found
  obtain rfl : name' = name := by simpa using List.find?_some found
  exact List.mem_of_find?_eq_some found

/-- Where names are distinct, to be found under a name is to be a member of it. -/
theorem get?_eq_some_iff (names : (members.map (·.1)).Nodup) :
    (Json.obj members).get? name = some j ↔ (name, j) ∈ members := by
  refine ⟨mem_of_get?_eq_some, fun mem => ?_⟩
  rw [get?, (find?_eq_some_iff_mem names).2 ⟨mem, rfl⟩]
  rfl

/-- The members of a written object are those that were given, if no name was given twice. -/
theorem mem_members_object (names : (members.map (·.1)).Nodup) :
    (name, j) ∈ (object members).members ↔ (name, j) ∈ members :=
  (KeyMap.ofList_perm names).mem_iff

theorem get?_object_eq_some_iff (names : (members.map (·.1)).Nodup) :
    (object members).get? name = some j ↔ (name, j) ∈ members :=
  (get?_eq_some_iff (KeyMap.nodup_keys _)).trans (mem_members_object names)

variable {given : List (String × Option Json)}

theorem names_present_sublist : ∀ given : List (String × Option Json),
    ((given.filterMap fun m => m.2.map fun v => (m.1, v)).map (·.1)).Sublist (given.map (·.1))
  | [] => .slnil
  | (_, none) :: rest => (names_present_sublist rest).cons _
  | (_, some _) :: rest => (names_present_sublist rest).cons_cons _

theorem mem_present : ((name, j) ∈ given.filterMap fun m => m.2.map fun v => (m.1, v)) ↔ (name, some j) ∈ given := by
  simp only [List.mem_filterMap, Option.map_eq_some_iff, Prod.mk.injEq, Prod.exists]
  exact ⟨fun ⟨_, _, mem, _, value, same, same'⟩ => by rwa [← same, ← same', ← value],
    fun mem => ⟨_, _, mem, _, rfl, rfl, rfl⟩⟩

theorem get?_objectOf_eq_some_iff (names : (given.map (·.1)).Nodup) :
    (objectOf given).get? name = some j ↔ (name, some j) ∈ given := by
  rw [objectOf, get?_object_eq_some_iff ((names_present_sublist given).nodup names), mem_present]

theorem get?_objectOf_of_mem {o : Option Json} (names : (given.map (·.1)).Nodup) (mem : (name, o) ∈ given) :
    (objectOf given).get? name = o := by
  refine Option.ext fun v => (get?_objectOf_eq_some_iff names).trans ⟨fun mem' => ?_, fun same => same ▸ mem⟩
  exact (Prod.mk.inj (List.inj_on_of_nodup_map names mem mem' rfl)).2

theorem get_object_of_mem (names : (members.map (·.1)).Nodup) (mem : (name, j) ∈ members) :
    (object members).get name = j := by
  rw [get, (get?_object_eq_some_iff names).2 mem]
  rfl

end Json
end SignOnOperator
