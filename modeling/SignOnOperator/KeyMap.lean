/-!
# Maps from names

A finite map from texts, kept as its entries in ascending order of the keys, so that equal maps have equal entries.
The order is by code point, which is also the order of the UTF-8 bytes.
-/
namespace SignOnOperator

/-- The entries with one more, which takes the place of an entry of the same key. -/
def insertEntry {α : Type} (key : String) (value : α) : List (String × α) → List (String × α)
  | [] => [(key, value)]
  | (k, v) :: rest =>
    if key < k then (key, value) :: (k, v) :: rest
    else if key = k then (key, value) :: rest
    else (k, v) :: insertEntry key value rest

theorem mem_insertEntry {α : Type} {key : String} {value : α} {entry : String × α} :
    ∀ {entries : List (String × α)}, entry ∈ insertEntry key value entries → entry = (key, value) ∨ entry ∈ entries
  | [], h => by simp_all [insertEntry]
  | (k, v) :: rest, h => by
    unfold insertEntry at h
    split at h
    · simp_all
    · split at h
      · simp_all
        rcases h with h | h <;> simp_all
      · rcases List.mem_cons.1 h with h | h
        · simp_all
        · rcases mem_insertEntry h with h | h <;> simp_all

/-- Ascending entries stay so. -/
theorem sorted_insertEntry {α : Type} (key : String) (value : α) :
    ∀ {entries : List (String × α)}, entries.Pairwise (fun a b => a.1 < b.1) →
      (insertEntry key value entries).Pairwise (fun a b => a.1 < b.1)
  | [], _ => by simp [insertEntry]
  | (k, v) :: rest, h => by
    obtain ⟨first, others⟩ := List.pairwise_cons.1 h
    unfold insertEntry
    split
    · rename_i lt
      refine List.pairwise_cons.2 ⟨fun e he => ?_, h⟩
      rcases List.mem_cons.1 he with rfl | he
      · exact lt
      · exact String.lt_trans lt (first e he)
    · split
      · rename_i eq
        subst eq
        exact List.pairwise_cons.2 ⟨first, others⟩
      · rename_i nlt ne
        refine List.pairwise_cons.2 ⟨fun e he => ?_, sorted_insertEntry key value others⟩
        rcases mem_insertEntry he with rfl | he
        · have le : k ≤ key := String.not_lt.1 nlt
          exact Classical.byContradiction fun h => ne (String.le_antisymm (String.not_lt.1 h) le)
        · exact first e he

/-- A finite map from texts. -/
structure KeyMap (α : Type) where
  entries : List (String × α) := []
  sorted : entries.Pairwise (fun a b => a.1 < b.1) := by simp

namespace KeyMap

variable {α β : Type}

@[ext]
theorem ext {a b : KeyMap α} (h : a.entries = b.entries) : a = b := by
  cases a; cases b; simp_all

instance [DecidableEq α] : DecidableEq (KeyMap α) := fun a b =>
  decidable_of_iff (a.entries = b.entries) ⟨ext, fun h => h ▸ rfl⟩

def empty : KeyMap α := {}

instance : Inhabited (KeyMap α) := ⟨empty⟩

def isEmpty (m : KeyMap α) : Bool := m.entries.isEmpty

def insert (m : KeyMap α) (key : String) (value : α) : KeyMap α :=
  ⟨insertEntry key value m.entries, sorted_insertEntry key value m.sorted⟩

/-- The map of the entries; of two entries with one key the later one counts. -/
def ofList (entries : List (String × α)) : KeyMap α :=
  entries.foldl (fun m e => m.insert e.1 e.2) empty

def get? (m : KeyMap α) (key : String) : Option α :=
  (m.entries.find? fun e => e.1 = key).map (·.2)

def contains (m : KeyMap α) (key : String) : Bool := (m.get? key).isSome

def keys (m : KeyMap α) : List String := m.entries.map (·.1)

/-- The map without one key. -/
def erase (m : KeyMap α) (key : String) : KeyMap α :=
  ⟨m.entries.filter fun e => e.1 ≠ key, m.sorted.filter _⟩

/-- The map with every value replaced. -/
def map (f : α → β) (m : KeyMap α) : KeyMap β :=
  ⟨m.entries.map fun e => (e.1, f e.2), List.pairwise_map.2 m.sorted⟩

/-- The entries of both; where both have a key, that of the second. -/
def union (m n : KeyMap α) : KeyMap α := n.entries.foldl (fun m e => m.insert e.1 e.2) m

end KeyMap
end SignOnOperator
