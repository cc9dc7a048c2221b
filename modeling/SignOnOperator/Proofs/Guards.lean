import Mathlib.Data.List.Basic
import SignOnOperator.Reconcile.InFlight
/-!
# Live guards

The keys in flight are those of the guards that are live, after any acts (`GuardRoom.Matched.after`).  Every act is
known by what it does to the guards: an attempt to take a key that a live guard has comes to nothing and leaves nothing
behind that could free the key later, and a guard that is dropped, however that comes about, takes its own key with it
and no other.
-/
namespace SignOnOperator

variable {key key' : SsoKey}

theorem SsoKey.eq_iff : key = key' ↔ key.namespaceName = key'.namespaceName ∧ key.name = key'.name := by
  cases key
  cases key'
  exact SsoKey.mk.injEq .. ▸ Iff.rfl

namespace InFlight

variable {s s' : InFlight}

theorem contains_iff : s.contains key = true ↔ key ∈ s.keys := List.contains_iff_mem

theorem tryAcquire_eq_none_iff : s.tryAcquire key = none ↔ key ∈ s.keys := by
  unfold tryAcquire
  split <;> simp [*]

theorem tryAcquire_eq_some_iff : s.tryAcquire key = some s' ↔ key ∉ s.keys ∧ s'.keys = key :: s.keys := by
  obtain ⟨keys', nodup'⟩ := s'
  unfold tryAcquire
  split
  · simp [*]
  · simp [*, eq_comm]

/-- Releasing what was just acquired undoes it. -/
theorem release_acquired (acquired : s.tryAcquire key = some s') : s'.release key = s := by
  obtain ⟨keys, nodup⟩ := s
  obtain ⟨-, added⟩ := tryAcquire_eq_some_iff.1 acquired
  simp only [release, added, List.erase_cons_head]

end InFlight

namespace GuardRoom

variable {room : GuardRoom} {label : String}

/-- The room after some acts, the first one first. -/
def after (room : GuardRoom) (acts : List Act) : GuardRoom := acts.foldl (fun room act => (room.perform act).1) room

/-- What happens to a room when something breaks down that keeps guards under some labels: one after another is
dropped. -/
def unwind (room : GuardRoom) (labels : List String) : GuardRoom := room.after (labels.map .drop)

/-- Each guard is kept under a label of its own, and the keys in flight are those of the guards. -/
structure Matched (room : GuardRoom) : Prop where
  labels : (room.guards.map (·.1)).Nodup
  keys : room.inFlight.keys.Perm (room.guards.map (·.2))

/-! ## The guard under a label -/

theorem held?_eq_none_iff : room.held? label = none ↔ ∀ g ∈ room.guards, g.1 ≠ label := by
  simp [held?]

theorem mem_of_held? (held : room.held? label = some key) : (label, key) ∈ room.guards := by
  unfold held? at held
  obtain ⟨⟨label', key⟩, found, rfl⟩ := Option.map_eq_some_iff.1 held
  obtain rfl : label' = label := by simpa using List.find?_some found
  exact List.mem_of_find?_eq_some found

/-- Where labels are distinct, the guards are the one under a label and those under others. -/
theorem perm_cons_filter : ∀ {guards : List (String × SsoKey)}, (guards.map (·.1)).Nodup → (label, key) ∈ guards →
    guards.Perm ((label, key) :: guards.filter fun g => g.1 ≠ label)
  | (label', key') :: rest, labels, mem => by
    rw [List.map_cons, List.nodup_cons] at labels
    obtain ⟨fresh, labels⟩ := labels
    rcases List.mem_cons.1 mem with same | mem
    · cases same
      have others : (rest.filter fun g => g.1 ≠ label) = rest := List.filter_eq_self.2 fun g hg => by
        simpa using fun same => fresh (List.mem_map.2 ⟨g, hg, same⟩)
      rw [List.filter_cons_of_neg (by simp), others]
    · have other : label' ≠ label := by
        rintro rfl
        exact fresh (List.mem_map.2 ⟨_, mem, rfl⟩)
      rw [List.filter_cons_of_pos (by simpa using other)]
      exact ((perm_cons_filter labels mem).cons _).trans (.swap _ _ _)

theorem Matched.held?_eq_some_iff (matched : room.Matched) :
    room.held? label = some key ↔ (label, key) ∈ room.guards := by
  refine ⟨mem_of_held?, fun mem => ?_⟩
  cases held : room.held? label with
  | none => exact absurd rfl (held?_eq_none_iff.1 held _ mem)
  | some key' =>
    -- Of two guards under one label one would be among those under other labels.
    rcases List.mem_cons.1 ((perm_cons_filter matched.labels (mem_of_held? held)).mem_iff.1 mem) with same | other
    · rw [(Prod.mk.inj same).2]
    · simp at other

/-! ## Dropping -/

theorem guards_drop : (room.drop label).guards = room.guards.filter fun g => g.1 ≠ label := by
  unfold drop
  cases held : room.held? label with
  | some key => rfl
  | none => exact (List.filter_eq_self.2 fun g hg => by simpa using held?_eq_none_iff.1 held g hg).symm

theorem keys_drop : (room.drop label).inFlight.keys =
    match room.held? label with
    | some key => room.inFlight.keys.erase key
    | none => room.inFlight.keys := by
  unfold drop
  cases room.held? label <;> rfl

/-- A guard that is dropped takes its own key with it and no other. -/
theorem contains_drop :
    (room.drop label).inFlight.contains key = true ↔
      room.inFlight.contains key = true ∧ room.held? label ≠ some key := by
  simp only [InFlight.contains_iff, keys_drop]
  cases room.held? label with
  | none => simp
  | some key' => simp [room.inFlight.nodup.mem_erase_iff, and_comm, eq_comm]

theorem Matched.drop (matched : room.Matched) (label : String) : (room.drop label).Matched where
  labels := by
    rw [guards_drop]
    exact matched.labels.sublist (List.filter_sublist.map _)
  keys := by
    rw [keys_drop]
    cases held : room.held? label with
    | none =>
      unfold GuardRoom.drop
      rw [held]
      exact matched.keys
    | some key =>
      have others := (perm_cons_filter matched.labels (mem_of_held? held)).map (·.2)
      rw [guards_drop]
      simpa using (matched.keys.trans others).erase key

/-! ## The acts -/

theorem perform_acquire_of_mem (mem : key ∈ room.inFlight.keys) :
    room.perform (.acquire label key) = (room, false) := by
  simp only [perform, InFlight.tryAcquire_eq_none_iff.2 mem]

/-- A guard with a new key takes the place of the guard under its label. -/
theorem Matched.perform_acquire (matched : room.Matched) (free : key ∉ room.inFlight.keys) (label : String) :
    (room.perform (.acquire label key)).2 = true ∧
      (room.perform (.acquire label key)).1.guards = (label, key) :: (room.drop label).guards ∧
      (room.perform (.acquire label key)).1.inFlight.keys = key :: (room.drop label).inFlight.keys := by
  cases acquired : room.inFlight.tryAcquire key with
  | none => exact absurd (InFlight.tryAcquire_eq_none_iff.1 acquired) free
  | some inFlight =>
    simp only [GuardRoom.perform, acquired]
    refine ⟨trivial, by rw [guards_drop, guards_drop], ?_⟩
    obtain ⟨-, added⟩ := InFlight.tryAcquire_eq_some_iff.1 acquired
    rw [keys_drop, keys_drop, show GuardRoom.held? ⟨inFlight, room.guards⟩ label = room.held? label from rfl]
    cases held : room.held? label with
    | none => exact added
    | some key' =>
      -- The guard that is replaced has another key, since its key is still in flight.
      have inside : key' ∈ room.inFlight.keys :=
        matched.keys.mem_iff.2 (List.mem_map.2 ⟨_, mem_of_held? held, rfl⟩)
      have other : ¬(key == key') = true := fun same => free (eq_of_beq same ▸ inside)
      simp only [added, List.erase_cons_tail other]

/-- A breakdown right after a key was taken leaves nothing behind. -/
theorem perform_acquireAndBreak : room.perform (.acquireAndBreak key) = (room, false) := by
  simp only [perform]
  cases acquired : room.inFlight.tryAcquire key with
  | none => rfl
  | some inFlight => simp only [InFlight.release_acquired acquired]

theorem Matched.perform (matched : room.Matched) (act : Act) : (room.perform act).1.Matched := by
  cases act with
  | contains key => exact matched
  | drop label => exact matched.drop label
  | acquireAndBreak key => exact perform_acquireAndBreak ▸ matched
  | acquire label key =>
    by_cases mem : key ∈ room.inFlight.keys
    · exact perform_acquire_of_mem mem ▸ matched
    · obtain ⟨-, guards, keys⟩ := matched.perform_acquire mem label
      have others := matched.drop label
      have fresh : label ∉ (room.drop label).guards.map (·.1) := by simp [guards_drop]
      exact ⟨guards ▸ List.nodup_cons.2 ⟨fresh, others.labels⟩, guards ▸ keys ▸ others.keys.cons key⟩

theorem Matched.after (matched : room.Matched) (acts : List Act) : (room.after acts).Matched := by
  induction acts generalizing room with
  | nil => exact matched
  | cons act acts ih => exact ih (matched.perform act)

theorem matched_empty : ({} : GuardRoom).Matched := ⟨.nil, .refl _⟩

theorem guards_unwind (labels : List String) :
    (room.unwind labels).guards = room.guards.filter fun g => g.1 ∉ labels := by
  induction labels generalizing room with
  | nil => simp [unwind, after]
  | cons label labels ih =>
    have dropped : room.unwind (label :: labels) = (room.drop label).unwind labels := rfl
    rw [dropped, ih, guards_drop, List.filter_filter]
    refine List.filter_congr fun g _ => ?_
    simp [Bool.and_comm]

/-! ## All together -/

/-- The keys in flight are exactly those of the live guards, of which no two have one key. -/
structure Mirrored (room : GuardRoom) : Prop where
  in_flight : ∀ key, room.inFlight.contains key = true ↔ ∃ label, (label, key) ∈ room.guards
  apart : (room.guards.map (·.2)).Nodup
  empty : room.inFlight.isEmpty = true ↔ room.guards = []

/-- What the acts come to.  An attempt succeeds if no live guard has that key in both parts; otherwise it changes
nothing.  What drops a guard, alone or with others, leaves the other guards, and their keys in flight. -/
structure Orderly (room : GuardRoom) : Prop where
  asked : ∀ key, room.perform (.contains key) = (room, room.inFlight.contains key)
  acquired : ∀ label key, (room.perform (.acquire label key)).2 = true ↔
    ∀ g ∈ room.guards, ¬(g.2.namespaceName = key.namespaceName ∧ g.2.name = key.name)
  refused : ∀ label key, (room.perform (.acquire label key)).2 = false →
    (room.perform (.acquire label key)).1 = room
  replaced : ∀ label key, (room.perform (.acquire label key)).2 = true →
    (room.perform (.acquire label key)).1.guards = (label, key) :: room.guards.filter fun g => g.1 ≠ label
  dropped : ∀ label, (room.perform (.drop label)).1.guards = room.guards.filter fun g => g.1 ≠ label
  freed : ∀ label key, (room.perform (.drop label)).1.inFlight.contains key = true ↔
    room.inFlight.contains key = true ∧ (label, key) ∉ room.guards
  unwound : ∀ labels, (room.unwind labels).guards = room.guards.filter fun g => g.1 ∉ labels
  released : ∀ labels key, (room.unwind labels).inFlight.contains key = true ↔
    ∃ label, label ∉ labels ∧ (label, key) ∈ room.guards
  broken : ∀ key, room.perform (.acquireAndBreak key) = (room, false)

namespace Matched

theorem contains_iff (matched : room.Matched) :
    room.inFlight.contains key = true ↔ ∃ label, (label, key) ∈ room.guards := by
  rw [InFlight.contains_iff, matched.keys.mem_iff, List.mem_map]
  exact ⟨fun ⟨⟨label, _⟩, mem, same⟩ => ⟨label, same ▸ mem⟩, fun ⟨_, mem⟩ => ⟨_, mem, rfl⟩⟩

theorem mirrored (matched : room.Matched) : room.Mirrored where
  in_flight _ := matched.contains_iff
  apart := matched.keys.nodup_iff.1 room.inFlight.nodup
  empty := by
    have length := matched.keys.length_eq
    rw [List.length_map] at length
    rw [InFlight.isEmpty, List.isEmpty_iff, ← List.length_eq_zero_iff, length, List.length_eq_zero_iff]

theorem acquires_iff (matched : room.Matched) :
    (room.perform (.acquire label key)).2 = true ↔ ∀ g ∈ room.guards, g.2 ≠ key := by
  by_cases mem : key ∈ room.inFlight.keys
  · obtain ⟨label', held⟩ := matched.contains_iff.1 (InFlight.contains_iff.2 mem)
    rw [perform_acquire_of_mem mem]
    exact iff_of_false nofun fun free => free _ held rfl
  · refine iff_of_true (matched.perform_acquire mem label).1 fun g hg same => mem ?_
    exact InFlight.contains_iff.1 (matched.contains_iff.2 ⟨g.1, same ▸ hg⟩)

theorem orderly (matched : room.Matched) : room.Orderly where
  asked _ := rfl
  acquired label key := by
    simp only [matched.acquires_iff, ne_eq, SsoKey.eq_iff]
  refused label key failed := by
    by_cases mem : key ∈ room.inFlight.keys
    · rw [perform_acquire_of_mem mem]
    · rw [(matched.perform_acquire mem label).1] at failed
      cases failed
  replaced label key succeeded := by
    by_cases mem : key ∈ room.inFlight.keys
    · rw [perform_acquire_of_mem mem] at succeeded
      cases succeeded
    · rw [(matched.perform_acquire mem label).2.1, guards_drop]
  dropped _ := guards_drop
  freed label key := by
    rw [← matched.held?_eq_some_iff]
    exact contains_drop
  unwound := guards_unwind
  released labels key := by
    rw [unwind, (matched.after _).contains_iff, ← unwind, guards_unwind]
    simp only [List.mem_filter, decide_eq_true_eq, and_comm]
  broken _ := perform_acquireAndBreak

end Matched

/-- **The keys in flight mirror the live guards after any acts**, and every further act comes to what it should. -/
theorem live_guards_mirrored (acts : List Act) :
    (after {} acts).Mirrored ∧ (after {} acts).Orderly :=
  have matched := matched_empty.after acts
  ⟨matched.mirrored, matched.orderly⟩

end GuardRoom
end SignOnOperator
