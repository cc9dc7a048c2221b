import SignOnOperator.Sso.Basic
/-!
# Keys in flight

The keys of the SSOs that are being dealt with, each at most once, and the guards that hold them.  A guard holds its
key from the moment it is taken until it is dropped, however that comes about.
-/
namespace SignOnOperator

/-- A set of keys. -/
structure InFlight where
  keys : List SsoKey := []
  nodup : keys.Nodup := by simp

namespace InFlight

def empty : InFlight := {}

def contains (s : InFlight) (key : SsoKey) : Bool := s.keys.contains key

def isEmpty (s : InFlight) : Bool := s.keys.isEmpty

/-- The set with one more key, if that is not in it. -/
def tryAcquire (s : InFlight) (key : SsoKey) : Option InFlight :=
  if h : key ∈ s.keys then none else some ⟨key :: s.keys, List.nodup_cons.2 ⟨h, s.nodup⟩⟩

/-- The set without a key. -/
def release (s : InFlight) (key : SsoKey) : InFlight := ⟨s.keys.erase key, s.nodup.erase key⟩

end InFlight

/-- Guards by the labels under which they are kept, and the keys that they hold. -/
structure GuardRoom where
  inFlight : InFlight := .empty
  guards : List (String × SsoKey) := []

namespace GuardRoom

/-- What is done with guards.  A breakdown that happens while a guard is held drops it. -/
inductive Act where
  | acquire (label : String) (key : SsoKey)
  | drop (label : String)
  | contains (key : SsoKey)
  | acquireAndBreak (key : SsoKey)
  deriving DecidableEq, Repr

/-- The key of the guard under a label. -/
def held? (room : GuardRoom) (label : String) : Option SsoKey :=
  (room.guards.find? fun g => g.1 = label).map (·.2)

/-- Drops the guard under a label, if there is one. -/
def drop (room : GuardRoom) (label : String) : GuardRoom :=
  match room.held? label with
  | some key => ⟨room.inFlight.release key, room.guards.filter fun g => g.1 ≠ label⟩
  | none => room

/-- The room after an act, and whether the act came to something.  A guard that takes the place of another one is
taken first. -/
def perform (room : GuardRoom) : Act → GuardRoom × Bool
  | .acquire label key =>
    match room.inFlight.tryAcquire key with
    | some inFlight =>
      let after := { room with inFlight }.drop label
      ({ after with guards := (label, key) :: after.guards }, true)
    | none => (room, false)
  | .drop label => (room.drop label, (room.held? label).isSome)
  | .contains key => (room, room.inFlight.contains key)
  | .acquireAndBreak key =>
    match room.inFlight.tryAcquire key with
    | some inFlight => ({ room with inFlight := inFlight.release key }, false)
    | none => (room, false)

end GuardRoom
end SignOnOperator
