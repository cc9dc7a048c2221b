import SignOnOperator.Wire.Field
/-!
# Messages as records

How a structure is written as a message and read back.  A slot ties one component of the structure to a field.  What a
component has by default is not written; a component that no field sets keeps its default; fields without a slot are
passed over.  A field that occurs again replaces the component, adds to a list, or goes on with a nested record.
-/
namespace SignOnOperator.Wire

/-- One component of a structure as a field. -/
structure Slot (α : Type) where
  number : Nat
  name : String
  type : FieldType
  /-- Reads what follows the key into the structure; the number says how deep fields may still nest. -/
  read : Nat → α → Bytes → Except Fault (α × Bytes)
  write : α → Bytes

/-- A structure as a message, under its name. -/
structure Record (α : Type) where
  name : String
  initial : α
  slots : List (Slot α)

/-- A failure outside of any field. -/
def located {β : Type} (result : Except Cause β) : Except Fault β := result.mapError fun cause => ⟨cause, []⟩

namespace Record

variable {α : Type}

/-- Reads one field. -/
def readField (r : Record α) (depth : Nat) (a : α) (bytes : Bytes) : Except Fault (α × Bytes) := do
  let ((number, type), rest) ← located (readKey bytes)
  match r.slots.find? fun slot => slot.number = number with
  | none =>
    let rest ← located (skipField depth number type rest)
    return (a, rest)
  | some slot =>
    let result := if type = slot.type then slot.read depth a rest else .error ⟨.otherType type slot.type, []⟩
    result.mapError fun fault => fault.within r.name slot.name

/-- Reads fields until no more than `left` bytes are left.  The first number only counts fields, of which there are no
more than bytes. -/
def readFields (r : Record α) (depth left : Nat) : Nat → α → Bytes → Except Fault (α × Bytes)
  | 0, a, bytes => .ok (a, bytes)
  | count + 1, a, bytes =>
    if bytes.length ≤ left then .ok (a, bytes)
    else do
      let (a, rest) ← r.readField depth a bytes
      r.readFields depth left count a rest

/-- How deep messages and groups may nest. -/
def maxDepth : Nat := 100

/-- The structure that a message holds. -/
def decode (r : Record α) (bytes : Bytes) : Except Fault α := do
  let (a, _) ← r.readFields maxDepth 0 bytes.length r.initial bytes
  return a

/-- The message of a structure: its fields in the order of the slots. -/
def encode (r : Record α) (a : α) : Bytes := r.slots.flatMap fun slot => slot.write a

end Record

namespace Slot

variable {α β : Type}

/-- A field with a block. -/
def writeBlock (number : Nat) (payload : Bytes) : Bytes := encodeKey number .block ++ encodeBlock payload

def readText (bytes : Bytes) : Except Fault (String × Bytes) := do
  let (payload, rest) ← located (readBlock bytes)
  match payload.toString? with
  | some text => return (text, rest)
  | none => throw ⟨.notText, []⟩

/-- A text. -/
def text (number : Nat) (name : String) (get : α → String) (set : String → α → α) : Slot α where
  number := number
  name := name
  type := .block
  read _ a bytes := (readText bytes).map fun r => (set r.1 a, r.2)
  write a := if get a = "" then [] else writeBlock number (.ofString (get a))

/-- Any number of texts, each in a field of its own. -/
def texts (number : Nat) (name : String) (get : α → List String) (set : List String → α → α) : Slot α where
  number := number
  name := name
  type := .block
  read _ a bytes := (readText bytes).map fun r => (set (get a ++ [r.1]) a, r.2)
  write a := (get a).flatMap fun text => writeBlock number (.ofString text)

/-- A yes or no; every number but zero means yes. -/
def flag (number : Nat) (name : String) (get : α → Bool) (set : Bool → α → α) : Slot α where
  number := number
  name := name
  type := .varint
  read _ a bytes := (located (readVarint bytes)).map fun r => (set (r.1 ≠ 0) a, r.2)
  write a := if get a then encodeKey number .varint ++ encodeVarint 1 else []

/-- A record of its own, if it is there. -/
def record (number : Nat) (name : String) (inner : Record β) (get : α → Option β) (set : Option β → α → α) :
    Slot α where
  number := number
  name := name
  type := .block
  read depth a bytes := do
    if depth = 0 then throw ⟨.tooDeep, []⟩
    let (length, rest) ← located (readVarint bytes)
    if rest.length < length then throw ⟨.underflow, []⟩
    let left := rest.length - length
    let (b, rest) ← inner.readFields (depth - 1) left length ((get a).getD inner.initial) rest
    if rest.length < left then throw ⟨.overrun, []⟩
    return (set (some b) a, rest)
  write a :=
    match get a with
    | none => []
    | some b => writeBlock number (inner.encode b)

end Slot
end SignOnOperator.Wire
