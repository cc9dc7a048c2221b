import SignOnOperator.Wire.Varint
/-!
# Fields of a binary message

A message is a sequence of fields.  A field begins with a key, which holds its number and the form of what follows, so
that a reader can pass over fields that it does not know.
-/
namespace SignOnOperator.Wire

/-- The forms of a field. -/
inductive FieldType where
  | varint | fixed64 | block | groupStart | groupEnd | fixed32
  deriving DecidableEq, Repr

namespace FieldType

/-- The forms in the order of their numbers. -/
def all : List FieldType := [varint, fixed64, block, groupStart, groupEnd, fixed32]

def ofNumber? (n : Nat) : Option FieldType := all[n]?

def number : FieldType → Nat
  | varint => 0
  | fixed64 => 1
  | block => 2
  | groupStart => 3
  | groupEnd => 4
  | fixed32 => 5

def describe : FieldType → String
  | varint => "Varint"
  | fixed64 => "SixtyFourBit"
  | block => "LengthDelimited"
  | groupStart => "StartGroup"
  | groupEnd => "EndGroup"
  | fixed32 => "ThirtyTwoBit"

end FieldType

/-- Why bytes are no message. -/
inductive Cause where
  | varint
  | key (value : Nat)
  | fieldType (number : Nat)
  | noNumber
  | otherType (found expected : FieldType)
  | underflow
  | notText
  | overrun
  | groupEnd
  | tooDeep
  deriving DecidableEq, Repr

def Cause.message : Cause → String
  | varint => "invalid varint"
  | key value => s!"invalid key value: {value}"
  | fieldType number => s!"invalid wire type value: {number}"
  | noNumber => "invalid tag value: 0"
  | otherType found expected => s!"invalid wire type: {found.describe} (expected {expected.describe})"
  | underflow => "buffer underflow"
  | notText => "invalid string value: data is not UTF-8 encoded"
  | overrun => "delimited length exceeded"
  | groupEnd => "unexpected end group tag"
  | tooDeep => "recursion limit reached"

/-- Why bytes are no message, and the fields on the way to the fault, each with its message, the innermost first. -/
structure Fault where
  cause : Cause
  path : List (String × String) := []
  deriving DecidableEq, Repr

namespace Fault

def message (f : Fault) : String :=
  "failed to decode Protobuf message: " ++ String.join (f.path.map fun step => s!"{step.1}.{step.2}: ") ++
    f.cause.message

/-- The same fault, seen from the message that has the field. -/
def within (f : Fault) (message field : String) : Fault := { f with path := f.path ++ [(message, field)] }

end Fault

/-- Reads a number. -/
def readVarint (bytes : Bytes) : Except Cause (Nat × Bytes) :=
  match readVarint? bytes with
  | some r => .ok r
  | none => .error .varint

/-- The key of a field. -/
def encodeKey (number : Nat) (type : FieldType) : Bytes := encodeVarint (number * 8 + type.number)

/-- Reads a key, which must fit into 32 bits. -/
def readKey (bytes : Bytes) : Except Cause ((Nat × FieldType) × Bytes) := do
  let (key, rest) ← readVarint bytes
  if Nat.pow 2 32 ≤ key then throw (.key key)
  match FieldType.ofNumber? (key % 8) with
  | none => throw (.fieldType (key % 8))
  | some type => if key / 8 = 0 then throw .noNumber else return ((key / 8, type), rest)

/-- Bytes with their number before them. -/
def encodeBlock (payload : Bytes) : Bytes := encodeVarint payload.length ++ payload

/-- Takes so many bytes. -/
def readExactly (count : Nat) (bytes : Bytes) : Except Cause (Bytes × Bytes) :=
  if bytes.length < count then .error .underflow else .ok (bytes.take count, bytes.drop count)

def readBlock (bytes : Bytes) : Except Cause (Bytes × Bytes) := do
  let (length, rest) ← readVarint bytes
  readExactly length rest

/-! ## Passing over fields -/

/-- Passes over what follows the key of a field that is no group. -/
def skipPlain : FieldType → Bytes → Except Cause Bytes
  | .varint, bytes => (readVarint bytes).map (·.2)
  | .fixed64, bytes => (readExactly 8 bytes).map (·.2)
  | .fixed32, bytes => (readExactly 4 bytes).map (·.2)
  | .block, bytes => (readBlock bytes).map (·.2)
  | .groupStart, _ | .groupEnd, _ => .error .groupEnd

/-- Passes over a group's fields and its end.  `depth` bounds how deep its fields may nest; the first number only
counts keys, of which there are no more than bytes. -/
def skipGroup : Nat → Nat → Nat → Bytes → Except Cause Bytes
  | 0, _, _, _ => .error .varint
  | keys + 1, depth, number, bytes => do
    let ((inner, type), rest) ← readKey bytes
    if type = .groupEnd then
      if inner = number then return rest else throw .groupEnd
    else if depth ≤ 1 then throw .tooDeep
    else
      let rest ← if type = .groupStart then skipGroup keys (depth - 1) inner rest else skipPlain type rest
      skipGroup keys depth number rest

/-- Passes over a field whose key was read. -/
def skipField (depth number : Nat) (type : FieldType) (bytes : Bytes) : Except Cause Bytes :=
  if depth = 0 then .error .tooDeep
  else if type = .groupStart then skipGroup (bytes.length + 1) depth number bytes
  else skipPlain type bytes

end SignOnOperator.Wire
