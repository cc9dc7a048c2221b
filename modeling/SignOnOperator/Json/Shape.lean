import SignOnOperator.Json.Text
import SignOnOperator.Text.Quoted
/-!
# Shapes of JSON

A shape accepts the documents of one kind and puts what they say into one normal form: unknown members are gone, and
what a reader may leave out is filled in or gone.  A shape complains about the first thing in the document's order
that it cannot accept.

Two kinds of records occur.  A *lenient* one is given by an object only; a member that is `null` counts as missing.
A *strict* one is given by an object or by the list of its fields in order; `null` has no meaning of its own.
-/
namespace SignOnOperator

/-- How to read one kind of value, and the value that stands in for a missing one. -/
structure Shape where
  read : Document → Except Fault Json
  blank : Json := .null

namespace Document

/-- What a document shows where something else was expected. -/
def describe : Document → String
  | .null _ => "null"
  | .bool b _ => s!"boolean \x60{b}\x60"
  | .int n _ => s!"integer \x60{n}\x60"
  | .float x _ => s!"floating point \x60{x.positional}\x60"
  | .str s _ => s!"string {Text.quoted s}"
  | .arr _ _ _ => "sequence"
  | .obj _ _ _ => "map"
  | .broken fault => fault.message

/-- Where a reader stands that looked at a value and refused it: it has not gone into a list or an object. -/
def refusedAt (d : Document) : Place :=
  match d with
  | .arr _ _ _ | .obj _ _ _ => d.first
  | _ => d.last

/-- The complaint about a value of a wrong kind. -/
def wrongType (expected : String) (d : Document) : Fault :=
  match d with
  | .broken fault => fault
  | _ => ⟨s!"invalid type: {d.describe}, expected {expected}", d.refusedAt⟩

/-- The complaint about a value of the right kind that is not among those allowed. -/
def wrongValue (expected : String) (d : Document) : Fault :=
  ⟨s!"invalid value: {d.describe}, expected {expected}", d.refusedAt⟩

/-- The complaint of a reader that does not take lists about a list. -/
def wrongList (expected : String) (inner : Place) : Fault :=
  ⟨s!"invalid type: sequence, expected {expected}", inner⟩

end Document

namespace Shape

/-- Any text. -/
def text : Shape where
  read
    | .str s _ => .ok (.str s)
    | d => .error (d.wrongType "a string")
  blank := .str ""

def boolean : Shape where
  read
    | .bool b _ => .ok (.bool b)
    | d => .error (d.wrongType "a boolean")
  blank := .bool false

/-- The whole numbers from `low` up to `high`, under a name. -/
def integer (name : String) (low high : Int) : Shape where
  read
    | .int n span => if low ≤ n ∧ n ≤ high then .ok (.int n) else .error ((Document.int n span).wrongValue name)
    | d => .error (d.wrongType name)
  blank := .int 0

def int32 : Shape := integer "i32" (-2147483648) 2147483647
def int64 : Shape := integer "i64" (-9223372036854775808) 9223372036854775807
def uint16 : Shape := integer "u16" 0 65535

/-- Any value as it is. -/
def anything : Shape where
  read d := d.toJson

/-- A text in a form that `normal` knows, written in its normal form. -/
def formatted (expected : String) (blank : String) (normal : String → Except String String) : Shape where
  read
    | .str s span =>
      match normal s with
      | .ok t => .ok (.str t)
      | .error message => .error ⟨message, span.last⟩
    | d => .error (d.wrongType expected)
  blank := .str blank

/-- The same shape, or `null` for nothing. -/
def optional (shape : Shape) : Shape where
  read
    | .null _ => .ok .null
    | d => shape.read d

/-- Reads the items one after another. -/
def readItems (read : Document → Except Fault Json) : List Document → Except Fault (List Json)
  | [] => .ok []
  | d :: rest => do
    let j ← read d
    let js ← readItems read rest
    return j :: js

def list (item : Shape) : Shape where
  read
    | .arr items _ _ => (readItems item.read items).map .arr
    | d => .error (d.wrongType "a sequence")
  blank := .arr []

/-- Reads the values of the members one after another; of two with one name the later one counts. -/
def readValues (read : Document → Except Fault Json) :
    List (Member Document) → KeyMap Json → Except Fault (KeyMap Json)
  | [], found => .ok found
  | m :: rest, found => do
    let j ← read m.value
    readValues read rest (found.insert m.name j)

/-- An object with members of any name and one shape. -/
def map (value : Shape) : Shape where
  read
    | .obj members stop _ => do
      let found ← readValues value.read members .empty
      match stop with
      | some fault => .error fault
      | none => return .obj found.entries
    | d => .error (d.wrongType "a map")
  blank := .obj []

/-! ## Lenient records -/

/-- A field of a lenient record; one that is required is always there after reading, blank if it was missing. -/
structure Field where
  name : String
  shape : Shape
  required : Bool := false

/-- A member whose text must be a given one. -/
structure Mark where
  name : String
  value : String

/-- Reads the members that the record knows.  A mark that does not hold is complained about. -/
def readLenient (marks : List Mark) (fields : List Field) :
    List (Member Document) → KeyMap Json → Except Fault (KeyMap Json)
  | [], found => .ok found
  | m :: rest, found =>
    match marks.find? fun mark => mark.name = m.name with
    | some mark =>
      match m.value with
      | .str s span =>
        if s = mark.value then readLenient marks fields rest found
        else .error ⟨((Document.str s span).wrongValue mark.value).message, m.afterValue⟩
      | d => .error (d.wrongType "a string")
    | none =>
      match fields.find? fun field => field.name = m.name with
      | some field => do
        let j ← field.shape.optional.read m.value
        readLenient marks fields rest (if j.isNull then found.erase m.name else found.insert m.name j)
      | none =>
        match m.passing with
        | some fault => .error fault
        | none => readLenient marks fields rest found

/-- The fields in the normal form, given those that were found. -/
def fillLenient (marks : List Mark) (fields : List Field) (found : KeyMap Json) : Json :=
  .objectOf ((marks.map fun m => (m.name, some (.str m.value))) ++
    fields.map fun field =>
      (field.name, match found.get? field.name with
        | some j => some j
        | none => if field.required then some field.shape.blank else none))

/-- A lenient record under its name.  Marks are written, and checked where they are given. -/
def marked (name : String) (marks : List Mark) (fields : List Field) : Shape where
  read
    | .obj members stop _ => do
      let found ← readLenient marks fields members .empty
      match stop with
      | some fault => .error fault
      | none => return fillLenient marks fields found
    | .arr _ _ inner => .error (Document.wrongList name inner)
    | d => .error (d.wrongType name)
  blank := fillLenient marks fields .empty

def lenient (name : String) (fields : List Field) : Shape := marked name [] fields

/-! ## Strict records -/

/-- A field of a strict record, with the values that stand in for it where an object leaves it out and where a list
ends before it. -/
structure Slot where
  name : String
  shape : Shape
  whenMissing : Option Json := none
  whenCutOff : Option Json := none

/-- A field that must be given. -/
def Slot.required (name : String) (shape : Shape) : Slot := { name, shape }

/-- A field whose value may be nothing. -/
def Slot.optional (name : String) (shape : Shape) : Slot :=
  { name, shape := shape.optional, whenMissing := some .null }

/-- A field with a default. -/
def Slot.defaulted (name : String) (shape : Shape) (value : Json) : Slot :=
  { name, shape, whenMissing := some value, whenCutOff := some value }

/-- Reads the members that the record knows, each at most once. -/
def readStrict (slots : List Slot) : List (Member Document) → KeyMap Json → Except Fault (KeyMap Json)
  | [], found => .ok found
  | m :: rest, found =>
    match slots.find? fun slot => slot.name = m.name with
    | some slot =>
      if found.contains m.name then .error ⟨s!"duplicate field \x60{m.name}\x60", m.afterName⟩
      else do
        let j ← slot.shape.read m.value
        readStrict slots rest (found.insert m.name j)
    | none =>
      match m.passing with
      | some fault => .error fault
      | none => readStrict slots rest found

/-- The fields in order, given those that were found; the first one that must not be missing is complained about. -/
def fillStrict (found : KeyMap Json) (place : Place) : List Slot → Except Fault (List (String × Json))
  | [] => .ok []
  | slot :: rest =>
    match (found.get? slot.name).or slot.whenMissing with
    | some j => (fillStrict found place rest).map ((slot.name, j) :: ·)
    | none => .error ⟨s!"missing field \x60{slot.name}\x60", place⟩

/-- Reads the fields of a list in order, the `index`-th first.  What is left of the list is given back. -/
def readInOrder (expected : String) (place : Place) :
    Nat → List Slot → List Document → Except Fault (List (String × Json) × List Document)
  | _, [], rest => .ok ([], rest)
  | index, slot :: slots, [] =>
    match slot.whenCutOff with
    | some j => do
      let (fields, rest) ← readInOrder expected place (index + 1) slots []
      return ((slot.name, j) :: fields, rest)
    | none => .error ⟨s!"invalid length {index}, expected {expected}", place⟩
  | index, slot :: slots, d :: items => do
    let j ← slot.shape.read d
    let (fields, rest) ← readInOrder expected place (index + 1) slots items
    return ((slot.name, j) :: fields, rest)

/-- How the fields of a strict record are counted in a complaint. -/
def lengthName (name : String) (count : Nat) : String :=
  s!"struct {name} with {count} element" ++ if count = 1 then "" else "s"

/-- The complaint about items after the last field. -/
def tooMany (count : Nat) (extra : Document) (span : Span) : Fault :=
  if span.last = {} then ⟨s!"invalid length {count}, expected fewer elements in array", {}⟩
  else ⟨"trailing characters", ⟨extra.first.line, extra.first.column + 1⟩⟩

/-- A strict record under its name. -/
def strict (name : String) (slots : List Slot) : Shape where
  read
    | .obj members stop span => do
      let found ← readStrict slots members .empty
      match stop with
      | some fault => .error fault
      | none => return .object (← fillStrict found span.last slots)
    | .arr items span _ => do
      let (fields, rest) ← readInOrder (lengthName name slots.length) span.last 0 slots items
      match rest with
      | [] => return .object fields
      | .broken fault :: _ => .error fault
      | extra :: _ => .error (tooMany items.length extra span)
    | d => .error (d.wrongType s!"struct {name}")

/-! ## Entry points -/

/-- Reads a value. -/
def ofJson (shape : Shape) (j : Json) : Except String Json :=
  match shape.read (.ofJson j) with
  | .ok j => .ok j
  | .error fault => .error fault.message

/-- Reads a text; complaints name the place. -/
def ofText (shape : Shape) (text : String) : Except String Json :=
  let located (fault : Fault) : String :=
    s!"{fault.message} at line {fault.place.line} column {fault.place.column}"
  let (document, trailing) := Document.ofText text
  match shape.read document, trailing with
  | .error fault, _ => .error (located fault)
  | .ok _, some fault => .error (located fault)
  | .ok j, none => .ok j

end Shape
end SignOnOperator
