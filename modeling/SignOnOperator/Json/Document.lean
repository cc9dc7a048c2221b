import SignOnOperator.Json.Basic
/-!
# JSON documents

What a JSON text holds, with the places in the text that a reader's complaints point at.  Members stay in the order
of the text and may repeat.  Where the text stops being JSON the document has a broken part, so that a reader that
meets something it refuses earlier in the text reports that first.
-/
namespace SignOnOperator

/-- A place in a text: the line, from 1, and the number of bytes before it in its line. -/
structure Place where
  line : Nat := 1
  column : Nat := 0
  deriving DecidableEq, Repr

/-- A complaint about a document and where it arose. -/
structure Fault where
  message : String
  place : Place := {}
  deriving DecidableEq, Repr

/-- Where a value begins and ends. -/
structure Span where
  first : Place := {}
  last : Place := {}

/-- A member of an object: its name, the places where a reader stands after the name and after the value, and the
complaint of a reader that passes over the value, if it has one. -/
structure Member (α : Type) where
  name : String
  afterName : Place := {}
  value : α
  afterValue : Place := {}
  passing : Option Fault := none

/-- A JSON text or value under reading.  The place `inner` of a list is the one after its opening bracket; `last` is
the one after the whole value; a fault in `stop` is met after the members. -/
inductive Document where
  | null (span : Span)
  | bool (b : Bool) (span : Span)
  | int (n : Int) (span : Span)
  | float (x : Double) (span : Span)
  | str (s : String) (span : Span)
  | arr (items : List Document) (span : Span) (inner : Place)
  | obj (members : List (Member Document)) (stop : Option Fault) (span : Span)
  | broken (fault : Fault)

namespace Document

instance : Inhabited Document := ⟨.null {}⟩

mutual

/-- A value as a document without places. -/
def ofJson : Json → Document
  | .null => .null {}
  | .bool b => .bool b {}
  | .int n => .int n {}
  | .float x => .float x {}
  | .str s => .str s {}
  | .arr items => .arr (ofItems items) {} {}
  | .obj members => .obj (ofMembers members) none {}

def ofItems : List Json → List Document
  | [] => []
  | j :: rest => ofJson j :: ofItems rest

def ofMembers : List (String × Json) → List (Member Document)
  | [] => []
  | (name, j) :: rest => { name := name, value := ofJson j } :: ofMembers rest

end

mutual

/-- The value that the document holds, if no part of it is broken. -/
def toJson : Document → Except Fault Json
  | .null _ => .ok .null
  | .bool b _ => .ok (.bool b)
  | .int n _ => .ok (.int n)
  | .float x _ => .ok (.float x)
  | .str s _ => .ok (.str s)
  | .arr items _ _ => (toItems items).map .arr
  | .obj members stop _ => do
    let members ← toMembers members
    match stop with
    | some fault => .error fault
    | none => .ok (.object members)
  | .broken fault => .error fault

def toItems : List Document → Except Fault (List Json)
  | [] => .ok []
  | d :: rest => do
    let j ← toJson d
    let js ← toItems rest
    .ok (j :: js)

def toMembers : List (Member Document) → Except Fault (List (String × Json))
  | [] => .ok []
  | ⟨name, _, d, _, _⟩ :: rest => do
    let j ← toJson d
    let js ← toMembers rest
    .ok ((name, j) :: js)

end

/-- Where the value begins. -/
def first : Document → Place
  | .null span | .bool _ span | .int _ span | .float _ span | .str _ span | .arr _ span _ | .obj _ _ span => span.first
  | .broken fault => fault.place

/-- Where the value ends. -/
def last : Document → Place
  | .null span | .bool _ span | .int _ span | .float _ span | .str _ span | .arr _ span _ | .obj _ _ span => span.last
  | .broken fault => fault.place

end Document
end SignOnOperator
