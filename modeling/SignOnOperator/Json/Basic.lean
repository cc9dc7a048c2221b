import SignOnOperator.Decimal.Double
import SignOnOperator.KeyMap
/-!
# JSON values

A value keeps whole numbers apart from floating point ones, and the members of an object in ascending order of their
names, so that two spellings of one object are one value.
-/
namespace SignOnOperator

/-- A JSON value.  `int` holds the whole numbers of 64 bits, signed or not; every other number is a `float`. -/
inductive Json where
  | null
  | bool (b : Bool)
  | int (n : Int)
  | float (x : Double)
  | str (s : String)
  | arr (items : List Json)
  | obj (members : List (String × Json))

namespace Json

instance : Inhabited Json := ⟨.null⟩

/-- The object of the members; of two members with one name the later one counts. -/
def object (members : List (String × Json)) : Json := .obj (KeyMap.ofList members).entries

/-- The object of the members that are present. -/
def objectOf (members : List (String × Option Json)) : Json :=
  object (members.filterMap fun m => m.2.map fun v => (m.1, v))

def strings (texts : List String) : Json := .arr (texts.map .str)

/-- The object whose members are texts. -/
def textMap (m : KeyMap String) : Json := .obj (m.map .str).entries

/-- The member of an object; nothing for any other value. -/
def get? (name : String) : Json → Option Json
  | .obj members => (members.find? fun m => m.1 = name).map (·.2)
  | _ => none

/-- The member of an object, `null` if there is none. -/
def get (name : String) (j : Json) : Json := (j.get? name).getD .null

def isNull : Json → Bool
  | .null => true
  | _ => false

def str? : Json → Option String
  | .str s => some s
  | _ => none

def int? : Json → Option Int
  | .int n => some n
  | _ => none

def bool? : Json → Option Bool
  | .bool b => some b
  | _ => none

def arr? : Json → Option (List Json)
  | .arr items => some items
  | _ => none

def obj? : Json → Option (List (String × Json))
  | .obj members => some members
  | _ => none

/-- The text of a text, the empty one for any other value. -/
def text (j : Json) : String := j.str?.getD ""

/-- The items of an array, none for any other value. -/
def items (j : Json) : List Json := j.arr?.getD []

/-- The members of an object, none for any other value. -/
def members (j : Json) : List (String × Json) := j.obj?.getD []

/-- The texts among the items of an array. -/
def texts (j : Json) : List String := j.items.filterMap str?

/-- The members of an object that are texts. -/
def textMembers (j : Json) : KeyMap String :=
  KeyMap.ofList (j.members.filterMap fun m => m.2.str?.map fun s => (m.1, s))

end Json
end SignOnOperator
