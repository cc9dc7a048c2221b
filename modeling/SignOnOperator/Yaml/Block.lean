import SignOnOperator.Json.Basic
import SignOnOperator.Yaml.Scalar
/-!
# YAML in block style

Values as indented lines: a member or an item on each, the items of a list under a member not indented further.
-/
namespace SignOnOperator

/-- A value to be written as YAML; members keep their order. -/
inductive Yaml where
  | null
  | bool (b : Bool)
  | int (n : Int)
  | str (s : String)
  | seq (items : List Yaml)
  | map (members : List (String × Yaml))

namespace Yaml

mutual

/-- A JSON value; a number with a point counts as text. -/
def ofJson : Json → Yaml
  | .null => .null
  | .bool b => .bool b
  | .int n => .int n
  | .float x => .str x.compact
  | .str s => .str s
  | .arr items => .seq (ofItems items)
  | .obj members => .map (ofMembers members)

def ofItems : List Json → List Yaml
  | [] => []
  | j :: rest => ofJson j :: ofItems rest

def ofMembers : List (String × Json) → List (String × Yaml)
  | [] => []
  | (name, j) :: rest => (name, ofJson j) :: ofMembers rest

end

/-- Ends the line, unless it has ended. -/
def endLine (line : String) : String :=
  match line.toList.getLast? with
  | some c => if isBreak c then line else line ++ "\n"
  | none => line ++ "\n"

def margin (indent : Nat) : String := String.ofList (blanks indent)

mutual

/-- What stands after a name and its colon, in a mapping indented by `indent`. -/
def afterName (indent : Nat) : Yaml → String
  | .null => " null\n"
  | .bool b => if b then " true\n" else " false\n"
  | .int n => s!" {n}\n"
  | .str s => endLine (" " ++ scalar (indent + 2) s)
  | .seq [] => " []\n"
  | .seq items => "\n" ++ renderItems indent items
  | .map [] => " \x7b\x7d\n"
  | .map members => "\n" ++ renderMembers (indent + 2) members

/-- What stands after the dash of an item, in a list indented by `indent`. -/
def afterDash (indent : Nat) : Yaml → String
  | .null => "null\n"
  | .bool b => if b then "true\n" else "false\n"
  | .int n => s!"{n}\n"
  | .str s => endLine (scalar (indent + 2) s)
  | .seq [] => "[]\n"
  | .seq (item :: rest) => "- " ++ afterDash (indent + 2) item ++ renderItems (indent + 2) rest
  | .map [] => "\x7b\x7d\n"
  | .map ((name, value) :: rest) =>
    scalar (indent + 2) name ++ ":" ++ afterName (indent + 2) value ++ renderMembers (indent + 2) rest

def renderItems (indent : Nat) : List Yaml → String
  | [] => ""
  | item :: rest => margin indent ++ "- " ++ afterDash indent item ++ renderItems indent rest

def renderMembers (indent : Nat) : List (String × Yaml) → String
  | [] => ""
  | (name, value) :: rest =>
    margin indent ++ scalar indent name ++ ":" ++ afterName indent value ++ renderMembers indent rest

end

/-- The text of a value. -/
def render : Yaml → String
  | .seq (item :: rest) => renderItems 0 (item :: rest)
  | .map (member :: rest) => renderMembers 0 (member :: rest)
  | value => afterDash 0 value

end Yaml
end SignOnOperator
