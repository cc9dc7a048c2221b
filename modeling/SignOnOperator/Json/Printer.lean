import SignOnOperator.Bytes.Hex
import SignOnOperator.Json.Basic
/-!
# Printing JSON

The compact text of a value: no blanks, and only the escapes that are needed.
-/
namespace SignOnOperator.Json

/-- One character of a JSON text. -/
def escapedChar (c : Char) : List Char :=
  if c = '"' then ['\\', '"']
  else if c = '\\' then ['\\', '\\']
  else if c.toNat = 8 then ['\\', 'b']
  else if c.toNat = 9 then ['\\', 't']
  else if c.toNat = 10 then ['\\', 'n']
  else if c.toNat = 12 then ['\\', 'f']
  else if c.toNat = 13 then ['\\', 'r']
  else if c.toNat < 32 then ['\\', 'u', '0', '0', hexDigit (c.toNat / 16), hexDigit (c.toNat % 16)]
  else [c]

def printString (s : String) : String := String.ofList ('"' :: s.toList.flatMap escapedChar ++ ['"'])

mutual

def print : Json → String
  | .null => "null"
  | .bool b => if b then "true" else "false"
  | .int n => toString n
  | .float x => x.compact
  | .str s => printString s
  | .arr items => "[" ++ printItems items ++ "]"
  | .obj members => "\x7b" ++ printMembers members ++ "\x7d"

def printItems : List Json → String
  | [] => ""
  | [j] => j.print
  | j :: rest => j.print ++ "," ++ printItems rest

def printMembers : List (String × Json) → String
  | [] => ""
  | [(name, j)] => printString name ++ ":" ++ j.print
  | (name, j) :: rest => printString name ++ ":" ++ j.print ++ "," ++ printMembers rest

end

end SignOnOperator.Json
