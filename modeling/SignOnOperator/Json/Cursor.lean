import SignOnOperator.Json.Document
/-!
# Places in a text under reading

The rest of a text together with the place where it begins, and complaints about it.  Columns count bytes.
-/
namespace SignOnOperator.Document

/-- The rest of a text and where it begins. -/
structure Cursor where
  rest : List Char
  place : Place := {}

namespace Cursor

/-- One byte further, past the first byte of the character that comes next. -/
def peeked (c : Cursor) : Place :=
  match c.rest with
  | [] => c.place
  | '\n' :: _ => ⟨c.place.line + 1, 0⟩
  | _ => ⟨c.place.line, c.place.column + 1⟩

/-- The cursor after its first character. -/
def next (c : Cursor) : Cursor :=
  match c.rest with
  | [] => c
  | x :: rest => ⟨rest, if x = '\n' then ⟨c.place.line + 1, 0⟩ else ⟨c.place.line, c.place.column + x.utf8Size⟩⟩

def isBlank (c : Char) : Bool := c = ' ' || c = '\n' || c = '\t' || c = '\r'

/-- The cursor at the first character that is no blank. -/
def skipBlanks (c : Cursor) : Cursor :=
  skip c.rest c.place
where
  skip : List Char → Place → Cursor
    | [], place => ⟨[], place⟩
    | x :: rest, place =>
      if isBlank x then skip rest (if x = '\n' then ⟨place.line + 1, 0⟩ else ⟨place.line, place.column + 1⟩)
      else ⟨x :: rest, place⟩

/-- The place so many bytes further, or at the end of the text. -/
def placeAfter (n : Nat) (c : Cursor) : Place := go n c.rest c.place
where
  go : Nat → List Char → Place → Place
    | _, [], place => place
    | n, x :: rest, place =>
      if n = 0 then place
      else if x = '\n' then go (n - 1) rest ⟨place.line + 1, 0⟩
      else if n < x.utf8Size then ⟨place.line, place.column + n⟩
      else go (n - x.utf8Size) rest ⟨place.line, place.column + x.utf8Size⟩

end Cursor

/-- A complaint about the next character, placed after its first byte. -/
def complain {α : Type} (message : String) (c : Cursor) : Except Fault α := .error ⟨message, c.peeked⟩

/-- A complaint about what was just read. -/
def complainAt {α : Type} (message : String) (c : Cursor) : Except Fault α := .error ⟨message, c.place⟩

end SignOnOperator.Document
