import SignOnOperator.Json.Passing
/-!
# Reading JSON text

From a text to its document, nested at most 127 deep.  Complaints name the first place at which the text can no longer
be JSON.  Where a member's value is broken but can be passed over, reading goes on after it.
-/
namespace SignOnOperator.Document

/-- A document and, unless it is broken, where the text goes on. -/
abbrev Partial := Document × Option Cursor

def Partial.ofScan (first : Place) (scan : Except Fault (Json × Cursor)) : Partial :=
  match scan with
  | .error fault => (.broken fault, none)
  | .ok (j, c) =>
    let span : Span := ⟨first, c.place⟩
    match j with
    | .int n => (.int n span, some c)
    | .float x => (.float x span, some c)
    | .str s => (.str s span, some c)
    | .bool b => (.bool b span, some c)
    | _ => (.null span, some c)

/-- Where a reader of members stands if it stops here: past the closing bracket if that comes next. -/
def closingPlace (c : Cursor) : Place :=
  let c := c.skipBlanks
  match c.rest with
  | '}' :: _ => c.next.place
  | _ => c.place

/-- Where a reader that refuses lists stands after the opening bracket of one. -/
def innerPlace (c : Cursor) : Place :=
  let c := c.skipBlanks
  match c.rest with
  | ']' :: _ | ',' :: _ => c.next.place
  | _ => c.place

mutual

/-- The value that comes next. -/
def scanValue (fuel depth : Nat) (c : Cursor) : Partial :=
  match fuel with
  | 0 => (.broken ⟨"recursion limit exceeded", c.peeked⟩, none)
  | fuel + 1 =>
    let c := c.skipBlanks
    let literal (name : List Char) (j : Json) : Partial :=
      Partial.ofScan c.place ((scanIdent name c.next).map fun after => (j, after))
    match c.rest with
    | [] => (.broken ⟨"EOF while parsing a value", c.peeked⟩, none)
    | 'n' :: _ => literal ['u', 'l', 'l'] .null
    | 't' :: _ => literal ['r', 'u', 'e'] (.bool true)
    | 'f' :: _ => literal ['a', 'l', 's', 'e'] (.bool false)
    | '-' :: _ => Partial.ofScan c.place (scanNumber true c.next)
    | '"' :: _ =>
      Partial.ofScan c.place ((scanString (c.rest.length + 1) [] c.next).map fun (s, after) => (.str s, after))
    | '[' :: _ =>
      if depth = 0 then (.broken ⟨"recursion limit exceeded", c.peeked⟩, none)
      else
        let (items, after) := scanItems fuel (depth - 1) true c.next
        (.arr items ⟨c.place, (after.getD c).place⟩ (innerPlace c.next), after)
    | '{' :: _ =>
      if depth = 0 then (.broken ⟨"recursion limit exceeded", c.peeked⟩, none)
      else
        let (members, fault, after) := scanMembers fuel (depth - 1) true c.next
        (.obj members fault ⟨c.place, (after.getD c).place⟩, after)
    | x :: _ =>
      if x.isDigit then Partial.ofScan c.place (scanNumber false c)
      else (.broken ⟨"expected value", c.peeked⟩, none)

/-- The items of a list and its closing bracket. -/
def scanItems (fuel depth : Nat) (isFirst : Bool) (c : Cursor) : List Document × Option Cursor :=
  match fuel with
  | 0 => ([.broken ⟨"recursion limit exceeded", c.peeked⟩], none)
  | fuel + 1 =>
    let c := c.skipBlanks
    let item (c : Cursor) : List Document × Option Cursor :=
      match scanValue fuel depth c with
      | (d, none) => ([d], none)
      | (d, some c) =>
        let (rest, after) := scanItems fuel depth false c
        (d :: rest, after)
    match c.rest with
    | [] => ([.broken ⟨"EOF while parsing a list", c.peeked⟩], none)
    | ']' :: _ => ([], some c.next)
    | ',' :: _ =>
      if isFirst then item c
      else
        let c := c.next.skipBlanks
        match c.rest with
        | [] => ([.broken ⟨"EOF while parsing a value", c.peeked⟩], none)
        | ']' :: _ => ([.broken ⟨"trailing comma", c.peeked⟩], none)
        | _ => item c
    | _ => if isFirst then item c else ([.broken ⟨"expected \x60,\x60 or \x60]\x60", c.peeked⟩], none)

/-- The members of an object and its closing bracket; the fault is one between members. -/
def scanMembers (fuel depth : Nat) (isFirst : Bool) (c : Cursor) :
    List (Member Document) × Option Fault × Option Cursor :=
  match fuel with
  | 0 => ([], some ⟨"recursion limit exceeded", c.peeked⟩, none)
  | fuel + 1 =>
    let c := c.skipBlanks
    let fail (message : String) (c : Cursor) : List (Member Document) × Option Fault × Option Cursor :=
      ([], some ⟨message, c.peeked⟩, none)
    let member (c : Cursor) : List (Member Document) × Option Fault × Option Cursor :=
      match c.rest with
      | '"' :: _ =>
        match scanString (c.rest.length + 1) [] c.next with
        | .error fault => ([], some fault, none)
        | .ok (name, after) =>
          let colon := after.skipBlanks
          let broken (d : Document) (passing : Fault) : List (Member Document) × Option Fault × Option Cursor :=
            ([⟨name, closingPlace after, d, {}, some passing⟩], none, none)
          let missing (message : String) : List (Member Document) × Option Fault × Option Cursor :=
            broken (.broken ⟨message, colon.peeked⟩) ⟨message, colon.peeked⟩
          match colon.rest with
          | [] => missing "EOF while parsing an object"
          | ':' :: _ =>
            let (d, reached) := scanValue fuel depth colon.next
            match reached.elim (pass colon.next) .ok with
            | .error fault => broken d fault
            | .ok c =>
              let (rest, fault, last) := scanMembers fuel depth false c
              (⟨name, closingPlace after, d, closingPlace c, none⟩ :: rest, fault, last)
          | _ => missing "expected \x60:\x60"
      | _ => fail "key must be a string" c
    match c.rest with
    | [] => fail "EOF while parsing an object" c
    | '}' :: _ => ([], none, some c.next)
    | ',' :: _ =>
      if isFirst then fail "key must be a string" c
      else
        let c := c.next.skipBlanks
        match c.rest with
        | [] => fail "EOF while parsing a value" c
        | '}' :: _ => fail "trailing comma" c
        | _ => member c
    | _ => if isFirst then member c else fail "expected \x60,\x60 or \x60\x7d\x60" c

end

/-- The document of a text, and what is wrong after its end, if anything is. -/
def ofText (text : String) : Document × Option Fault :=
  let cs := text.toList
  match scanValue (2 * cs.length + 2) 127 ⟨cs, {}⟩ with
  | (d, none) => (d, none)
  | (d, some c) =>
    let c := c.skipBlanks
    (d, if c.rest.isEmpty then none else some ⟨"trailing characters", c.peeked⟩)

end Document

/-- The value of a JSON text. -/
def Json.ofText? (text : String) : Except Fault Json := do
  let (document, trailing) := Document.ofText text
  let j ← document.toJson
  match trailing with
  | some fault => .error fault
  | none => .ok j

end SignOnOperator
