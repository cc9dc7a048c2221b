import SignOnOperator.Json.Token
/-!
# Passing over JSON

A reader that has no use for a value passes over it.  It checks the syntax alone, so it also passes numbers that are
too great, escapes that stand for no character, and values nested to any depth.
-/
namespace SignOnOperator.Document

/-- Passes the digits that come next. -/
def passDigits (c : Cursor) : Cursor := (digits c 0).2.2

/-- Passes an exponent after its mark. -/
def passExponent (c : Cursor) : Except Fault Cursor :=
  let c := match c.rest with
    | '+' :: _ | '-' :: _ => c.next
    | _ => c
  match c.rest with
  | x :: _ => if x.isDigit then .ok (passDigits c) else complain "invalid number" c
  | [] => complainAt "invalid number" c

/-- Passes what may follow the digits of a number. -/
def passFraction (c : Cursor) : Except Fault Cursor := do
  let c ←
    match c.rest with
    | '.' :: _ =>
      let after := passDigits c.next
      if after.place = c.next.place then complain "invalid number" after else pure after
    | _ => pure c
  match c.rest with
  | 'e' :: _ | 'E' :: _ => passExponent c.next
  | _ => .ok c

/-- Passes a number after its sign. -/
def passNumber (c : Cursor) : Except Fault Cursor :=
  match c.rest with
  | [] => complainAt "invalid number" c
  | x :: _ =>
    if !x.isDigit then complain "invalid number" c
    else if x = '0' then
      match c.next.rest with
      | y :: _ => if y.isDigit then complain "invalid number" c.next else passFraction c.next
      | [] => .ok c.next
    else passFraction (passDigits c)

/-- Passes an escape after its backslash. -/
def passEscape (c : Cursor) : Except Fault Cursor :=
  match c.rest with
  | [] => complainAt "EOF while parsing a string" c
  | x :: _ =>
    if x = 'u' then (scanHex4 c.next).map (·.2)
    else if ['"', '\\', '/', 'b', 'f', 'n', 'r', 't'].contains x then .ok c.next
    else complain "invalid escape" c

/-- Passes a string after its opening quote. -/
def passString : Nat → Cursor → Except Fault Cursor
  | 0, c => complainAt "EOF while parsing a string" c
  | fuel + 1, c =>
    match c.rest with
    | [] => complainAt "EOF while parsing a string" c
    | '"' :: _ => .ok c.next
    | '\\' :: _ => do passString fuel (← passEscape c.next)
    | x :: _ =>
      if x.toNat < 32 then complainAt "control character (\\u0000-\\u001F) found while parsing a string" c
      else passString fuel c.next

mutual

/-- Passes the value that comes next. -/
def passValue (fuel : Nat) (c : Cursor) : Except Fault Cursor :=
  match fuel with
  | 0 => complain "EOF while parsing a value" c
  | fuel + 1 =>
    let c := c.skipBlanks
    match c.rest with
    | [] => complain "EOF while parsing a value" c
    | 'n' :: _ => scanIdent ['u', 'l', 'l'] c.next
    | 't' :: _ => scanIdent ['r', 'u', 'e'] c.next
    | 'f' :: _ => scanIdent ['a', 'l', 's', 'e'] c.next
    | '-' :: _ => passNumber c.next
    | '"' :: _ => passString (c.rest.length + 1) c.next
    | '[' :: _ => passItems fuel true c.next
    | '{' :: _ => passMembers fuel true c.next
    | x :: _ => if x.isDigit then passNumber c else complain "expected value" c

/-- Passes the items of a list and its closing bracket. -/
def passItems (fuel : Nat) (isFirst : Bool) (c : Cursor) : Except Fault Cursor :=
  match fuel with
  | 0 => complain "EOF while parsing a list" c
  | fuel + 1 => do
    let c := c.skipBlanks
    match c.rest with
    | [] => complain "EOF while parsing a list" c
    | ']' :: _ => .ok c.next
    | x :: _ =>
      if isFirst then passItems fuel false (← passValue fuel c)
      else if x = ',' then passItems fuel false (← passValue fuel c.next)
      else complain "expected \x60,\x60 or \x60]\x60" c

/-- Passes the members of an object and its closing bracket. -/
def passMembers (fuel : Nat) (isFirst : Bool) (c : Cursor) : Except Fault Cursor :=
  match fuel with
  | 0 => complain "EOF while parsing an object" c
  | fuel + 1 => do
    let c := c.skipBlanks
    let member (c : Cursor) : Except Fault Cursor := do
      match c.rest with
      | [] => complain "EOF while parsing an object" c
      | '"' :: _ =>
        let colon := (← passString (c.rest.length + 1) c.next).skipBlanks
        match colon.rest with
        | [] => complain "EOF while parsing an object" colon
        | ':' :: _ => passMembers fuel false (← passValue fuel colon.next)
        | _ => complain "expected \x60:\x60" colon
      | _ => complain "key must be a string" c
    match c.rest with
    | [] => complain "EOF while parsing an object" c
    | '}' :: _ => .ok c.next
    | x :: _ =>
      if isFirst then member c
      else if x = ',' then member c.next.skipBlanks
      else complain "expected \x60,\x60 or \x60\x7d\x60" c

end

/-- Passes one value, however it is nested. -/
def pass (c : Cursor) : Except Fault Cursor := passValue (2 * c.rest.length + 2) c

end SignOnOperator.Document
